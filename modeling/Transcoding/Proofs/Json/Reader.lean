import Transcoding.Json.Encoding
import Transcoding.Json.Reader
import Transcoding.Proofs.Text.Utf8

/-!
Reading JSON from bytes. Text in UTF-8 that begins with an ASCII character and has no null in it is
taken for what it is. Two kinds of text are refused for their size and not for their form: integers
of too many digits, and arrays in each other beyond the limit.
-/

namespace Transcoding.Json

open Text

end Transcoding.Json
