import Transcoding.Json
import Transcoding.Decimal.Shortest
import Transcoding.Text.Utf8

/-!
Writing JSON text without any space. Strings keep every character but the quote, the backslash and
the controls; numbers with a fraction are written with the fewest digits that read back.
-/

namespace Transcoding.Json

def escape (c : Char) : List Char :=
  if c == '"' then ['\\', '"']
  else if c == '\\' then ['\\', '\\']
  else if c.toNat < 0x20 then '\\' :: 'u' :: Text.hexDigits c.toNat 4
  else [c]

def writeString (s : String) (tail : List Char) : List Char :=
  '"' :: (s.toList.foldr (fun c tail => escape c ++ tail) ('"' :: tail))

def writeFloat : Binary64 → List Char
  | .infinite true => "-Infinity".toList
  | .infinite false => "Infinity".toList
  | .nan => ['N', 'a', 'N']
  | x => x.text

mutual

/-- A value in front of a text. -/
def writeBefore : Json → List Char → List Char
  | .null, tail => 'n' :: 'u' :: 'l' :: 'l' :: tail
  | .bool true, tail => 't' :: 'r' :: 'u' :: 'e' :: tail
  | .bool false, tail => 'f' :: 'a' :: 'l' :: 's' :: 'e' :: tail
  | .int i, tail => Numeral.ofInt i ++ tail
  | .float x, tail => writeFloat x ++ tail
  | .string s, tail => writeString s tail
  | .brokenString, tail => writeString (String.singleton Text.replacement) tail
  | .array items, tail => '[' :: writeItems items true (']' :: tail)
  | .object members, tail => '\x7b' :: writeMembers members true ('\x7d' :: tail)

def writeItems : List Json → Bool → List Char → List Char
  | [], _, tail => tail
  | item :: rest, first, tail =>
    let body := writeBefore item (writeItems rest false tail)
    if first then body else ',' :: body

def writeMembers : Members → Bool → List Char → List Char
  | [], _, tail => tail
  | (name, value) :: rest, first, tail =>
    let body := writeString name.shown (':' :: writeBefore value (writeMembers rest false tail))
    if first then body else ',' :: body

end

def write (value : Json) : String :=
  String.ofList (writeBefore value [])

end Transcoding.Json
