/-!
Parts of texts: a text without the blanks at its ends, the last segment of a path, a file name
without its extension. A blank is one of the 29 characters that separate words or lines in some
script; the zero-width space and the byte order mark are not blanks.
-/

namespace Transcoding.Text

def isBlank (c : Char) : Bool :=
  let n := c.toNat
  (0x09 ≤ n && n ≤ 0x0D) || (0x1C ≤ n && n ≤ 0x20) || n == 0x85 || n == 0xA0 || n == 0x1680 ||
    (0x2000 ≤ n && n ≤ 0x200A) || n == 0x2028 || n == 0x2029 || n == 0x202F || n == 0x205F ||
    n == 0x3000

/-- The text without the longest end in which every character satisfies the test. -/
def dropEndWhile (p : Char → Bool) (cs : List Char) : List Char :=
  (cs.reverse.dropWhile p).reverse

/-- The text without the characters at both ends that satisfy the test. -/
def trimWhile (p : Char → Bool) (cs : List Char) : List Char :=
  dropEndWhile p (cs.dropWhile p)

def trim (cs : List Char) : List Char :=
  trimWhile isBlank cs

/-- The blanks that every format of this library knows: tab to carriage return, and space. -/
def isAsciiBlank (c : Char) : Bool :=
  (0x09 ≤ c.toNat && c.toNat ≤ 0x0D) || c == ' '

@[simp] theorem dropEndWhile_nil (p : Char → Bool) : dropEndWhile p [] = [] := rfl

theorem dropEndWhile_append_of_forall {p : Char → Bool} (cs : List Char) {ds : List Char}
    (h : ∀ d ∈ ds, p d = true) : dropEndWhile p (cs ++ ds) = dropEndWhile p cs := by
  have hd : ∀ d ∈ ds.reverse, p d = true := fun d hd => h d (List.mem_reverse.1 hd)
  simp [dropEndWhile, List.dropWhile_append_of_pos hd]

/-- What follows the last slash, or all if there is none. -/
def lastSegment (cs : List Char) : List Char :=
  (cs.reverse.takeWhile (· != '/')).reverse

def dropTrailingSlashes (cs : List Char) : List Char :=
  dropEndWhile (· == '/') cs

/-- A name up to its last dot, or all of it if it has none. -/
def stem (name : List Char) : List Char :=
  match name.reverse.dropWhile (· != '.') with
  | _ :: before => before.reverse
  | [] => name

end Transcoding.Text
