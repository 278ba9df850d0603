import Transcoding.Text.Part

/-!
Files of variables as the settings are read from, with the notation of `dotenv`. There is one
assignment a line: `NAME=value`, perhaps after the word `export`. A value stands as it is or in
quotes, and `#` begins a comment. A line that is none of this is passed over. In every value a name
in braces after a dollar sign stands for the value of that variable. The file is given as its text:
how it is found and decoded is not covered.
-/

namespace Transcoding.Dotenv

open Text

/-- A name and its value; a name may stand without one. -/
abbrev Assignment := List Char × Option (List Char)

/-- The text with every line end written as a line feed. -/
def unifyLines : List Char → List Char
  | '\r' :: '\n' :: rest => '\n' :: unifyLines rest
  | '\r' :: rest => '\n' :: unifyLines rest
  | c :: rest => c :: unifyLines rest
  | [] => []

def isInlineBlank (c : Char) : Bool :=
  isBlank c && c != '\n'

/-- The text after the word `export` and the blanks after it, if it begins so. -/
def skipExport (cs : List Char) : List Char :=
  match cs with
  | 'e' :: 'x' :: 'p' :: 'o' :: 'r' :: 't' :: rest =>
    if rest.head?.any isInlineBlank then rest.dropWhile isInlineBlank else cs
  | _ => cs

/-- The body of a quoted value and what follows the closing quote. The value closes at the first
quote that no backslash stands before, or else at the last quote of all. -/
def closing? (quote : Char) : List Char → Option (List Char × List Char)
  | [] => none
  | c :: rest =>
    if c == quote then some ([], rest)
    else if c == '\\' then
      match rest with
      | [] => none
      | d :: tail =>
        if d == quote then
          match closing? quote tail with
          | some (body, after) => some ('\\' :: quote :: body, after)
          | none => some (['\\'], tail)
        else
          (closing? quote (d :: tail)).map fun (body, after) => (c :: body, after)
    else (closing? quote rest).map fun (body, after) => (c :: body, after)

/-- What a letter after a backslash stands for between double quotes. -/
def doubleEscape? : Char → Option Char
  | '\\' => some '\\'
  | '\'' => some '\''
  | '"' => some '"'
  | 'a' => some '\x07'
  | 'b' => some '\x08'
  | 'f' => some '\x0c'
  | 'n' => some '\n'
  | 'r' => some '\r'
  | 't' => some '\t'
  | 'v' => some '\x0b'
  | _ => none

/-- What a character after a backslash stands for between single quotes. -/
def singleEscape? : Char → Option Char
  | '\\' => some '\\'
  | '\'' => some '\''
  | _ => none

/-- The body of a quoted value with its escapes replaced; any other backslash stays. -/
def unescape (escape? : Char → Option Char) : List Char → List Char
  | [] => []
  | [c] => [c]
  | c :: d :: rest =>
    match if c == '\\' then escape? d else none with
    | some e => e :: unescape escape? rest
    | none => c :: unescape escape? (d :: rest)

/-- A value without quotes up to the comment after it; `blank` tells whether a
blank stands before. -/
def dropComment (blank : Bool) : List Char → List Char
  | [] => []
  | c :: rest => if blank && c == '#' then [] else c :: dropComment (isBlank c) rest

/-- A value and what follows it. The error is the text from where no value can be read on. -/
def readValue : List Char → Except (List Char) (List Char × List Char)
  | '\'' :: rest =>
    match closing? '\'' rest with
    | some (body, after) => .ok (unescape singleEscape? body, after)
    | none => .error ('\'' :: rest)
  | '"' :: rest =>
    match closing? '"' rest with
    | some (body, after) => .ok (unescape doubleEscape? body, after)
    | none => .error ('"' :: rest)
  | cs =>
    let (line, after) := cs.span (· != '\n')
    .ok (dropEndWhile isBlank (dropComment false line), after)

/-- The name of an assignment, none for a comment, and what follows it. -/
def readName : List Char → Except (List Char) (Option (List Char) × List Char)
  | '#' :: rest => .ok (none, '#' :: rest)
  | '\'' :: rest =>
    match rest.span (· != '\'') with
    | (c :: name, _ :: after) => .ok (some (c :: name), after)
    | _ => .error ('\'' :: rest)
  | cs =>
    match cs.span fun c => c != '=' && c != '#' && !isBlank c with
    | ([], _) => .error cs
    | (name, after) => .ok (some name, after)

/-- The text after the end of a line, before which only blanks and a comment may stand. -/
def endLine (cs : List Char) : Except (List Char) (List Char) :=
  let afterComment := match cs.dropWhile isInlineBlank with
    | '#' :: rest => rest.dropWhile (· != '\n')
    | _ => cs
  match afterComment.dropWhile isInlineBlank with
  | [] => .ok []
  | '\n' :: rest => .ok rest
  | _ => .error afterComment

/-- One assignment, or none in a comment, and the text after its line. -/
def readLine (cs : List Char) : Except (List Char) (Option Assignment × List Char) := do
  let (name, rest) ← readName (skipExport cs)
  let rest := rest.dropWhile isInlineBlank
  let (value, rest) ← match rest with
    | '=' :: rest =>
      (readValue (rest.dropWhile isInlineBlank)).map fun (v, after) => (some v, after)
    | rest => .ok (none, rest)
  return (name.map (·, value), ← endLine rest)

/-- All assignments of a text in at most `lines` lines. -/
def readLines : Nat → List Char → List Assignment
  | 0, _ => []
  | lines + 1, cs =>
    match cs.dropWhile isBlank with
    | [] => []
    | cs =>
      match readLine cs with
      | .ok (found, rest) => found.toList ++ readLines lines rest
      | .error rest => readLines lines ((rest.dropWhile (· != '\n')).drop 1)

/-- A part of a value. -/
inductive Atom
  | text (c : Char)
  /-- The value of a variable, or the default if there is none. -/
  | value (name default : List Char)
  deriving DecidableEq, Repr

/-- The variable that a text names after a dollar sign and an opening brace, and what follows. -/
def readVariable (cs : List Char) : Option (Atom × List Char) :=
  match cs.span fun c => c != '\x7d' && c != ':' with
  | (name, '\x7d' :: after) => some (.value name [], after)
  | (name, ':' :: '-' :: rest) =>
    match rest.span (· != '\x7d') with
    | (default, _ :: after) => some (.value name default, after)
    | _ => none
  | _ => none

/-- The parts of a value of at most `size` characters. -/
def atoms : Nat → List Char → List Atom
  | 0, _ | _, [] => []
  | size + 1, c :: rest =>
    match c, rest with
    | '$', '\x7b' :: inner =>
      match readVariable inner with
      | some (atom, after) => atom :: atoms size after
      | none => .text c :: atoms size rest
    | _, _ => .text c :: atoms size rest

/-- The names of the variables that a value refers to. -/
def referred (value : List Char) : List (List Char) :=
  (atoms value.length value).filterMap fun
    | .text _ => none
    | .value name _ => some name

/-- A value with its variables replaced, given the values known so far, the latest first. -/
def interpolate (known : List Assignment) (value : List Char) : List Char :=
  (atoms value.length value).flatMap fun
    | .text c => [c]
    | .value name default =>
      match known.lookup name with
      | some found => found.getD []
      | none => default

/-- The assignments with their variables replaced. A name stands for its latest value above, or else
for the one that the environment gives it. -/
def resolve (known : List Assignment) : List Assignment → List Assignment
  | [] => []
  | (name, value) :: rest =>
    let value := value.map (interpolate known)
    (name, value) :: resolve ((name, value) :: known) rest

/-- The assignments with one more; one of the same name is replaced where it stands. -/
def assign (a : Assignment) : List Assignment → List Assignment
  | [] => [a]
  | b :: rest => if b.1 = a.1 then a :: rest else b :: assign a rest

/-- The assignments of a text as they are written. -/
def written (text : List Char) : List Assignment :=
  readLines text.length (unifyLines text)

/-- The values that an environment gives before any assignment, the last first. -/
def initial (environment : List (List Char × List Char)) : List Assignment :=
  environment.reverse.map fun (name, value) => (name, some value)

/-- The assignments of a text within an environment, one for each name. -/
def read (environment : List (List Char × List Char)) (text : List Char) : List Assignment :=
  (resolve (initial environment) (written text)).foldl (fun found a => assign a found) []

end Transcoding.Dotenv
