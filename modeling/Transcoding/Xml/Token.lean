import Transcoding.Xml.Aside

/-!
The tokens around the root element and inside the document type, read one character at a time. Most
tokens end where a character follows that cannot be part of them; that character begins the next
one.
-/

namespace Transcoding.Xml

/-- How often a part of a content model may come. -/
inductive Repetition
  | optional
  | any
  | some
  deriving DecidableEq, Repr

def Repetition.of? (c : Char) : Option Repetition :=
  if c == '?' then Option.some .optional
  else if c == '*' then Option.some .any
  else if c == '+' then Option.some .some
  else none

inductive Token
  | space
  | aside (a : Aside)
  | name (text : List Char)
  /-- A name with one colon inside. -/
  | prefixedName (text : List Char)
  /-- Name characters that do not begin like a name. -/
  | nameToken
  | repeatedName
  /-- A name after `#`. -/
  | hashName (text : List Char)
  /-- What stands between two quotes. -/
  | literal (text : List Char)
  | percent
  | parameterReference
  | declaration (keyword : List Char)
  | openBracket
  | closeBracket
  /-- Two closing brackets, and whether `>` follows them. -/
  | closeBrackets (closed : Bool)
  /-- `<![`. -/
  | openSection
  | openGroup
  | closeGroup (repetition : Option Repetition)
  | comma
  | bar
  | close
  /-- `<` and the first character of a name, with the text from that character on. -/
  | root (c : Char) (place : List Char)
  deriving DecidableEq, Repr

inductive NameKind
  | plain
  | colon
  | prefixed
  | token
  deriving DecidableEq, Repr

/-- How much of a token has been read; texts are kept backwards. -/
inductive TokenState
  | start
  | name (kind : NameKind) (done : List Char)
  | literal (quote : Char) (done : List Char)
  | literalEnd (text : List Char)
  | hash
  | hashName (done : List Char)
  | percent
  | parameter
  | bracket
  | brackets
  | groupEnd
  | less
  | bang
  | keyword (done : List Char)
  | aside (s : AsideState)
  deriving DecidableEq, Repr

/-- What a character does to a token. -/
inductive Scan
  | more (s : TokenState)
  | done (t : Token)
  /-- The token ended before the character. -/
  | before (t : Token)
  | invalid
  deriving DecidableEq, Repr

def NameKind.tokenOf (kind : NameKind) (done : List Char) : Token :=
  match kind with
  | .plain => .name done.reverse
  | .prefixed => .prefixedName done.reverse
  | _ => .nameToken

namespace TokenState

/-- The first character of a token. -/
def begin (c : Char) : Scan :=
  if isSpace c then .done .space
  else if c == '<' then .more .less
  else if c == '"' || c == '\'' then .more (.literal c [])
  else if c == '%' then .more .percent
  else if c == ',' then .done .comma
  else if c == '[' then .done .openBracket
  else if c == ']' then .more .bracket
  else if c == '(' then .done .openGroup
  else if c == ')' then .more .groupEnd
  else if c == '|' then .done .bar
  else if c == '>' then .done .close
  else if c == '#' then .more .hash
  else if isNameStart c then .more (.name .plain [c])
  else if isNameChar c || c == ':' then .more (.name .token [c])
  else .invalid

def endsName (c : Char) : Bool :=
  isSpace c || ['>', ')', ',', '|', '[', '%'].contains c

def nameStep (kind : NameKind) (done : List Char) (c : Char) : Scan :=
  if isNameChar c then .more (.name (if kind = .colon then .prefixed else kind) (c :: done))
  else if c == ':' then .more (.name (if kind = .plain then .colon else .token) (c :: done))
  else if endsName c then .before (kind.tokenOf done)
  else if (Repetition.of? c).isSome && (kind = .plain || kind = .prefixed) then .done .repeatedName
  else .invalid

def step (c : Char) (cs : List Char) : TokenState → Scan
  | .start => begin c
  | .name kind done => nameStep kind done c
  | .literal quote done =>
    if c == quote then .more (.literalEnd done.reverse)
    else if isXmlChar c then .more (.literal quote (c :: done))
    else .invalid
  | .literalEnd text =>
    if isSpace c || ['>', '%', '['].contains c then .before (.literal text) else .invalid
  | .hash => if isNameStart c then .more (.hashName [c]) else .invalid
  | .hashName done =>
    if isNameChar c then .more (.hashName (c :: done))
    else if isSpace c || [')', '>', '%', '|'].contains c then .before (.hashName done.reverse)
    else .invalid
  | .percent =>
    if isNameStart c then .more .parameter
    else if isSpace c || c == '%' then .before .percent
    else .invalid
  | .parameter =>
    if c == ';' then .done .parameterReference
    else if isNameChar c then .more .parameter
    else .invalid
  | .bracket => if c == ']' then .more .brackets else .before .closeBracket
  | .brackets => .before (.closeBrackets (c == '>'))
  | .groupEnd =>
    match Repetition.of? c with
    | some r => .done (.closeGroup (some r))
    | none =>
      if isSpace c || ['>', ',', '|', ')'].contains c then .before (.closeGroup none) else .invalid
  | .less =>
    if c == '!' then .more .bang
    else if c == '?' then .more (.aside .question)
    else if isNameStart c || 0x80 ≤ c.toNat then .done (.root c cs)
    else .invalid
  | .bang =>
    if c == '-' then .more (.aside .dash)
    else if c == '[' then .done .openSection
    else if c.isAlpha || c == '_' then .more (.keyword [c])
    else .invalid
  | .keyword done =>
    if c.isAlpha || c == '_' then .more (.keyword (c :: done))
    else if isSpace c then .before (.declaration done.reverse)
    else if c == '%' then
      match cs with
      | _ :: d :: _ =>
        if isSpace d || d == '%' then .invalid else .before (.declaration done.reverse)
      | _ => .more (.keyword done)
    else .invalid
  | .aside s =>
    match s.step c with
    | .more s => .more (.aside s)
    | .done a => .done (.aside a)
    | .invalid => .invalid

/-- What the end of the text makes of a token: a token, or none if it is not complete. At the start
of a token there is nothing to complete. -/
def atEnd? : TokenState → Option Token
  | .name .colon _ => none
  | .name kind done => some (kind.tokenOf done)
  | .literalEnd text => some (.literal text)
  | .hashName done => some (.hashName done.reverse)
  | .bracket => some .closeBracket
  | .groupEnd => some (.closeGroup none)
  | _ => none

end TokenState
end Transcoding.Xml
