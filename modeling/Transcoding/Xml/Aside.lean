import Transcoding.Xml.Reference

/-!
Comments and processing instructions, read one character at a time. They leave no trace in the tree;
only the declaration at the start of a document, which looks like an instruction, has a meaning.
-/

namespace Transcoding.Xml

inductive Aside
  | comment
  | instruction
  /-- What stands between `<?xml` and `?>`. -/
  | declaration (body : List Char)
  deriving DecidableEq, Repr

/-- How much of a comment or instruction has been read. -/
inductive AsideState
  /-- After `<!-`. -/
  | dash
  | comment
  | commentDash
  | commentDashes
  /-- After `<?`. -/
  | question
  | target (done : List Char)
  /-- After the question mark next to the target. -/
  | targetQuestion (declares : Bool)
  /-- In the rest of an instruction, which is kept backwards if it may be a declaration. -/
  | body (declares : Bool) (done : List Char)
  | bodyQuestion (declares : Bool) (done : List Char)
  deriving DecidableEq, Repr

/-- Whether a target is that of a declaration; none for the other spellings of it, which no
instruction may have. -/
def declares? (target : List Char) : Option Bool :=
  if target = ['x', 'm', 'l'] then some true
  else if target.map Char.toLower = ['x', 'm', 'l'] then none
  else some false

def Aside.ofInstruction (declares : Bool) (body : List Char) : Aside :=
  if declares then .declaration body else .instruction

def AsideState.inBody (declares : Bool) (done : List Char) (c : Char) : Progress AsideState Aside :=
  if c == '?' then .more (.bodyQuestion declares done)
  else if isXmlChar c then .more (.body declares (if declares then c :: done else done))
  else .invalid

def AsideState.step (c : Char) : AsideState → Progress AsideState Aside
  | .dash => if c == '-' then .more .comment else .invalid
  | .comment =>
    if c == '-' then .more .commentDash else if isXmlChar c then .more .comment else .invalid
  | .commentDash =>
    if c == '-' then .more .commentDashes else if isXmlChar c then .more .comment else .invalid
  | .commentDashes => if c == '>' then .done .comment else .invalid
  | .question => if isNameStart c then .more (.target [c]) else .invalid
  | .target done =>
    if isNameChar c then .more (.target (c :: done))
    else match declares? done.reverse with
      | none => .invalid
      | some declares =>
        if isSpace c then .more (.body declares (if declares then [c] else []))
        else if c == '?' then .more (.targetQuestion declares)
        else .invalid
  | .targetQuestion declares =>
    if c == '>' then .done (Aside.ofInstruction declares []) else .invalid
  | .body declares done => inBody declares done c
  | .bodyQuestion declares done =>
    if c == '>' then .done (Aside.ofInstruction declares done.reverse)
    else inBody declares (if declares then '?' :: done else done) c

end Transcoding.Xml
