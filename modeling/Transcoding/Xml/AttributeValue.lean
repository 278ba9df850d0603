import Transcoding.Xml.Doctype
import Transcoding.Xml.Fault

/-!
Attribute values: white space becomes spaces, references are replaced, and unless the attribute is
of character data the spaces at both ends go and inner runs shrink to one. The text of an entity is
read as part of the value in turn; an entity inside itself is a fault, and so is a text that grows
out of proportion.
-/

namespace Transcoding.Xml

inductive Piece
  | char (c : Char)
  /-- White space or a line end as written. -/
  | blank
  | reference (r : Reference)
  deriving DecidableEq, Repr

/-- How much of a value has been read, its pieces backwards, each with the text from it on. -/
structure ValueState where
  pieces : List (Piece × List Char) := []
  afterReturn : Bool := false
  /-- A reference that is being read, and the text from it on. -/
  reference : Option (ReferenceState × List Char) := none

/-- A character of a value, with the text from it on; none if it does not belong there. -/
def ValueState.step (s : ValueState) (c : Char) (cs : List Char) : Option ValueState :=
  match s.reference with
  | some (r, start) =>
    match r.step c with
    | .more r => some { s with reference := some (r, start) }
    | .done r => some ⟨(.reference r, start) :: s.pieces, false, none⟩
    | .invalid => none
  | none =>
    if c == '&' then some ⟨s.pieces, false, some (.start, cs)⟩
    else if c == '\n' && s.afterReturn then some { s with afterReturn := false }
    else if isSpace c then some ⟨(.blank, cs) :: s.pieces, c == '\r', none⟩
    else if c == '<' || !isXmlChar c then none
    else some ⟨(.char c, cs) :: s.pieces, false, none⟩

/-- The pieces of a text up to its first wrong character or unfinished reference, and the text from
there on if there is one. -/
def ValueState.run (s : ValueState) : List Char → List (Piece × List Char) × Option (List Char)
  | [] => (s.pieces.reverse, s.reference.map (·.2))
  | c :: rest =>
    match s.step c (c :: rest) with
    | some s => s.run rest
    | none => (s.pieces.reverse, some (c :: rest))

/-- A value that is being put together, backwards, and how many characters entities
may still add. -/
structure ValueBuilder where
  done : List Char
  budget : Nat

namespace ValueBuilder

def space (cdata : Bool) (b : ValueBuilder) : ValueBuilder :=
  if !cdata && (b.done.isEmpty || b.done.head? == some ' ') then b
  else { b with done := ' ' :: b.done }

/-- A fault of a value, with a place if it has one of its own. -/
abbrev Outcome := Except (FaultKind × Option (List Char)) ValueBuilder

/-- Adds a piece; `expand` adds an entity, given its name and the place of the reference. -/
def piece (expand : List Char → List Char → ValueBuilder → Outcome) (cdata : Bool)
    (b : ValueBuilder) : Piece × List Char → Outcome
  | (.char c, _) => .ok { b with done := c :: b.done }
  | (.blank, _) => .ok (b.space cdata)
  | (.reference (.number n), place) =>
    match charOf? n with
    | none => .error (.badCharacterNumber, some place)
    | some ' ' => .ok (b.space cdata)
    | some c => .ok { b with done := c :: b.done }
  | (.reference (.entity name), place) =>
    match predefined? name with
    | some c => .ok { b with done := c :: b.done }
    | none => expand name place b

/-- Adds the text of an entity, where the entities in `opened` are being replaced already. `depth`
bounds how far entities can nest. A fault inside the text has no place. -/
def entity (d : Doctype) (cdata : Bool) :
    Nat → List (List Char) → List Char → List Char → ValueBuilder → Outcome
  | 0, _, _, _, _ => .error (.recursiveEntity, none)
  | depth + 1, opened, name, place, b =>
    match d.entity? name with
    | none => if d.complete then .error (.undefinedEntity, none) else .ok b
    | some .unparsed => .error (.binaryEntity, some place)
    | some .external => .error (.externalEntityInAttribute, some place)
    | some (.internal text) =>
      if opened.contains name then .error (.recursiveEntity, none)
      else if b.budget < text.length then .error (.amplification, none)
      else
        let (ps, wrong) := ValueState.run {} text
        match ps.foldlM (piece (entity d cdata depth (name :: opened)) cdata)
            { b with budget := b.budget - text.length } with
        | .ok b => if wrong.isSome then .error (.invalidToken, none) else .ok b
        | .error (kind, _) => .error (kind, none)

def value (d : Doctype) (cdata : Bool) (opened : List (List Char)) (ps : List (Piece × List Char))
    (b : ValueBuilder) : Except (FaultKind × Option (List Char)) (List Char × Nat) := do
  let b ← ps.foldlM (piece (entity d cdata (d.entities.length + 1) opened) cdata) b
  let done := if !cdata && b.done.head? == some ' ' then b.done.drop 1 else b.done
  return (done.reverse, b.budget)

end ValueBuilder
end Transcoding.Xml
