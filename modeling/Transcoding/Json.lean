import Transcoding.Decimal.Binary64

/-!
JSON values. Integers have any size and are apart from numbers written with a point or an exponent;
an object keeps its members in order, one for each name. Escapes can put half of a surrogate pair
into a string, which then is no text; two such names of members are still told apart.
-/

namespace Transcoding

namespace Json

/-- One code point of a JSON text: a character, or half of a surrogate pair by itself. -/
inductive Symbol
  | char (c : Char)
  | half (code : Nat)
  deriving DecidableEq, Repr

def isHigh (n : Nat) : Bool := 0xD800 ≤ n && n < 0xDC00
def isLow (n : Nat) : Bool := 0xDC00 ≤ n && n < 0xE000

def Symbol.ofCode (n : Nat) : Symbol :=
  if isHigh n || isLow n then .half n else .char (Char.ofNat n)

/-- The character that two halves stand for together. -/
def Symbol.pair (high low : Nat) : Symbol :=
  .char (Char.ofNat (0x10000 + (high - 0xD800) * 0x400 + (low - 0xDC00)))

def Symbol.char? : Symbol → Option Char
  | .char c => some c
  | .half _ => none

/-- The name of a member. -/
inductive Name
  | text (s : String)
  /-- Symbols that are not all characters. -/
  | broken (symbols : List Symbol)
  deriving DecidableEq, Repr

instance : Coe String Name := ⟨.text⟩

/-- The name as it is shown, each byte of half of a pair replaced. -/
def Name.shown : Name → String
  | .text s => s
  | .broken symbols => String.ofList (symbols.flatMap fun
    | .char c => [c]
    | .half _ => List.replicate 3 '\ufffd')

end Json

inductive Json
  | null
  | bool (b : Bool)
  | int (i : Int)
  | float (x : Binary64)
  | string (s : String)
  /-- A string with half of a surrogate pair, which is no text. -/
  | brokenString
  | array (items : List Json)
  | object (members : List (Json.Name × Json))
  deriving Repr

namespace Json

/-- The members of an object, in order. -/
abbrev Members := List (Name × Json)

def Name.json : Name → Json
  | .text s => .string s
  | .broken _ => .brokenString

/-- The members with one more; a member of that name is replaced where it stands. -/
def insert (name : Name) (value : Json) : Members → Members
  | [] => [(name, value)]
  | (n, v) :: rest => if n == name then (n, value) :: rest else (n, v) :: insert name value rest

/-- An object from members in order, of which the last of one name counts. -/
def ofMembers (members : Members) : Json :=
  .object (members.foldl (fun found (n, v) => insert n v found) [])

def get? (name : Name) : Json → Option Json
  | .object members => members.lookup name
  | _ => none

end Json
end Transcoding
