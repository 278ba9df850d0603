import Transcoding.Text.Part

/-!
The hosts of URLs as far as they are numeric addresses. A host that looks like an address of four
numbers, or stands in brackets, has to be one.
-/

namespace Transcoding.Url

def isDecimal (c : Char) : Bool := '0' ≤ c && c ≤ '9'

def isHex (c : Char) : Bool :=
  isDecimal c || ('a' ≤ c && c ≤ 'f') || ('A' ≤ c && c ≤ 'F')

/-- Whether a text is a run of digits followed by `more` further runs, each after any one character;
`inside` tells whether the run at the start has begun. -/
def isDotted (more : Nat) (inside : Bool) : List Char → Bool
  | [] => inside && more == 0
  | c :: rest =>
    (isDecimal c && isDotted more true rest) ||
      (inside && 0 < more && isDotted (more - 1) false rest)

/-- A number below 256 without leading zeros. -/
def isOctet (cs : List Char) : Bool :=
  !cs.isEmpty && cs.all isDecimal && cs.length ≤ 3 && (cs.length == 1 || cs.head? != some '0') &&
    cs.foldl (fun n c => n * 10 + (c.toNat - '0'.toNat)) 0 < 256

def isIpv4 (cs : List Char) : Bool :=
  let parts := cs.splitOn '.'
  parts.length == 4 && parts.all isOctet

def isHextet (cs : List Char) : Bool :=
  !cs.isEmpty && cs.length ≤ 4 && cs.all isHex

/-- The parts of an address of eight groups between colons, an address of four numbers at the end
counting as two groups. -/
def groups? (cs : List Char) : Option (List (List Char)) :=
  let parts := cs.splitOn ':'
  match parts.reverse with
  | last :: before =>
    if !last.contains '.' then some parts
    else if isIpv4 last && 2 ≤ before.length then some (before.reverse ++ [['0'], ['0']])
    else none
  | [] => none

/-- Whether all groups are there, or one run of them is left out for two colons. -/
def isIpv6Groups (parts : List (List Char)) : Bool :=
  let inner := (parts.drop 1).dropLast
  let gaps := inner.countP (·.isEmpty)
  let leading := parts.head?.any (·.isEmpty)
  let trailing := parts.getLast?.any (·.isEmpty)
  if parts.length < 3 || 9 < parts.length || 1 < gaps then false
  else if gaps == 0 then parts.length == 8 && parts.all isHextet
  else
    let leadingFine := !leading || parts[1]?.any (·.isEmpty)
    let trailingFine := !trailing || (parts.reverse)[1]?.any (·.isEmpty)
    let written := parts.filter (!·.isEmpty)
    leadingFine && trailingFine && written.length < 8 && written.all isHextet

def isIpv6 (cs : List Char) : Bool :=
  let (address, zone) := cs.span (· != '%')
  let zoneFine := match zone with
    | [] => true
    | _ :: name => !name.isEmpty && !name.contains '%'
  !cs.contains '/' && zoneFine && (groups? address).any isIpv6Groups

end Transcoding.Url
