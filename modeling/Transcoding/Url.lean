import Transcoding.Idna
import Transcoding.Text.Letter
import Transcoding.Text.Numeral
import Transcoding.Text.Utf8
import Transcoding.Url.Host

/-!
URLs in their normal form, as `httpx` brings a text into it before a request is sent. Scheme and
host are in lower case, a port that the scheme implies is left out, the path has no dot segments,
and what cannot stand as it is becomes percent escapes; escapes that are there already stay. Reading
never fails on structure: a text without scheme and host is a path. URLs that are put together from
parts, and parts of a URL that are asked for by themselves, are not covered, nor is how a fault of a
host outside ASCII is explained.
-/

namespace Transcoding

structure Url where
  scheme : List Char
  userinfo : List Char
  host : List Char
  port : Option Int
  path : List Char
  query : Option (List Char)
  fragment : Option (List Char)
  deriving DecidableEq, Repr

namespace Url

open Text

inductive Fault
  | tooLong
  | control (c : Char) (index : Nat)
  | port (text : List Char)
  | ipv4 (host : List Char)
  | ipv6 (host : List Char)
  | foreignHost (host : List Char)
  | rootlessPath
  | relativeSlashes
  | relativeColon
  deriving DecidableEq, Repr

def Fault.message : Fault → String
  | .tooLong => "URL too long"
  | .control c index =>
    "Invalid non-printable ASCII character in URL, " ++ String.ofList (quote [c]) ++
      " at position " ++ String.ofList (Numeral.ofNat index) ++ "."
  | .port text => "Invalid port: " ++ String.ofList (quote text)
  | .ipv4 host => "Invalid IPv4 address: " ++ String.ofList (quote host)
  | .ipv6 host => "Invalid IPv6 address: " ++ String.ofList (quote host)
  | .foreignHost host => "Invalid IDNA hostname: " ++ String.ofList (quote host)
  | .rootlessPath => "For absolute URLs, path must be empty or begin with '/'"
  | .relativeSlashes => "Relative URLs cannot have a path starting with '//'"
  | .relativeColon => "Relative URLs cannot have a path starting with ':'"

/-- The most characters that a URL may have. -/
def maxLength : Nat := 65536

def isControl (c : Char) : Bool :=
  c.toNat < 0x20 || c.toNat == 0x7F

def escapeByte (b : UInt8) : List Char :=
  '%' :: (hexDigits b.toNat 2).map Char.toUpper

/-- The text with every character that may not stand as it is escaped. -/
def escape (safe : Char → Bool) (cs : List Char) : List Char :=
  cs.flatMap fun c => if safe c then [c] else (utf8Bytes c).flatMap escapeByte

/-- Whether a character is printable ASCII other than space and some more. -/
def isPlain (excluded : List Char) (c : Char) : Bool :=
  0x20 < c.toNat && c.toNat < 0x7F && !excluded.contains c

def isFragmentSafe : Char → Bool := isPlain ['"', '<', '>', '\x60']

def isQuerySafe : Char → Bool := isPlain ['"', '#', '<', '>']

def isPathSafe : Char → Bool := isPlain ['"', '#', '<', '>', '?', '\x60', '\x7b', '\x7d']

def isUserinfoSafe : Char → Bool :=
  isPlain ['"', '#', '<', '>', '?', '\x60', '\x7b', '\x7d', '/', ';', '=', '@', '[', '\\', ']', '^',
    '|']

def isHostSafe (c : Char) : Bool :=
  c.isAlphanum || ['-', '.', '_', '~', '!', '$', '&', '\'', '(', ')', '*', '+', ',', ';', '=', '"',
    '\x60', '\x7b', '\x7d', '%', '|', '\\'].contains c

/-- Splits at the first character of a kind, which belongs to neither part. -/
def splitFirst (p : Char → Bool) (cs : List Char) : List Char × Option (List Char) :=
  match cs.span (!p ·) with
  | (before, _ :: after) => (before, some after)
  | (before, []) => (before, none)

def isSchemeChar (c : Char) : Bool :=
  c.isAlphanum || c == '+' || c == '.' || c == '-'

def splitScheme (cs : List Char) : List Char × List Char :=
  match cs.span isSchemeChar with
  | ([], ':' :: rest) => ([], rest)
  | (c :: scheme, ':' :: rest) => if c.isAlpha then (c :: scheme, rest) else ([], cs)
  | _ => ([], cs)

/-- What stands between two slashes and the path, if a text begins with two slashes,
and the rest. -/
def splitAuthority : List Char → List Char × List Char
  | '/' :: '/' :: rest => rest.span fun c => c != '/' && c != '?' && c != '#'
  | cs => ([], cs)

def splitUserinfo (cs : List Char) : List Char × List Char :=
  let host := (cs.reverse.takeWhile (· != '@')).reverse
  if host.length == cs.length then ([], cs) else (cs.take (cs.length - host.length - 1), host)

def splitHost (cs : List Char) : List Char × List Char :=
  let dropColon : List Char → List Char
    | ':' :: rest => rest
    | rest => rest
  let bracketed := (cs.reverse.dropWhile (· != ']')).reverse
  if cs.head? == some '[' && !bracketed.isEmpty then
    (bracketed, dropColon (cs.drop bracketed.length))
  else
    let (host, rest) := cs.span (· != ':')
    (host, dropColon rest)

def encodeHost (host : List Char) : Except Fault (List Char) :=
  if host.isEmpty then .ok []
  else if isDotted 3 false host then if isIpv4 host then .ok host else .error (.ipv4 host)
  else if host.head? == some '[' && host.getLast? == some ']' then
    let inner := (host.drop 1).dropLast
    if isIpv6 inner then .ok inner else .error (.ipv6 host)
  else if host.all (·.toNat < 0x80) then .ok (escape isHostSafe (host.map Char.toLower))
  else match Idna.encode? (toLower host) with
    | some encoded => .ok encoded
    | none => .error (.foreignHost host)

def defaultPorts : List (String × Int) :=
  [("ftp", 21), ("http", 80), ("https", 443), ("ws", 80), ("wss", 443)]

def portOf (text scheme : List Char) : Except Fault (Option Int) :=
  if text.isEmpty then .ok none
  else match Numeral.read text with
    | .error _ => .error (.port text)
    | .ok port =>
      .ok (if defaultPorts.lookup (String.ofList scheme) == some port then none else some port)

/-- The segments of a path without those of one dot, and without those of two dots and what they
take back. The empty segment before the first slash is never taken back. -/
def dropDots (done : List (List Char)) : List (List Char) → List (List Char)
  | [] => done.reverse
  | segment :: rest =>
    if segment = ['.'] then dropDots done rest
    else if segment = ['.', '.'] then dropDots (if done = [[]] then done else done.drop 1) rest
    else dropDots (segment :: done) rest

def normalPath (path : List Char) : List Char :=
  ['/'].intercalate (dropDots [] (path.splitOn '/'))

def checkPath (path : List Char) (hasScheme hasAuthority : Bool) : Except Fault Unit :=
  if hasAuthority then
    if path.isEmpty || path.head? == some '/' then .ok () else .error .rootlessPath
  else if hasScheme then .ok ()
  else match path with
    | '/' :: '/' :: _ => .error .relativeSlashes
    | ':' :: _ => .error .relativeColon
    | _ => .ok ()

/-- The first control character of a text and where it stands. -/
def control? (index : Nat) : List Char → Option (Char × Nat)
  | [] => none
  | c :: rest => if isControl c then some (c, index) else control? (index + 1) rest

def parse (text : List Char) : Except Fault Url := do
  if maxLength < text.length then throw .tooLong
  if let some (c, index) := control? 0 text then throw (.control c index)
  let (scheme, rest) := splitScheme text
  let (authority, rest) := splitAuthority rest
  let (beforeFragment, fragment) := splitFirst (· == '#') rest
  let (path, query) := splitFirst (· == '?') beforeFragment
  let (userinfo, hostAndPort) := splitUserinfo authority
  let (hostText, portText) := splitHost hostAndPort
  let userinfo := escape isUserinfoSafe userinfo
  let host ← encodeHost hostText
  let port ← portOf portText scheme
  let hasScheme := !scheme.isEmpty
  let hasAuthority := !userinfo.isEmpty || !host.isEmpty || port.isSome
  checkPath path hasScheme hasAuthority
  let path := if hasScheme || hasAuthority then normalPath path else path
  return {
    scheme := scheme.map Char.toLower
    userinfo := userinfo
    host := host
    port := port
    path := escape isPathSafe path
    query := query.map (escape isQuerySafe)
    fragment := fragment.map (escape isFragmentSafe) }

/-- A part with the character that introduces it, or nothing. -/
def introduced (mark : Char) : Option (List Char) → List Char
  | some part => mark :: part
  | none => []

def authority (u : Url) : List Char :=
  let userinfo := if u.userinfo.isEmpty then [] else u.userinfo ++ ['@']
  let host := if u.host.contains ':' then '[' :: (u.host ++ [']']) else u.host
  userinfo ++ (host ++ introduced ':' (u.port.map Numeral.ofInt))

def text (u : Url) : List Char :=
  let scheme := if u.scheme.isEmpty then [] else u.scheme ++ [':']
  let authority := if u.authority.isEmpty then [] else '/' :: '/' :: u.authority
  scheme ++ (authority ++ (u.path ++ (introduced '?' u.query ++ introduced '#' u.fragment)))

/-- The address that a request goes to. Without both a scheme and a host only path and query count,
below the root. -/
def target (u : Url) : Url :=
  if !u.scheme.isEmpty && !u.host.isEmpty then u
  else { u with
    scheme := []
    userinfo := []
    host := []
    port := none
    path := '/' :: u.path.dropWhile (· == '/')
    fragment := none }

end Url
end Transcoding
