import Transcoding.Settings
import Transcoding.Text.Letter

/-!
How the service is started: the least level of messages that are logged, and where the server
listens.
-/

namespace Transcoding

structure ServerOptions where
  app : String
  host : String
  port : Int
  /-- Whether the server starts again when its code changes. -/
  reload : Bool
  deriving DecidableEq, Repr

structure Launch where
  logLevel : Nat
  server : ServerOptions
  deriving DecidableEq, Repr

namespace Launch

def levels : List (String × Nat) :=
  [("CRITICAL", 50), ("FATAL", 50), ("ERROR", 40), ("WARNING", 30), ("WARN", 30), ("INFO", 20),
    ("DEBUG", 10), ("NOTSET", 0)]

structure Fault where
  level : List Char
  deriving DecidableEq, Repr

def Fault.message (f : Fault) : String :=
  "Unknown level: " ++ String.ofList (Text.quote f.level)

/-- The number of a level by its name in any case. -/
def levelOf (name : String) : Except Fault Nat :=
  let upper := Text.toUpper name.toList
  match levels.lookup (String.ofList upper) with
  | some level => .ok level
  | none => .error ⟨upper⟩

def ofSettings (s : Settings) : Except Fault Launch := do
  let level ← levelOf s.logLevel
  return ⟨level, "vtapi.main:app", s.host, s.port, s.debug⟩

def text (l : Launch) : String :=
  l.server.app ++ " on " ++ l.server.host ++ ":" ++ String.ofList (Numeral.ofInt l.server.port) ++
    ", log level " ++ String.ofList (Numeral.ofNat l.logLevel) ++
    if l.server.reload then ", reloading" else ""

end Launch
end Transcoding
