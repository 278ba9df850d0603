import Transcoding.Launch
import Transcoding.Settings.Environment
import Transcoding.Text.Utf8

/-!
The command line: the settings are taken from the environment, as Linux shows it to the process, and
from the file `.env` in the working directory; what follows from them for the server is printed.
-/

namespace Transcoding.Main

/-- How many arrays and objects in each other there is room for on the stack. -/
def levels : Nat := 980

/-- A variable with its value, as the system writes it. -/
def assignment? (entry : List Char) : Option (String × String) :=
  match entry.span (· != '=') with
  | (name, _ :: value) => some (String.ofList name, String.ofList value)
  | (_, []) => none

/-- All variables of the environment. -/
def environment : IO (List (String × String)) := do
  let bytes ← IO.FS.readBinFile "/proc/self/environ"
  return ((Text.ofUtf8 bytes.toList).splitOn '\x00').filterMap assignment?

def file : IO (Option String) := do
  try
    return some (← IO.FS.readFile ".env")
  catch _ =>
    return none

def complaint : Settings.Fault → String
  | .unreadable setting origin => Settings.unreadableMessage setting origin
  | .tooDeep => "maximum recursion depth exceeded"
  | .invalid issues => "\n".intercalate (issues.map fun i =>
      ".".intercalate (i.place.map Place.text) ++ ": " ++ i.kind.name)

def run : IO UInt32 := do
  match Settings.ofEnvironment levels (← environment) (← file) with
  | .error fault =>
    IO.eprintln (complaint fault)
    return 1
  | .ok settings =>
    match Launch.ofSettings settings with
    | .error fault =>
      IO.eprintln fault.message
      return 1
    | .ok launch =>
      IO.println launch.text
      return 0

end Transcoding.Main

def main : IO UInt32 :=
  Transcoding.Main.run
