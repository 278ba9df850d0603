import Transcoding.Conductor.TransportFault

/-!
What a caller is told when something cannot be done. Every failure belongs to one of six kinds,
whose names callers see, and has a message; names in messages are quoted, so a message never has
more lines than it should.
-/

namespace Transcoding

inductive Failure
  /-- A failure of no special kind. -/
  | plain (message : String)
  | unnamedProvider
  | uncallableFactory (provider : String)
  | alreadyRegistered (provider : String)
  | missingSettings (names : List String)
  /-- Another defect of the configuration, in words. -/
  | invalidConfig (message : String)
  | providerNotFound (name : String)
  | presetNotFound (preset provider : String)
  | transport (fault : TransportFault)
  | capacity (required found : Int)
  deriving Repr

namespace Failure

inductive Kind
  | general
  | invalidConfig
  | providerNotFound
  | presetNotFound
  | transport
  | capacity
  deriving DecidableEq, Repr

def Kind.name : Kind → String
  | .general => "VTAPIError"
  | .invalidConfig => "InvalidConfigError"
  | .providerNotFound => "ProviderNotFoundError"
  | .presetNotFound => "PresetNotFoundError"
  | .transport => "TransportError"
  | .capacity => "CapacityError"

def kind : Failure → Kind
  | .plain _ | .unnamedProvider | .uncallableFactory _ | .alreadyRegistered _ => .general
  | .missingSettings _ | .invalidConfig _ => .invalidConfig
  | .providerNotFound _ => .providerNotFound
  | .presetNotFound _ _ => .presetNotFound
  | .transport _ => .transport
  | .capacity _ _ => .capacity

open Text in
def message : Failure → String
  | .plain message => message
  | .unnamedProvider => "provider name must not be empty"
  | .uncallableFactory provider => "factory for provider " ++ quoted provider ++ " is not callable"
  | .alreadyRegistered provider => "provider " ++ quoted provider ++ " is already registered"
  | .missingSettings names =>
    "missing Elemental Conductor configuration. Please define the environment variables " ++
      ", ".intercalate names ++ " or set these values in the .env file"
  | .invalidConfig message => message
  | .providerNotFound name => "provider not found: " ++ quoted name
  | .presetNotFound preset provider =>
    if preset.isEmpty then "preset not found in provider"
    else "preset " ++ quoted preset ++ " not found in provider " ++ quoted provider
  | .transport fault => fault.message
  | .capacity required found =>
    "there are not enough active nodes. " ++ String.ofList (Numeral.ofInt required) ++
      " nodes required to be active, but found only " ++ String.ofList (Numeral.ofInt found)

end Failure
end Transcoding
