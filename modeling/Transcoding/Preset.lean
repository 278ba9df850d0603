import Transcoding.Validation

/-!
Presets: named encodings, each with the identifier it has at every provider that offers it.
-/

namespace Transcoding

structure OutputOptions where
  extension : String := ""
  deriving DecidableEq, Repr

/-- The extension without its leading dots. -/
def OutputOptions.bareExtension (o : OutputOptions) : String :=
  String.ofList (o.extension.toList.dropWhile (· == '.'))

structure Preset where
  name : String
  outputOptions : OutputOptions := {}
  /-- The identifier of the preset at each provider, by the name of the provider. -/
  providerMapping : List (String × String) := []
  deriving DecidableEq, Repr

namespace Preset

open Validation

def checkOptions (notRecord : IssueKind) (value : Json) : Check OutputOptions :=
  record notRecord value fun members =>
    OutputOptions.mk <$> optional members "extension" "" string

def check (notRecord : IssueKind) (value : Json) : Check Preset :=
  record notRecord value fun members =>
    Preset.mk <$> required members "name" string
      <*> optional members "output_opts" {} (checkOptions notRecord)
      <*> optional members "provider_mapping" [] mapping

end Preset
end Transcoding
