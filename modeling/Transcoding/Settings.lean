import Transcoding.Validation

/-!
The settings of the service and those of the Conductor behind it. Each has a default; the Conductor
is of no use before all of its own are given.
-/

namespace Transcoding

structure ConductorSettings where
  host : String := ""
  userLogin : String := ""
  apiKey : String := ""
  /-- For how many minutes a signed request counts. -/
  authExpires : Int := 0
  awsAccessKeyId : String := ""
  awsSecretAccessKey : String := ""
  destination : String := ""
  deriving DecidableEq, Repr

namespace ConductorSettings

/-- The environment variables of the settings that are not given. -/
def missing (s : ConductorSettings) : List String :=
  [("ELEMENTALCONDUCTOR_HOST", s.host.isEmpty),
    ("ELEMENTALCONDUCTOR_USER_LOGIN", s.userLogin.isEmpty),
    ("ELEMENTALCONDUCTOR_API_KEY", s.apiKey.isEmpty),
    ("ELEMENTALCONDUCTOR_AUTH_EXPIRES", s.authExpires == 0),
    ("ELEMENTALCONDUCTOR_AWS_ACCESS_KEY_ID", s.awsAccessKeyId.isEmpty),
    ("ELEMENTALCONDUCTOR_AWS_SECRET_ACCESS_KEY", s.awsSecretAccessKey.isEmpty),
    ("ELEMENTALCONDUCTOR_DESTINATION", s.destination.isEmpty)].filterMap
      fun (name, absent) => if absent then some name else none

/-- The names by which the settings are given. -/
def names : List String :=
  ["host", "user_login", "api_key", "auth_expires", "aws_access_key_id", "aws_secret_access_key",
    "destination"]

open Validation in
def check (members : Json.Members) : Check ConductorSettings :=
  ConductorSettings.mk <$> optional members "host" "" string
    <*> optional members "user_login" "" string
    <*> optional members "api_key" "" string
    <*> optional members "auth_expires" 0 int
    <*> optional members "aws_access_key_id" "" string
    <*> optional members "aws_secret_access_key" "" string
    <*> optional members "destination" "" string

end ConductorSettings

structure Settings where
  host : String := "0.0.0.0"
  port : Int := 8080
  debug : Bool := false
  logLevel : String := "info"
  httpTimeout : Binary64 := .ofFraction false 30 1
  conductor : ConductorSettings := {}
  deriving DecidableEq, Repr

namespace Settings

/-- The names by which the settings other than those of the Conductor are given. -/
def names : List String :=
  ["host", "port", "debug", "log_level", "http_timeout"]

open Validation in
/-- The settings from members by name, given how those of the Conductor come out. -/
def check (members : Json.Members) (conductor : Check ConductorSettings) : Check Settings :=
  Settings.mk <$> optional members "host" "0.0.0.0" string
    <*> optional members "port" 8080 int
    <*> optional members "debug" false bool
    <*> optional members "log_level" "info" string
    <*> optional members "http_timeout" (.ofFraction false 30 1) float
    <*> conductor

end Settings
end Transcoding
