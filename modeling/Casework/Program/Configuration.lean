import Casework.Network.Address

set_option autoImplicit false

namespace Casework.Program

open Text (trimmed natural? largestWord)
open Network (Address)

abbrev Environment := String → Option String

inductive Stage where
  | development
  | test
  | production
deriving DecidableEq, Repr

namespace Stage

def name : Stage → String
  | .development => "development"
  | .test => "test"
  | .production => "production"

def ofWord (word : String) : Stage :=
  let plain := (trimmed word).toLower
  if plain ∈ ["prod", "production"] then .production
  else if plain ∈ ["test", "ci"] then .test
  else .development

end Stage

structure Configuration where
  stage : Stage
  host : String
  port : Nat
  -- Which events are logged.
  logFilter : String
  sendsLicences : Bool
  -- The number of rows that a search answers unless it asks for another.
  searchLimit : Nat
deriving DecidableEq, Repr

inductive ConfigurationError where
  | port
  | host
  | licenceSwitch (value : String)
  | searchLimit (value : String)
deriving DecidableEq, Repr

def ConfigurationError.message : ConfigurationError → String
  | .port => "APP_PORT must be a valid u16"
  | .host => "APP_HOST must parse to an IPv4 or IPv6 address"
  | .licenceSwitch value =>
    "ICMS_SEND_LICENCE_TO_CHIEF must be true or false, got '" ++ value ++ "'"
  | .searchLimit value => "ICMS_SEARCH_LIMIT must be a positive integer, got '" ++ value ++ "'"

def largestPort : Nat := 65535

def switch? (word : String) : Option Bool :=
  let plain := (trimmed word).toLower
  if plain ∈ ["1", "true", "yes", "on"] then some true
  else if plain ∈ ["0", "false", "no", "off"] then some false
  else none

namespace Configuration

def default : Configuration :=
  { stage := .development, host := "127.0.0.1", port := 3000, logFilter := "info"
    sendsLicences := false, searchLimit := 200 }

def valueOf {α : Type} (environment : Environment) (name : String) (missing : α)
    (read : String → Option α) (error : String → ConfigurationError) :
    Except ConfigurationError α :=
  match environment name with
  | none => .ok missing
  | some value =>
    match read value with
    | some result => .ok result
    | none => .error (error value)

def load (environment : Environment) : Except ConfigurationError Configuration := do
  let stage := ((environment "APP_ENV").map Stage.ofWord).getD default.stage
  -- The first fault in this order is the one that is reported.
  let port ← valueOf environment "APP_PORT" default.port
    (fun value => natural? largestPort (trimmed value)) fun _ => .port
  let sendsLicences ← valueOf environment "ICMS_SEND_LICENCE_TO_CHIEF" default.sendsLicences
    switch? .licenceSwitch
  let searchLimit ← valueOf environment "ICMS_SEARCH_LIMIT" default.searchLimit
    (fun value => (natural? largestWord (trimmed value)).filter (0 < ·)) .searchLimit
  pure
    { stage
      host := (environment "APP_HOST").getD default.host
      port
      logFilter := (environment "APP_LOG_LEVEL").getD default.logFilter
      sendsLicences
      searchLimit }

def address (configuration : Configuration) : Except ConfigurationError Address :=
  if configuration.host.toLower = "localhost" then .ok .loopback
  else
    match Address.ofText? configuration.host with
    | some address => .ok address
    | none => .error .host

def endpoint (configuration : Configuration) : Except ConfigurationError String :=
  configuration.address.map (·.withPort configuration.port)

end Configuration

end Casework.Program
