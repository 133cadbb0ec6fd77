import Casework.Program.Help
import Casework.Program.Listing
import Casework.Program.LogFilter

set_option autoImplicit false

namespace Casework.Program

open Calendar

inductive Failure where
  | configuration (error : ConfigurationError)
  | logFilter (value : String)
  | case (error : CaseError)
  -- A file or an address could not be used.
  | resource (reason : String)
deriving DecidableEq, Repr

namespace Failure

def message : Failure → String
  | .configuration error => "configuration error: " ++ error.message
  | .logFilter value => "telemetry error: invalid log filter '" ++ value ++ "'"
  | .case error => "case error: " ++ error.message
  | .resource reason => "io error: " ++ reason

def report (failure : Failure) : String := "application error: " ++ failure.message ++ "\n"

end Failure

inductive Outcome where
  | printed (text : String)
  -- The text goes to a file, and then the report of it is printed.
  | saved (path text report : String)
  | listening (configuration : Configuration)
  | failed (failure : Failure)
  -- The command line asks for nothing that there is.
  | refused
deriving DecidableEq, Repr

namespace Outcome

def ofExcept : Except Failure Outcome → Outcome
  | .ok outcome => outcome
  | .error failure => .failed failure

def exitCode : Outcome → Nat
  | .printed _ | .saved _ _ _ | .listening _ => 0
  | .failed _ => 1
  | .refused => 2

end Outcome

def logVariable : String := "RUST_LOG"

def checkLogFilter (environment : Environment) (configured : String) : Except Failure Unit :=
  let isOverridden := (environment logVariable).any LogFilter.isValid
  if isOverridden || LogFilter.isValid configured then .ok ()
  else .error (.logFilter configured)

def serve (environment : Environment) (choices : ServeChoices) : Except Failure Outcome := do
  let loaded ← (Configuration.load environment).mapError .configuration
  let configuration :=
    { loaded with
      host := choices.host.getD loaded.host
      port := choices.port.getD loaded.port }
  -- Logging is set up before the host is read.
  checkLogFilter environment configuration.logFilter
  let _ ← configuration.endpoint.mapError .configuration
  pure (.listening configuration)

def sampleSetting (now : Instant) (sendsLicences : Bool) : Setting :=
  { now, sendsLicences, searchLimit := Configuration.default.searchLimit
    transport := fun _ => none }

def runSession {α : Type} (setting : Setting) (session : Session α) : Except Failure α :=
  match (session.run setting).run .initial with
  | .ok (value, _) => .ok value
  | .error error => .error (.case error)

def demonstrate (choices : DemoChoices) : Session Outcome := do
  let applications ← Demonstration.seed
  let searches ← CaseType.all.mapM fun caseType => do
    let results ← Session.of (Work.search { caseType } (some choices.limit))
    pure (caseType, results)
  let waiting ← Session.of Work.pendingLicences
  pure (.printed (Listing.demonstration applications searches waiting))

def search (terms : SearchTerms) (limit : Option Nat) (spreadsheet : Option String) :
    Session Outcome := do
  let _ ← Demonstration.seed
  match spreadsheet with
  | some path =>
    let text ← Session.of (Work.spreadsheet terms)
    pure (.saved path text ("Search results written to " ++ path ++ "\n"))
  | none =>
    let results ← Session.of (Work.search terms limit)
    pure (.printed (Listing.found results))

def Command.outcome (environment : Environment) (now : Instant) : Command → Except Failure Outcome
  | .serve choices => Program.serve environment choices
  | .demo choices => runSession (sampleSetting now choices.sendsLicences) (demonstrate choices)
  | .search terms limit spreadsheet =>
    runSession (sampleSetting now Configuration.default.sendsLicences)
      (Program.search terms limit spreadsheet)

def run (environment : Environment) (now : Instant) (arguments : List String) : Outcome :=
  match Request.ofArguments arguments with
  | .run command => .ofExcept (command.outcome environment now)
  | .help topic => .printed topic.text
  | .version => .printed versionText
  | .refused => .refused

end Casework.Program
