import Casework.Program.Basic
import Std.Time.DateTime.Timestamp

set_option autoImplicit false

namespace Casework.Program

open Calendar

def variableNames : List String :=
  ["APP_ENV", "APP_HOST", "APP_PORT", "APP_LOG_LEVEL", "ICMS_SEND_LICENCE_TO_CHIEF",
    "ICMS_SEARCH_LIMIT", logVariable]

def readEnvironment : IO Environment := do
  let values ← variableNames.filterMapM fun name => do
    pure ((← IO.getEnv name).map fun value => (name, value))
  pure fun name => values.lookup name

def readClock : IO Instant := do
  let sinceEpoch := (← Std.Time.Timestamp.now).toNanosecondsSinceUnixEpoch.val.toNat
  let second := sinceEpoch / 1000000000
  let instant := do
    let start ← Date.of? 1970 1 1
    let date ← start.addDays? (second / 86400)
    Instant.of? date (second % 86400) (sinceEpoch % 1000000000)
  match instant with
  | some instant => pure instant
  | none => throw (.userError "the clock is outside the calendar")

def reasonOf : IO.Error → String
  | .noFileOrDirectory _ code details | .permissionDenied _ code details
  | .inappropriateType _ code details | .resourceExhausted _ code details
  | .invalidArgument _ code details =>
    details ++ " (os error " ++ Text.numeral code.toNat ++ ")"
  | other => other.toString

def reportFailure (failure : Failure) : IO UInt32 := do
  IO.eprint failure.report
  pure (UInt32.ofNat (Outcome.failed failure).exitCode)

def perform (outcome : Outcome) : IO UInt32 := do
  match outcome with
  | .printed text => IO.print text
  | .saved path text report =>
    try
      IO.FS.writeFile path text
    catch error =>
      return ← reportFailure (.resource (reasonOf error))
    IO.print report
  | .listening _ => return ← reportFailure (.resource "network sockets are not available")
  | .failed failure => return ← reportFailure failure
  | .refused => IO.eprintln "error: unexpected arguments; try --help"
  pure (UInt32.ofNat outcome.exitCode)

end Casework.Program

def main (arguments : List String) : IO UInt32 := do
  let environment ← Casework.Program.readEnvironment
  let now ← Casework.Program.readClock
  Casework.Program.perform (Casework.Program.run environment now arguments)
