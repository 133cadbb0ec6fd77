import Casework.Program.Configuration
import Casework.Program.Options
import Casework.Search.Terms

set_option autoImplicit false

namespace Casework.Program

open Calendar
open Text (trimmed natural? digits? largestWord)

structure ServeChoices where
  host : Option String
  port : Option Nat
deriving DecidableEq, Repr

structure DemoChoices where
  sendsLicences : Bool
  -- The most rows shown of each search.
  limit : Nat
deriving DecidableEq, Repr

structure SearchChoices where
  caseType : Option CaseType
  reference : Option String
  status : Option String
  submittedFrom : Option Date
  limit : Option Nat
  -- The file that the rows are written to instead of being printed.
  spreadsheet : Option String
deriving DecidableEq, Repr

namespace ServeChoices

def none : ServeChoices := ⟨.none, .none⟩

def port? (text : String) : Option Nat :=
  match text.toList with
  | '-' :: digits => (digits? digits).filter (· = 0)
  | _ => natural? largestPort text

def options : List (OptionSpec ServeChoices) :=
  [⟨"host", .valued fun value choices => some { choices with host := some value }⟩,
    ⟨"port", .valued fun value choices =>
      (port? value).map fun port => { choices with port := some port }⟩]

end ServeChoices

namespace DemoChoices

def default : DemoChoices := ⟨false, 10⟩

def options : List (OptionSpec DemoChoices) :=
  [⟨"send-to-chief", .switch fun choices => { choices with sendsLicences := true }⟩,
    ⟨"limit", .valued fun value choices =>
      (natural? largestWord value).map fun limit => { choices with limit }⟩]

end DemoChoices

namespace SearchChoices

def none : SearchChoices := ⟨.none, .none, .none, .none, .none, .none⟩

def options : List (OptionSpec SearchChoices) :=
  [⟨"case-type", .valued fun value choices =>
      (CaseType.ofCode? (trimmed value).toLower).map fun caseType =>
        { choices with caseType := some caseType }⟩,
    ⟨"case-ref", .valued fun value choices => some { choices with reference := some value }⟩,
    ⟨"status", .valued fun value choices => some { choices with status := some value }⟩,
    ⟨"submitted-from", .valued fun value choices =>
      (Date.ofPlainText? (trimmed value)).map fun date =>
        { choices with submittedFrom := some date }⟩,
    ⟨"limit", .valued fun value choices =>
      (natural? largestWord value).map fun limit => { choices with limit := some limit }⟩,
    ⟨"spreadsheet", .valued fun value choices =>
      if value = "" then .none else some { choices with spreadsheet := some value }⟩]

def terms? (choices : SearchChoices) : Option SearchTerms :=
  choices.caseType.map fun caseType =>
    { caseType, status := choices.status, reference := choices.reference
      submittedFrom := choices.submittedFrom }

end SearchChoices

inductive Command where
  | serve (choices : ServeChoices)
  | demo (choices : DemoChoices)
  | search (terms : SearchTerms) (limit : Option Nat) (spreadsheet : Option String)
deriving DecidableEq, Repr

inductive Topic where
  | program
  | serve
  | demo
  | search
  | help
deriving DecidableEq, Repr

def Topic.ofCommand? (name : String) : Option Topic :=
  [("serve", .serve), ("demo", .demo), ("search", .search), ("help", .help)].lookup name

inductive Request where
  | run (command : Command)
  | help (topic : Topic)
  | version
  | refused
deriving DecidableEq, Repr

namespace Request

def ofReading {σ : Type} (topic : Topic) (command? : σ → Option Command) : Reading σ → Request
  | .chosen choices => ((command? choices).map .run).getD .refused
  | .help => .help topic
  | .refused => .refused

def ofSearch (choices : SearchChoices) : Option Command :=
  choices.terms?.map fun terms => .search terms choices.limit choices.spreadsheet

def ofHelp : List String → Request
  | [] => .help .program
  | [name] => ((Topic.ofCommand? name).map .help).getD .refused
  | _ => .refused

def ofArguments : List String → Request
  | [] => .run (.serve .none)
  | "serve" :: arguments =>
    ofReading .serve (fun choices => some (.serve choices))
      (readOptions ServeChoices.options .none arguments)
  | "demo" :: arguments =>
    ofReading .demo (fun choices => some (.demo choices))
      (readOptions DemoChoices.options .default arguments)
  | "search" :: arguments =>
    ofReading .search ofSearch (readOptions SearchChoices.options .none arguments)
  | "help" :: arguments => ofHelp arguments
  | ["--"] => .run (.serve .none)
  | argument :: _ =>
    if argument = "--help" then .help .program
    else if argument = "--version" then .version
    else
      match shortOptions? argument with
      | some ('h' :: _) => .help .program
      | some ('V' :: _) => .version
      | _ => .refused

end Request

end Casework.Program
