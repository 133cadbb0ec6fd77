import Casework.Text.Numeral

set_option autoImplicit false

namespace Casework.Program

inductive OptionKind (σ : Type) where
  -- An option without a value.
  | switch (choose : σ → σ)
  -- An option with a value, which may be refused.
  | valued (choose : String → σ → Option σ)

structure OptionSpec (σ : Type) where
  name : String
  kind : OptionKind σ

inductive Reading (α : Type) where
  | chosen (choices : α)
  | help
  | refused
deriving DecidableEq, Repr

def longOption? (argument : String) : Option (String × Option String) :=
  match argument.toList with
  | '-' :: '-' :: letters =>
    let name := String.ofList (letters.takeWhile (· ≠ '='))
    match letters.dropWhile (· ≠ '=') with
    | [] => some (name, none)
    | _ :: value => some (name, some (String.ofList value))
  | _ => none

def shortOptions? (argument : String) : Option (List Char) :=
  match argument.toList with
  | '-' :: letter :: letters => some (letter :: letters)
  | _ => none

def isValue (argument : String) : Bool := (shortOptions? argument).isNone

inductive Progress (σ : Type) where
  | choosing (given : List String) (choices : σ)
  -- The last option given has yet to get its value.
  | awaiting (given : List String) (choices : σ) (choose : String → σ → Option σ)
  -- No more options follow.
  | closed (choices : σ)
  | settled (reading : Reading σ)

namespace Progress

variable {σ : Type}

def proceed (given : List String) : Option σ → Progress σ
  | some choices => .choosing given choices
  | none => .settled .refused

def takeOption (options : List (OptionSpec σ)) (given : List String) (choices : σ) (name : String)
    (value : Option String) : Progress σ :=
  if name ∈ given then .settled .refused
  else
    match (options.find? (·.name == name)).map OptionSpec.kind, value with
    | some (.switch choose), none => .choosing (name :: given) (choose choices)
    | some (.valued choose), some value => proceed (name :: given) (choose value choices)
    | some (.valued choose), none => .awaiting (name :: given) choices choose
    | _, _ => .settled .refused

def takeArgument (options : List (OptionSpec σ)) (given : List String) (choices : σ)
    (argument : String) : Progress σ :=
  match longOption? argument with
  -- Two hyphens alone end the options.
  | some ("", none) => .closed choices
  | some ("help", none) => .settled .help
  | some (name, value) => takeOption options given choices name value
  | none =>
    match shortOptions? argument with
    | some ('h' :: _) => .settled .help
    | _ => .settled .refused

def step (options : List (OptionSpec σ)) (progress : Progress σ) (argument : String) : Progress σ :=
  match progress with
  | .choosing given choices => takeArgument options given choices argument
  | .awaiting given choices choose =>
    if isValue argument then proceed given (choose argument choices) else .settled .refused
  | .closed _ => .settled .refused
  | .settled reading => .settled reading

def finish : Progress σ → Reading σ
  | .choosing _ choices => .chosen choices
  | .awaiting _ _ _ => .refused
  | .closed choices => .chosen choices
  | .settled reading => reading

end Progress

def readOptions {σ : Type} (options : List (OptionSpec σ)) (choices : σ) (arguments : List String) :
    Reading σ :=
  (arguments.foldl (Progress.step options) (.choosing [] choices)).finish

end Casework.Program
