import Casework.Text.Blank
import Casework.Text.Numeral

set_option autoImplicit false

namespace Casework.Text

abbrev Scan (α : Type) := StateT (List Char) Option α

namespace Scan

def refuse {α : Type} : Scan α := fun _ => none

def blanks : Scan Unit := fun text => some ((), dropBlanks text)

def letter (allowed : Char → Bool) : Scan Char
  | [] => none
  | first :: rest => if allowed first then some (first, rest) else none

def symbol (expected : Char) : Scan Unit := do
  let _ ← letter (· == expected)

def digitsUpTo (most : Nat) : Scan Nat := fun text =>
  let run := (text.take most).takeWhile Char.isDigit
  (digits? run).map (·, text.drop run.length)

def digits : Scan Nat := fun text =>
  let run := text.takeWhile Char.isDigit
  (digits? run).map (·, text.drop run.length)

def finish : Scan Unit
  | [] => some ((), [])
  | _ :: _ => none

def orElse {α : Type} (first second : Scan α) : Scan α := fun text =>
  (first text).or (second text)

def whole {α : Type} (scan : Scan α) (text : String) : Option α :=
  ((do let value ← scan; finish; pure value : Scan α).run text.toList).map Prod.fst

end Scan

end Casework.Text
