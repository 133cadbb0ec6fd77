set_option autoImplicit false

namespace Casework.Text

def decimal (number : Nat) : List Char := Nat.toDigits 10 number

def padded (width number : Nat) : List Char := (decimal number).leftpad width '0'

def digits? (text : List Char) : Option Nat :=
  if text ≠ [] ∧ text.all Char.isDigit then some (Nat.ofDigitChars 10 text 0) else none

theorem isDigit_of_mem_decimal {number : Nat} {letter : Char} (member : letter ∈ decimal number) :
    letter.isDigit = true :=
  Nat.isDigit_of_mem_toDigits (by decide) (by decide) member

theorem decimal_ne_nil (number : Nat) : decimal number ≠ [] := Nat.toDigits_ne_nil

theorem digits?_of_isDigit {text : List Char} (some_digit : text ≠ [])
    (all_digits : ∀ letter ∈ text, letter.isDigit = true) :
    digits? text = some (Nat.ofDigitChars 10 text 0) := by
  rw [digits?, if_pos ⟨some_digit, List.all_eq_true.2 all_digits⟩]

theorem digits?_decimal (number : Nat) : digits? (decimal number) = some number := by
  rw [digits?_of_isDigit (decimal_ne_nil number) fun _ => isDigit_of_mem_decimal, decimal,
    Nat.ofDigitChars_toDigits (by decide) (by decide)]

theorem digits?_padded (width number : Nat) : digits? (padded width number) = some number := by
  rw [digits?_of_isDigit]
  · simp [padded, List.leftpad, Nat.ofDigitChars_append, decimal,
      Nat.ofDigitChars_toDigits (b := 10) (by decide) (by decide)]
  · simp [padded, List.leftpad, decimal_ne_nil]
  · intro letter member
    rcases List.mem_append.1 member with zero | digit
    · rw [(List.mem_replicate.1 zero).2]
      decide
    · exact isDigit_of_mem_decimal digit

def hexDigit? (letter : Char) : Option Nat :=
  if letter.isDigit then some (letter.toNat - 48)
  else if 'a' ≤ letter ∧ letter ≤ 'f' then some (letter.toNat - 87)
  else if 'A' ≤ letter ∧ letter ≤ 'F' then some (letter.toNat - 55)
  else none

def hexNumber? (letters : List Char) : Option Nat :=
  (letters.mapM hexDigit?).map fun values =>
    values.foldl (fun number value => 16 * number + value) 0

def natural? (largest : Nat) (text : String) : Option Nat :=
  let spelled := match text.toList with
    | '+' :: rest => rest
    | plain => plain
  -- A sign alone spells no number.
  (digits? spelled).filter (· ≤ largest)

def largestWord : Nat := 0xffffffffffffffff

def numeral (number : Nat) : String := String.ofList (decimal number)

def signedNumeral (number : Int) : String :=
  if number < 0 then "-" ++ numeral number.natAbs else numeral number.natAbs

end Casework.Text
