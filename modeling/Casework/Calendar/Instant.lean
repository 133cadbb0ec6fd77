import Casework.Calendar.Date

set_option autoImplicit false

namespace Casework.Calendar

open Casework.Text

-- A leap second is told by `nano` at or above one billion in the second before it.
structure Instant where
  date : Date
  second : Nat
  nano : Nat
  second_lt : second < 86400 := by decide
  nano_lt : nano < 2000000000 := by decide
deriving DecidableEq, Repr

namespace Instant

def of? (date : Date) (second nano : Nat) : Option Instant :=
  if inDay : second < 86400 ∧ nano < 2000000000 then some ⟨date, second, nano, inDay.1, inDay.2⟩
  else none

def rank (instant : Instant) : Int :=
  (instant.date.rank * 86400 + instant.second) * 2000000000 + instant.nano

instance : LE Instant := ⟨fun left right => left.rank ≤ right.rank⟩

instance : LT Instant := ⟨fun left right => left.rank < right.rank⟩

instance (left right : Instant) : Decidable (left ≤ right) := Int.decLe _ _

instance (left right : Instant) : Decidable (left < right) := Int.decLt _ _

theorem rank_inj {left right : Instant} (same : left.rank = right.rank) : left = right := by
  obtain ⟨date, second, nano, second_lt, nano_lt⟩ := left
  obtain ⟨date', second', nano', second_lt', nano_lt'⟩ := right
  simp only [rank] at same
  have : date.rank = date'.rank ∧ second = second' ∧ nano = nano' := by omega
  obtain ⟨days, rfl, rfl⟩ := this
  obtain rfl := Date.rank_inj days
  rfl

def hour (instant : Instant) : Nat := instant.second / 3600

def minute (instant : Instant) : Nat := instant.second / 60 % 60

def isLeap (instant : Instant) : Bool := 1000000000 ≤ instant.nano

def secondOfMinute (instant : Instant) : Nat :=
  instant.second % 60 + if instant.isLeap then 1 else 0

def fraction (instant : Instant) : Nat := instant.nano % 1000000000

def writtenFraction (fraction : Nat) : List Char :=
  if fraction = 0 then []
  else if fraction % 1000000 = 0 then '.' :: padded 3 (fraction / 1000000)
  else if fraction % 1000 = 0 then '.' :: padded 6 (fraction / 1000)
  else '.' :: padded 9 fraction

def writtenMinute (instant : Instant) : List Char :=
  padded 2 instant.hour ++ ':' :: padded 2 instant.minute

def written (instant : Instant) : List Char :=
  instant.date.written ++ 'T' :: instant.writtenMinute ++
    ':' :: padded 2 instant.secondOfMinute ++ writtenFraction instant.fraction ++ ['Z']

def text (instant : Instant) : String := String.ofList instant.written

def longText (instant : Instant) : String :=
  instant.date.longText " " ++ " " ++
    String.ofList (instant.writtenMinute ++ ':' :: padded 2 instant.secondOfMinute)

def minuteText (instant : Instant) : String :=
  instant.date.longText "-" ++ " " ++ String.ofList instant.writtenMinute

def shifted? (date : Date) (second nano : Nat) (shift : Int) : Option Instant :=
  let moved := second + shift
  if moved < 0 then (date.previous?).bind fun day => of? day (moved + 86400).toNat nano
  else if 86400 ≤ moved then (date.next?).bind fun day => of? day (moved - 86400).toNat nano
  else of? date moved.toNat nano

end Instant

open Scan

def scanFraction : Scan Nat := fun text =>
  match text with
  | '.' :: rest =>
    let run := (rest.take 9).takeWhile Char.isDigit
    (digits? run).map fun value =>
      (value * Nat.pow 10 (9 - run.length), (rest.drop run.length).dropWhile Char.isDigit)
  | _ => some (0, text)

def scanTwoDigits : Scan Nat := do
  let tens ← letter Char.isDigit
  let ones ← letter Char.isDigit
  pure (10 * (tens.toNat - 48) + (ones.toNat - 48))

def scanShift : Scan Int := do
  -- The minus sign of typesetters is read like a hyphen.
  let sign ← letter fun sign => sign == '+' || sign == '-' || sign == '\u2212'
  let hours ← scanTwoDigits
  modify (·.dropWhile fun between => between == ':' || isBlank between)
  let minutes ← scanTwoDigits
  if 24 ≤ hours ∨ 60 ≤ minutes then refuse
  else
    let seconds : Int := hours * 3600 + minutes * 60
    pure (if sign == '+' then seconds else -seconds)

def scanZone : Scan Int := do
  blanks
  orElse
    (do
      let _ ← letter fun first => first.toLower == 'u'
      let _ ← letter fun second => second.toLower == 't'
      let _ ← letter fun third => third.toLower == 'c'
      pure 0)
    (orElse (do let _ ← letter fun zulu => zulu.toLower == 'z'; pure 0) scanShift)

def scanInstant : Scan Instant := do
  let date ← scanDate true
  let _ ← letter fun between => between == 'T' || between == 't' || between == ' '
  let hour ← scanPair
  blanks
  symbol ':'
  let minute ← scanPair
  blanks
  symbol ':'
  let second ← scanPair
  let fraction ← scanFraction
  let shift ← scanZone
  blanks
  if 24 ≤ hour ∨ 60 ≤ minute ∨ 61 ≤ second then refuse
  else
    -- A leap second is kept in the second before it.
    let leap := second = 60
    let ofDay := hour * 3600 + minute * 60 + if leap then 59 else second
    match Instant.shifted? date ofDay (fraction + if leap then 1000000000 else 0) (-shift) with
    | some instant => pure instant
    | none => refuse

def Instant.ofText? (text : String) : Option Instant := whole scanInstant text

end Casework.Calendar
