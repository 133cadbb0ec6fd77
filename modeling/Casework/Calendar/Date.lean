import Casework.Text.Scan

set_option autoImplicit false

namespace Casework.Calendar

open Casework.Text

def isLeapYear (year : Int) : Bool :=
  year % 4 == 0 && (year % 100 != 0 || year % 400 == 0)

def daysInMonth (year : Int) (month : Nat) : Nat :=
  if month = 2 then if isLeapYear year then 29 else 28
  else if month ∈ [4, 6, 9, 11] then 30
  else 31

def firstYear : Int := -262143

def lastYear : Int := 262142

def IsDay (year : Int) (month day : Nat) : Prop :=
  firstYear ≤ year ∧ year ≤ lastYear ∧ 1 ≤ month ∧ month ≤ 12 ∧
    1 ≤ day ∧ day ≤ daysInMonth year month

instance (year : Int) (month day : Nat) : Decidable (IsDay year month day) := by
  unfold IsDay
  infer_instance

structure Date where
  year : Int
  month : Nat
  day : Nat
  isDay : IsDay year month day := by decide
deriving DecidableEq, Repr

namespace Date

def of? (year : Int) (month day : Nat) : Option Date :=
  if isDay : IsDay year month day then some ⟨year, month, day, isDay⟩ else none

def rank (date : Date) : Int := (date.year * 12 + date.month) * 32 + date.day

instance : LE Date := ⟨fun left right => left.rank ≤ right.rank⟩

instance : LT Date := ⟨fun left right => left.rank < right.rank⟩

instance (left right : Date) : Decidable (left ≤ right) := Int.decLe _ _

instance (left right : Date) : Decidable (left < right) := Int.decLt _ _

theorem day_lt (date : Date) : date.day < 32 := by
  have bound := date.isDay.2.2.2.2.2
  have month : daysInMonth date.year date.month ≤ 31 := by
    unfold daysInMonth
    repeat' split
    all_goals decide
  omega

theorem rank_inj {left right : Date} (same : left.rank = right.rank) : left = right := by
  obtain ⟨year, month, day, isDay⟩ := left
  obtain ⟨year', month', day', isDay'⟩ := right
  have bound := day_lt ⟨year, month, day, isDay⟩
  have bound' := day_lt ⟨year', month', day', isDay'⟩
  simp only [rank] at same bound bound'
  obtain ⟨_, _, _, _, _, _⟩ := isDay
  obtain ⟨_, _, _, _, _, _⟩ := isDay'
  -- Months and days stay below the factors that separate them in a rank.
  have : year = year' ∧ month = month' ∧ day = day' := by omega
  obtain ⟨rfl, rfl, rfl⟩ := this
  rfl

def next? (date : Date) : Option Date :=
  if date.day < daysInMonth date.year date.month then of? date.year date.month (date.day + 1)
  else if date.month < 12 then of? date.year (date.month + 1) 1
  else of? (date.year + 1) 1 1

def previous? (date : Date) : Option Date :=
  if 1 < date.day then of? date.year date.month (date.day - 1)
  else if 1 < date.month then
    of? date.year (date.month - 1) (daysInMonth date.year (date.month - 1))
  else of? (date.year - 1) 12 31

def addDays? (date : Date) : Nat → Option Date
  | 0 => some date
  | count + 1 => (date.next?).bind fun next => next.addDays? count

def writtenYear (year : Int) : List Char :=
  if 0 ≤ year ∧ year ≤ 9999 then padded 4 year.natAbs
  else (if year < 0 then '-' else '+') :: padded 4 year.natAbs

def written (date : Date) : List Char :=
  writtenYear date.year ++ '-' :: padded 2 date.month ++ '-' :: padded 2 date.day

def text (date : Date) : String := String.ofList date.written

def monthNames : List String :=
  ["Jan", "Feb", "Mar", "Apr", "May", "Jun", "Jul", "Aug", "Sep", "Oct", "Nov", "Dec"]

def monthName (date : Date) : String := monthNames.getD (date.month - 1) ""

def longText (separator : String) (date : Date) : String :=
  String.ofList (padded 2 date.day) ++ separator ++ date.monthName ++ separator ++
    String.ofList (writtenYear date.year)

end Date

open Scan

def scanYear : Scan Int := do
  blanks
  orElse (do symbol '-'; let year ← digits; pure (-(year : Int)))
    (orElse (do symbol '+'; let year ← digits; pure (year : Int))
      (do let year ← digitsUpTo 4; pure (year : Int)))

def scanPair : Scan Nat := do
  blanks
  digitsUpTo 2

def scanDate (loose : Bool) : Scan Date := do
  let year ← scanYear
  if loose then blanks
  symbol '-'
  let month ← scanPair
  if loose then blanks
  symbol '-'
  let day ← scanPair
  match Date.of? year month day with
  | some date => pure date
  | none => refuse

def Date.ofText? (text : String) : Option Date :=
  whole (do let date ← scanDate true; blanks; pure date) text

def Date.ofPlainText? (text : String) : Option Date := whole (scanDate false) text

end Casework.Calendar
