import Casework.Calendar.Instant
import Casework.Proofs.Reference.Written
import Mathlib.Data.List.TakeWhile

set_option autoImplicit false

namespace Casework

namespace Text

theorem length_padded {width number : Nat} (some_width : 0 < width)
    (fits : number < Nat.pow 10 width) : (padded width number).length = width := by
  have digits : (decimal number).length ≤ width :=
    (Nat.length_toDigits_le_iff (by decide) some_width).2 fits
  rw [padded, List.length_leftpad, Nat.max_eq_left digits]

theorem padded_ne_nil (width number : Nat) : padded width number ≠ [] := by
  simp [padded, List.leftpad, decimal_ne_nil]

theorem isBlank_of_isDigit {letter : Char} (digit : letter.isDigit = true) :
    isBlank letter = false := by
  have bounds : 48 ≤ letter.toNat ∧ letter.toNat ≤ 57 := by
    simpa [Char.isDigit, UInt32.le_iff_toNat_le] using digit
  have apart : ∀ code ∈ blankCodes, code < 48 ∨ 57 < code := by decide
  rw [isBlank, List.contains_eq_mem, decide_eq_false_iff_not]
  intro member
  have := apart _ member
  omega

theorem takeWhile_digits {digits : List Char} {stop : Char} (rest : List Char)
    (all_digits : ∀ letter ∈ digits, letter.isDigit = true) (ends : stop.isDigit = false) :
    (digits ++ stop :: rest).takeWhile Char.isDigit = digits := by
  rw [List.takeWhile_append_of_pos all_digits, List.takeWhile_cons_of_neg (by simp [ends]),
    List.append_nil]

namespace Scan

variable {α β : Type}

def Reads (scan : Scan α) (text : List Char) (value : α) (rest : List Char) : Prop :=
  scan text = some (value, rest)

theorem reads_pure (value : α) (text : List Char) : Reads (pure value) text value text := rfl

theorem Reads.bind {scan : Scan α} {next : α → Scan β} {text middle rest : List Char} {value : α}
    {result : β} (first : Reads scan text value middle)
    (second : Reads (next value) middle result rest) :
    Reads (scan >>= next) text result rest := by
  change (scan text >>= fun taken => next taken.1 taken.2) = _
  rw [first]
  exact second

theorem bind_refused {scan : Scan α} {next : α → Scan β} {text : List Char}
    (refused : scan text = none) : (scan >>= next) text = none := by
  change (scan text >>= fun taken => next taken.1 taken.2) = _
  rw [refused]
  rfl

theorem Reads.orElse {first second : Scan α} {text rest : List Char} {value : α}
    (read : Reads first text value rest) : Reads (orElse first second) text value rest := by
  rw [Reads, Scan.orElse, read, Option.some_or]

theorem Reads.otherwise {first second : Scan α} {text rest : List Char} {value : α}
    (refused : first text = none) (read : Reads second text value rest) :
    Reads (Scan.orElse first second) text value rest := by
  rw [Reads, Scan.orElse, refused, Option.none_or, read]

theorem whole_of_reads {scan : Scan α} {text : List Char} {value : α}
    (read : Reads scan text value []) : whole scan (String.ofList text) = some value := by
  have all : Reads (do let value ← scan; finish; pure value) text value [] :=
    read.bind ((show Reads finish [] () [] from rfl).bind (reads_pure value []))
  change Option.map Prod.fst ((do let value ← scan; finish; pure value : Scan α) _) = _
  rw [String.toList_ofList, all, Option.map_some]

theorem reads_letter {allowed : Char → Bool} {first : Char} (rest : List Char)
    (fits : allowed first = true) : Reads (letter allowed) (first :: rest) first rest :=
  if_pos fits

theorem letter_refused {allowed : Char → Bool} {first : Char} (rest : List Char)
    (unfit : allowed first = false) : letter allowed (first :: rest) = none :=
  if_neg (by simp [unfit])

theorem reads_symbol (expected : Char) (rest : List Char) :
    Reads (symbol expected) (expected :: rest) () rest :=
  have taken : Reads (letter (· == expected)) (expected :: rest) expected rest :=
    reads_letter rest (beq_self_eq_true expected)
  taken.bind (reads_pure () rest)

theorem symbol_refused {expected first : Char} (rest : List Char) (other : first ≠ expected) :
    symbol expected (first :: rest) = none :=
  bind_refused (letter_refused rest (beq_eq_false_iff_ne.2 other))

theorem reads_blanks {first : Char} (rest : List Char) (dark : isBlank first = false) :
    Reads blanks (first :: rest) () (first :: rest) := by
  rw [Reads, blanks, dropBlanks, List.dropWhile_cons_of_neg (by simp [dark])]

theorem reads_no_blanks : Reads blanks [] () [] := rfl

theorem exists_digit (width number : Nat) (rest : List Char) :
    ∃ first more, padded width number ++ rest = first :: more ∧ first.isDigit = true := by
  obtain ⟨first, more, shape⟩ := List.exists_cons_of_ne_nil (padded_ne_nil width number)
  exact ⟨first, more ++ rest, by rw [shape, List.cons_append],
    isDigit_of_mem_padded (shape ▸ List.mem_cons_self)⟩

theorem reads_blanks_padded (width number : Nat) (rest : List Char) :
    Reads blanks (padded width number ++ rest) () (padded width number ++ rest) := by
  obtain ⟨first, more, shape, digit⟩ := exists_digit width number rest
  rw [shape]
  exact reads_blanks more (isBlank_of_isDigit digit)

theorem symbol_refused_padded {expected : Char} (width number : Nat) (rest : List Char)
    (letter : expected.isDigit = false) : symbol expected (padded width number ++ rest) = none := by
  obtain ⟨first, more, shape, digit⟩ := exists_digit width number rest
  rw [shape]
  refine symbol_refused more fun same => ?_
  rw [same, letter] at digit
  exact Bool.false_ne_true digit

theorem reads_digits (width number : Nat) {stop : Char} (rest : List Char)
    (ends : stop.isDigit = false) :
    Reads digits (padded width number ++ stop :: rest) number (stop :: rest) := by
  rw [Reads, digits, takeWhile_digits rest (fun _ => isDigit_of_mem_padded) ends, digits?_padded,
    Option.map_some, List.drop_left]

theorem reads_digitsUpTo {width number : Nat} (rest : List Char) (some_width : 0 < width)
    (fits : number < Nat.pow 10 width) :
    Reads (digitsUpTo width) (padded width number ++ rest) number rest := by
  have length := length_padded some_width fits
  have run : ((padded width number ++ rest).take width).takeWhile Char.isDigit =
      padded width number := by
    rw [List.take_left' length, List.takeWhile_eq_self_iff]
    exact fun _ => isDigit_of_mem_padded
  rw [Reads, digitsUpTo, run, digits?_padded, Option.map_some, List.drop_left]

end Scan

end Text

namespace Calendar

open Text Scan

theorem reads_year (year : Int) (rest : List Char) :
    Reads scanYear (Date.writtenYear year ++ '-' :: rest) year ('-' :: rest) := by
  rw [Date.writtenYear]
  by_cases plain : 0 ≤ year ∧ year ≤ 9999
  · rw [if_pos plain]
    have same : (year.natAbs : Int) = year := Int.natAbs_of_nonneg plain.1
    -- No digit is taken for a sign.
    refine (reads_blanks_padded 4 _ _).bind (.otherwise ?_ (.otherwise ?_ ?_))
    · exact bind_refused (symbol_refused_padded 4 _ _ (by decide))
    · exact bind_refused (symbol_refused_padded 4 _ _ (by decide))
    · have read := reads_digitsUpTo ('-' :: rest) (show 0 < 4 by decide)
        (show year.natAbs < 10000 by omega)
      refine read.bind ?_
      rw [same]
      exact reads_pure year _
  · rw [if_neg plain, List.cons_append]
    have read := reads_digits 4 year.natAbs rest (show '-'.isDigit = false by decide)
    by_cases negative : year < 0
    · rw [if_pos negative]
      have same : -(year.natAbs : Int) = year := by omega
      refine (reads_blanks _ (by decide)).bind (.orElse ?_)
      refine (reads_symbol '-' _).bind (read.bind ?_)
      rw [same]
      exact reads_pure year _
    · rw [if_neg negative]
      have same : (year.natAbs : Int) = year := by omega
      refine (reads_blanks _ (by decide)).bind (.otherwise ?_ (.orElse ?_))
      · exact bind_refused (symbol_refused _ (by decide))
      · refine (reads_symbol '+' _).bind (read.bind ?_)
        rw [same]
        exact reads_pure year _

theorem reads_pair {number : Nat} (rest : List Char) (fits : number < 100) :
    Reads scanPair (padded 2 number ++ rest) number rest :=
  (reads_blanks_padded 2 number rest).bind (reads_digitsUpTo rest (by decide) fits)

theorem Date.of?_eq (date : Date) : Date.of? date.year date.month date.day = some date :=
  dif_pos date.isDay

theorem reads_date (date : Date) (rest : List Char) :
    Reads (scanDate true) (date.written ++ rest) date rest := by
  have month : date.month < 100 := lt_of_le_of_lt date.isDay.2.2.2.1 (by decide)
  have day : date.day < 100 := lt_trans date.day_lt (by decide)
  simp only [Date.written, List.append_assoc, List.cons_append]
  refine (reads_year _ _).bind ((reads_blanks _ (by decide)).bind ((reads_symbol '-' _).bind ?_))
  refine (reads_pair _ month).bind
    ((reads_blanks _ (by decide)).bind ((reads_symbol '-' _).bind ?_))
  refine (reads_pair _ day).bind ?_
  rw [date.of?_eq]
  exact reads_pure date rest

theorem Date.ofText?_text (date : Date) : Date.ofText? date.text = some date := by
  have read := reads_date date []
  rw [List.append_nil] at read
  exact whole_of_reads (read.bind (reads_no_blanks.bind (reads_pure date [])))

namespace Instant

def IsWritable (instant : Instant) : Prop :=
  instant.isLeap = true → instant.second % 60 = 59

instance (instant : Instant) : Decidable instant.IsWritable :=
  inferInstanceAs (Decidable (_ → _))

end Instant

theorem reads_point {width number : Nat} {stop : Char} (rest : List Char) (some_width : 0 < width)
    (short : width ≤ 9) (fits : number < Nat.pow 10 width) (ends : stop.isDigit = false) :
    Reads scanFraction ('.' :: padded width number ++ stop :: rest)
      (number * Nat.pow 10 (9 - width)) (stop :: rest) := by
  have length := length_padded some_width fits
  have run : ((padded width number ++ stop :: rest).take 9).takeWhile Char.isDigit =
      padded width number := by
    rw [List.take_append, length, List.take_of_length_le (by omega),
      List.takeWhile_append_of_pos fun _ => isDigit_of_mem_padded]
    -- Where fewer than nine digits are written, the run ends at the next letter.
    cases places : 9 - width with
    | zero => rw [List.take_zero, List.takeWhile_nil, List.append_nil]
    | succ left =>
      rw [List.take_succ_cons, List.takeWhile_cons_of_neg (by simp [ends]), List.append_nil]
  rw [Reads, List.cons_append]
  simp only [scanFraction, run, digits?_padded, length, List.drop_left' length,
    List.dropWhile_cons_of_neg (show ¬stop.isDigit = true by simp [ends]), Option.map_some]

theorem reads_fraction {fraction : Nat} (rest : List Char) (fits : fraction < 1000000000) :
    Reads scanFraction (Instant.writtenFraction fraction ++ 'Z' :: rest) fraction
      ('Z' :: rest) := by
  have ends : 'Z'.isDigit = false := by decide
  rw [Instant.writtenFraction]
  split
  case isTrue whole =>
    rw [whole]
    rfl
  split
  case isTrue thousandths =>
    have same : fraction / 1000000 * Nat.pow 10 (9 - 3) = fraction := by
      change fraction / 1000000 * 1000000 = fraction
      omega
    simpa only [same] using reads_point rest (show 0 < 3 by decide) (by decide)
      (show fraction / 1000000 < 1000 by omega) ends
  split
  case isTrue millionths =>
    have same : fraction / 1000 * Nat.pow 10 (9 - 6) = fraction := by
      change fraction / 1000 * 1000 = fraction
      omega
    simpa only [same] using reads_point rest (show 0 < 6 by decide) (by decide)
      (show fraction / 1000 < 1000000 by omega) ends
  case isFalse =>
    have same : fraction * Nat.pow 10 (9 - 9) = fraction := Nat.mul_one fraction
    simpa only [same] using reads_point rest (show 0 < 9 by decide) (le_refl 9) fits ends

theorem reads_zone (rest : List Char) : Reads scanZone ('Z' :: rest) 0 rest := by
  refine (reads_blanks _ (by decide)).bind (.otherwise ?_ (.orElse ?_))
  · exact bind_refused (letter_refused _ (by decide))
  · exact (reads_letter _ (by decide)).bind (reads_pure 0 rest)

theorem Instant.shifted?_zero (instant : Instant) :
    Instant.shifted? instant.date instant.second instant.nano 0 = some instant := by
  have early := instant.second_lt
  rw [Instant.shifted?]
  simp only [Int.add_zero]
  rw [if_neg (by omega), if_neg (by omega), Int.toNat_natCast, Instant.of?,
    dif_pos ⟨instant.second_lt, instant.nano_lt⟩]

theorem Instant.second_of_parts {instant : Instant} (writable : instant.IsWritable) :
    instant.hour * 3600 + instant.minute * 60 +
      (if instant.secondOfMinute = 60 then 59 else instant.secondOfMinute) = instant.second := by
  unfold IsWritable at writable
  unfold hour minute secondOfMinute
  cases leap : instant.isLeap with
  | true =>
    have last := writable leap
    simp only [last, if_true]
    omega
  | false =>
    simp only [Bool.false_eq_true, if_false]
    split <;> omega

theorem Instant.nano_of_parts {instant : Instant} (writable : instant.IsWritable) :
    instant.fraction + (if instant.secondOfMinute = 60 then 1000000000 else 0) =
      instant.nano := by
  have short := instant.nano_lt
  unfold IsWritable at writable
  unfold fraction secondOfMinute
  cases leap : instant.isLeap with
  | true =>
    have last := writable leap
    have long : 1000000000 ≤ instant.nano := of_decide_eq_true leap
    simp only [last, if_true]
    omega
  | false =>
    have within : ¬1000000000 ≤ instant.nano := of_decide_eq_false leap
    simp only [Bool.false_eq_true, if_false]
    split <;> omega

theorem reads_instant {instant : Instant} (writable : instant.IsWritable) :
    Reads scanInstant instant.written instant [] := by
  have early := instant.second_lt
  have hour : instant.hour < 24 := by unfold Instant.hour; omega
  have minute : instant.minute < 60 := by unfold Instant.minute; omega
  have second : instant.secondOfMinute < 61 := by unfold Instant.secondOfMinute; split <;> omega
  have fraction : instant.fraction < 1000000000 := by unfold Instant.fraction; omega
  simp only [Instant.written, Instant.writtenMinute, List.append_assoc, List.cons_append]
  refine (reads_date _ _).bind ((reads_letter _ (by decide)).bind ?_)
  refine (reads_pair _ (by omega)).bind ((reads_blanks _ (by decide)).bind
    ((reads_symbol ':' _).bind ?_))
  refine (reads_pair _ (by omega)).bind ((reads_blanks _ (by decide)).bind
    ((reads_symbol ':' _).bind ?_))
  refine (reads_pair _ (by omega)).bind ((reads_fraction _ fraction).bind ((reads_zone _).bind ?_))
  refine reads_no_blanks.bind ?_
  rw [if_neg (by omega)]
  simp only [Instant.second_of_parts writable, Instant.nano_of_parts writable, Int.neg_zero,
    instant.shifted?_zero]
  exact reads_pure instant []

theorem Instant.ofText?_text {instant : Instant} (writable : instant.IsWritable) :
    Instant.ofText? instant.text = some instant :=
  whole_of_reads (reads_instant writable)

def Instant.following (instant : Instant) (early : instant.second % 60 ≠ 59) : Instant where
  date := instant.date
  second := instant.second + 1
  nano := instant.nano - 1000000000
  second_lt := by
    have := instant.second_lt
    omega
  nano_lt := by
    have := instant.nano_lt
    omega

-- A leap second that does not end its minute is written like the second after it.
theorem Instant.written_following {instant : Instant} (leap : instant.isLeap = true)
    (early : instant.second % 60 ≠ 59) : (instant.following early).written = instant.written := by
  have long : 1000000000 ≤ instant.nano := of_decide_eq_true leap
  have short := instant.nano_lt
  have within : (instant.following early).isLeap = false :=
    decide_eq_false (by simp only [following]; omega)
  have hour : (instant.following early).hour = instant.hour := by
    simp only [hour, following]
    omega
  have minute : (instant.following early).minute = instant.minute := by
    simp only [minute, following]
    omega
  have second : (instant.following early).secondOfMinute = instant.secondOfMinute := by
    rw [secondOfMinute, secondOfMinute, leap, within]
    simp only [following, Bool.false_eq_true, if_false, if_true]
    omega
  have fraction : (instant.following early).fraction = instant.fraction := by
    simp only [fraction, following]
    omega
  unfold written writtenMinute
  rw [hour, minute, second, fraction]
  rfl

theorem Instant.ofText?_text_iff (instant : Instant) :
    Instant.ofText? instant.text = some instant ↔ instant.IsWritable := by
  refine ⟨fun read leap => ?_, Instant.ofText?_text⟩
  by_contra early
  have long : 1000000000 ≤ instant.nano := of_decide_eq_true leap
  have short := instant.nano_lt
  have other : (instant.following early).IsWritable := fun again => by
    have still : 1000000000 ≤ instant.nano - 1000000000 := of_decide_eq_true again
    omega
  have told := Instant.ofText?_text other
  rw [Instant.text, Instant.written_following leap early, ← Instant.text, read] at told
  have same : instant.nano = (instant.following early).nano :=
    congrArg Instant.nano (Option.some.inj told)
  simp only [following] at same
  omega

example : (Instant.mk ⟨12345, 6, 30, by decide⟩ 86399 1250000000).text =
    "+12345-06-30T23:59:60.250Z" := by
  decide +kernel

end Calendar

end Casework
