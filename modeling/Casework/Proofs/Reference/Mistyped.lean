import Casework.Proofs.Reference.Written
import Mathlib

set_option autoImplicit false

namespace Casework.Reference

open Text

/-- The texts are equally long, and this is the only place where they have different letters. -/
structure DiffersAt (place : Nat) (text typed : List Char) : Prop where
  length : typed.length = text.length
  inside : place < text.length
  apart : typed[place]? ≠ text[place]?
  elsewhere : ∀ index < text.length, index ≠ place → typed[index]? = text[index]?

/-- The letters of two places are exchanged, and they are not the same letter. -/
structure Exchanges (first second : Nat) (text typed : List Char) : Prop where
  before : first < second
  inside : second < text.length
  apart : text[first] ≠ text[second]
  exchanged : typed = (text.set first text[second]).set second text[first]

section Letters

instance prime_thirteen : Fact (Nat.Prime 13) := ⟨by decide⟩

theorem checkLetters_nodup : checkLetters.Nodup := by decide

theorem checkLetter_eq_iff {sequence other : Nat} :
    checkLetter sequence = checkLetter other ↔ (sequence : ZMod 13) = other := by
  have known : ∀ number, number % 13 < checkLetters.length := fun number =>
    Nat.mod_lt number (by decide)
  rw [checkLetter, checkLetter, List.getD_eq_getElem _ _ (known sequence),
    List.getD_eq_getElem _ _ (known other), checkLetters_nodup.getElem_inj_iff,
    ZMod.natCast_eq_natCast_iff']

theorem orderOf_ten : orderOf (10 : ZMod 13) = 6 :=
  (orderOf_eq_iff (by decide)).2 ⟨by decide, by decide⟩

theorem ten_pow_eq_one_iff {exponent : Nat} : (10 : ZMod 13) ^ exponent = 1 ↔ 6 ∣ exponent := by
  rw [← orderOf_dvd_iff_pow_eq_one, orderOf_ten]

theorem ten_pow_ne_zero (exponent : Nat) : (10 : ZMod 13) ^ exponent ≠ 0 :=
  pow_ne_zero exponent (by decide)

end Letters

section Digits

def digit (letter : Char) : ZMod 13 := (letter.toNat - '0'.toNat : Nat)

def remainder (text : List Char) : ZMod 13 := (Nat.ofDigitChars 10 text 0 : Nat)

theorem digit_inj {letter other : Char} (shown : letter.isDigit = true)
    (also : other.isDigit = true) (same : digit letter = digit other) : letter = other := by
  obtain ⟨low, high⟩ := Char.isDigit_iff_toNat.1 shown
  obtain ⟨below, above⟩ := Char.isDigit_iff_toNat.1 also
  rw [digit, digit, ZMod.natCast_eq_natCast_iff'] at same
  simp only [Char.reduceToNat] at low high below above same
  exact Char.toNat_inj.1 (by omega)

theorem remainder_cons (letter : Char) (rest : List Char) :
    remainder (letter :: rest) = digit letter * 10 ^ rest.length + remainder rest := by
  rw [remainder, Nat.ofDigitChars_cons, Nat.ofDigitChars_eq_ofDigitChars_zero, remainder, digit]
  push_cast
  ring

theorem remainder_set {text : List Char} {place : Nat} (inside : place < text.length)
    (letter : Char) :
    remainder (text.set place letter) =
      remainder text + (digit letter - digit text[place]) * 10 ^ (text.length - 1 - place) := by
  induction text generalizing place with
  | nil => cases inside
  | cons head tail ih =>
    cases place with
    | zero =>
      simp only [List.set_cons_zero, List.getElem_cons_zero, remainder_cons, List.length_cons,
        Nat.add_sub_cancel, Nat.sub_zero]
      ring
    | succ place =>
      have weight : (head :: tail).length - 1 - (place + 1) = tail.length - 1 - place := by
        simp only [List.length_cons]
        omega
      rw [List.set_cons_succ, remainder_cons, remainder_cons, List.length_set,
        ih (Nat.lt_of_succ_lt_succ inside), weight, List.getElem_cons_succ]
      ring

theorem remainder_padded (width number : Nat) : remainder (padded width number) = number := by
  have spelled := digits?_padded width number
  unfold digits? at spelled
  split at spelled
  · rw [remainder, Option.some.inj spelled]
  · cases spelled

end Digits

section Slips

variable {text typed : List Char}

theorem DiffersAt.typed_eq {place : Nat} (slip : DiffersAt place text typed)
    (inside : place < typed.length) : typed = text.set place typed[place] := by
  have within := slip.inside
  refine List.ext_getElem? fun index => ?_
  rw [List.getElem?_set]
  by_cases here : place = index
  · subst here
    rw [if_pos rfl, if_pos within, List.getElem?_eq_getElem inside]
  · rw [if_neg here]
    by_cases known : index < text.length
    · exact slip.elsewhere index known (Ne.symm here)
    · have beyond : text.length ≤ index := Nat.le_of_not_lt known
      rw [List.getElem?_eq_none beyond, List.getElem?_eq_none (slip.length ▸ beyond)]

theorem DiffersAt.cases_append {place : Nat} {letter last : Char}
    (slip : DiffersAt place (text ++ [letter]) (typed ++ [last])) :
    (DiffersAt place text typed ∧ last = letter) ∨ typed = text := by
  have length : typed.length = text.length := by simpa using slip.length
  have inside : place < text.length + 1 := by simpa using slip.inside
  have elsewhere : ∀ index < text.length, index ≠ place → typed[index]? = text[index]? := by
    intro index known other
    have same := slip.elsewhere index (by simp; omega) other
    rwa [List.getElem?_append_left known, List.getElem?_append_left (length ▸ known)] at same
  by_cases here : place = text.length
  · refine .inr (List.ext_getElem? fun index => ?_)
    by_cases known : index < text.length
    · exact elsewhere index known (by omega)
    · rw [List.getElem?_eq_none (by omega), List.getElem?_eq_none (by omega)]
  · have within : place < text.length := by omega
    have apart := slip.apart
    rw [List.getElem?_append_left within, List.getElem?_append_left (length ▸ within)] at apart
    have end_same := slip.elsewhere text.length (by simp) (Ne.symm here)
    rw [List.getElem?_concat_length, ← length, List.getElem?_concat_length] at end_same
    exact .inl ⟨⟨length, within, apart, elsewhere⟩, Option.some.inj end_same⟩

theorem remainder_ne_of_differsAt {place : Nat} (slip : DiffersAt place text typed)
    (digits : ∀ letter ∈ text, letter.isDigit = true)
    (also : ∀ letter ∈ typed, letter.isDigit = true) : remainder typed ≠ remainder text := by
  have within := slip.inside
  have inside : place < typed.length := slip.length ▸ within
  have apart : typed[place] ≠ text[place] := fun same => slip.apart (by
    rw [List.getElem?_eq_getElem inside, List.getElem?_eq_getElem within, same])
  have worth : digit typed[place] - digit text[place] ≠ 0 := fun none =>
    apart (digit_inj (also _ (List.getElem_mem inside)) (digits _ (List.getElem_mem within))
      (sub_eq_zero.1 none))
  rw [slip.typed_eq inside, remainder_set within]
  intro same
  exact mul_ne_zero worth (ten_pow_ne_zero _) (add_eq_left.1 same)

theorem remainder_eq_iff_of_exchanges {first second : Nat}
    (slip : Exchanges first second text typed)
    (digits : ∀ letter ∈ text, letter.isDigit = true) :
    remainder typed = remainder text ↔ 6 ∣ second - first := by
  have inside := slip.inside
  have before : first < text.length := Nat.lt_trans slip.before inside
  have apart := slip.apart
  have worth : digit text[second] - digit text[first] ≠ 0 := fun none =>
    apart (digit_inj (digits _ (List.getElem_mem before)) (digits _ (List.getElem_mem inside))
      (sub_eq_zero.1 none).symm)
  -- The digit in front has the weight of the one behind, times ten for each place between them.
  have weight : text.length - 1 - first = text.length - 1 - second + (second - first) := by
    have order := slip.before
    omega
  have changed : remainder typed = remainder text +
      (digit text[second] - digit text[first]) * 10 ^ (text.length - 1 - second) *
        (10 ^ (second - first) - 1) := by
    rw [slip.exchanged, remainder_set (by rw [List.length_set]; exact inside),
      remainder_set before, List.getElem_set_ne (Nat.ne_of_lt slip.before)]
    simp only [List.length_set, weight, pow_add]
    ring
  rw [changed, add_eq_left, mul_eq_zero, or_iff_right (mul_ne_zero worth (ten_pow_ne_zero _)),
    sub_eq_zero, ten_pow_eq_one_iff]

end Slips

section Numbers

variable {width sequence other : Nat}

theorem checkLetter_ne_of_differsAt {place : Nat}
    (slip : DiffersAt place (padded width sequence) (padded width other)) :
    checkLetter sequence ≠ checkLetter other := by
  have apart := remainder_ne_of_differsAt slip (fun _ => isDigit_of_mem_padded)
    fun _ => isDigit_of_mem_padded
  rw [remainder_padded, remainder_padded] at apart
  exact fun same => apart (checkLetter_eq_iff.1 same).symm

/-- One wrong digit in a number always shows in its letter, and an exchange of two digits shows
exactly if their distance is no multiple of six. The numbers may have any width in common; licences
give them seven digits or more. -/
theorem checkLetter_tells (width sequence other : Nat) :
    (∀ place, DiffersAt place (padded width sequence) (padded width other) →
      checkLetter sequence ≠ checkLetter other) ∧
    ∀ first second, Exchanges first second (padded width sequence) (padded width other) →
      (checkLetter sequence ≠ checkLetter other ↔ ¬ 6 ∣ second - first) := by
  refine ⟨fun place slip => checkLetter_ne_of_differsAt slip, fun first second slip => ?_⟩
  have unnoticed := remainder_eq_iff_of_exchanges slip fun _ => isDigit_of_mem_padded
  rw [remainder_padded, remainder_padded] at unnoticed
  exact not_congr (checkLetter_eq_iff.trans (eq_comm.trans unnoticed))

theorem checkLetter_tells_typed :
    (DiffersAt 4 (padded 7 12345) (padded 7 12845) ∧ checkLetter 12345 ≠ checkLetter 12845) ∧
    (Exchanges 2 5 (padded 7 12345) (padded 7 42315) ∧ checkLetter 12345 ≠ checkLetter 42315) :=
  have wrong : DiffersAt 4 (padded 7 12345) (padded 7 12845) :=
    ⟨by decide, by decide, by decide, by decide⟩
  have exchanged : Exchanges 2 5 (padded 7 12345) (padded 7 42315) :=
    ⟨by decide, by decide, by decide, by decide⟩
  ⟨⟨wrong, (checkLetter_tells 7 12345 12845).1 4 wrong⟩,
    exchanged, ((checkLetter_tells 7 12345 42315).2 2 5 exchanged).2 (by decide)⟩

-- Two digits at a distance of six weigh the same.
example : checkLetter 1234567 = checkLetter 7234561 := by decide

theorem not_differsAt_paperLicence {place : Nat} :
    ¬ DiffersAt place (paperLicence sequence).toList (paperLicence other).toList := by
  intro slip
  simp only [paperLicence, String.toList_ofList] at slip
  rcases slip.cases_append with ⟨wrong, same⟩ | same
  · exact checkLetter_ne_of_differsAt wrong same.symm
  · rw [padded_injective same] at slip
    exact slip.apart rfl

end Numbers

end Casework.Reference
