import Casework.Search.Wildcard
import Mathlib.Data.List.Forall2
import Mathlib.Data.List.Induction

set_option autoImplicit false

namespace Casework

namespace Text

theorem foldShifts_above : ∀ shift ∈ foldShifts, 10 < (shift.first : Int) + shift.distance := by
  decide +kernel

theorem CaseShift.above {shift : CaseShift} (known : shift ∈ foldShifts) {code : Nat}
    (covers : shift.Covers code) : 10 < shift.apply code := by
  have start := foldShifts_above shift known
  have from_first : shift.first ≤ code := covers.1
  simp only [CaseShift.apply, Int.ofNat_eq_natCast]
  omega

-- A line feed is no other letter in another case.
theorem sameLetter_newline {letter : Char} : SameLetter letter '\n' ↔ letter = '\n' := by
  refine ⟨fun same => ?_, fun equal => equal ▸ .refl _⟩
  have folded : foldCase letter = '\n' := same
  unfold foldCase shiftLetter at folded
  split at folded
  next shift found =>
    have covers : shift.Covers letter.toNat := by
      simpa using List.find?_some found
    have above := CaseShift.above (List.mem_of_find?_eq_some found) covers
    by_cases valid : (shift.apply letter.toNat).isValidChar
    · rw [Char.ofNat, dif_pos valid] at folded
      have code : shift.apply letter.toNat = 10 := congrArg Char.toNat folded
      exact absurd code (Nat.ne_of_gt above)
    · rw [Char.ofNat, dif_neg valid] at folded
      exact absurd folded (by decide)
  next => exact folded

theorem SameLetter.newline_iff {letter found : Char} (same : SameLetter letter found) :
    letter = '\n' ↔ found = '\n' := by
  constructor
  · rintro rfl
    exact sameLetter_newline.1 same.symm
  · rintro rfl
    exact sameLetter_newline.1 same

end Text

namespace Search

open Text

theorem splitAt_eq_splitOn (separator : Char) (text : List Char) :
    (splitAt separator text).1 :: (splitAt separator text).2 = text.splitOn separator := by
  induction text with
  | nil => rfl
  | cons letter rest ih =>
    simp only [List.splitOn] at ih ⊢
    rw [List.splitOnP_cons_eq_if_modifyHead, ← ih]
    by_cases same : letter = separator <;> simp [splitAt, same]

theorem splitAt_free (separator : Char) (text : List Char) :
    ∀ part ∈ (splitAt separator text).1 :: (splitAt separator text).2, separator ∉ part := by
  induction text with
  | nil => simp [splitAt]
  | cons letter rest ih =>
    by_cases same : letter = separator
    · simpa [splitAt, same] using ih
    · simpa [splitAt, same, Ne.symm same] using ih

theorem splitAt_eq_iff {separator : Char} {text first : List Char} {others : List (List Char)} :
    splitAt separator text = (first, others) ↔
      text = [separator].intercalate (first :: others) ∧
        ∀ part ∈ first :: others, separator ∉ part := by
  have split := splitAt_eq_splitOn separator text
  constructor
  · intro equal
    have free := splitAt_free separator text
    rw [equal] at split free
    exact ⟨by rw [split, List.intercalate_splitOn], free⟩
  · rintro ⟨rfl, free⟩
    rw [List.splitOn_intercalate separator free (by simp)] at split
    exact Prod.ext (List.cons.inj split).1 (List.cons.inj split).2

theorem length_splitAt (separator : Char) (text : List Char) :
    (splitAt separator text).2.length = text.count separator := by
  induction text with
  | nil => rfl
  | cons letter rest ih =>
    by_cases same : letter = separator <;> simp [splitAt, same, ih]

/-- Two separators or more, or one with letters on both of its sides. -/
def Inner (separator : Char) (text : List Char) : Prop :=
  2 ≤ text.count separator ∨
    text.count separator = 1 ∧ text.head? ≠ some separator ∧ text.getLast? ≠ some separator

theorem inner_iff {separator : Char} {text first : List Char} {others : List (List Char)}
    (split : splitAt separator text = (first, others)) :
    Inner separator text ↔
      2 ≤ others.length ∨ others.length = 1 ∧ first ≠ [] ∧ others ≠ [[]] := by
  have count := length_splitAt separator text
  have ⟨joined, free⟩ := splitAt_eq_iff.1 split
  rw [split] at count
  unfold Inner
  rw [← count]
  refine or_congr_right (and_congr_right fun single => ?_)
  obtain ⟨ending, rfl⟩ := List.length_eq_one_iff.1 single
  have free_first : separator ∉ first := free first (by simp)
  have free_ending : separator ∉ ending := free ending (by simp)
  have joined : text = first ++ separator :: ending := by
    simpa [List.intercalate] using joined
  subst joined
  refine and_congr ?_ ?_
  · cases first with
    | nil => simp
    | cons letter letters => simpa using fun same => free_first (by simp [same])
  · cases ending using List.reverseRecOn with
    | nil => simp
    | append_singleton letters letter =>
      have last : letter ≠ separator := fun same => free_ending (by simp [same])
      rw [← List.cons_append, ← List.append_assoc, List.getLast?_concat]
      simp [last]

theorem Wildcard.ofPattern_eq_parts {pattern first : List Char} {others : List (List Char)} :
    Wildcard.ofPattern pattern = .parts first others ↔
      splitAt '%' pattern = (first, others) ∧ trim pattern ≠ ['%'] ∧ Inner '%' pattern := by
  constructor
  · intro form
    unfold Wildcard.ofPattern at form
    split at form
    · cases form
    next lone =>
      split at form
      · cases form
      · cases form
      · cases form
      next no_other no_first no_ending split =>
        cases form
        refine ⟨split, lone, (inner_iff split).2 ?_⟩
        have length : 1 ≤ others.length := List.length_pos_iff.2 no_other
        refine (Nat.lt_or_eq_of_le length).imp_right fun single => ⟨single.symm, ?_, no_ending⟩
        obtain ⟨ending, rfl⟩ := List.length_eq_one_iff.1 single.symm
        exact fun empty => no_first ending empty rfl
  · rintro ⟨split, lone, inner⟩
    rw [inner_iff split] at inner
    unfold Wildcard.ofPattern
    rw [if_neg lone, split]
    split
    next equal => cases equal; simp at inner
    next equal => cases equal; simp at inner
    next equal => cases equal; simp at inner
    next equal => cases equal; rfl

/-- `found` is as long as `part` and the same letter by letter, up to simple case folding. -/
def Spells (part found : List Char) : Prop := List.Forall₂ SameLetter part found

theorem dropPart?_eq_some {part text rest : List Char} :
    dropPart? part text = some rest ↔ ∃ found, Spells part found ∧ text = found ++ rest := by
  induction part generalizing text with
  | nil => simp [dropPart?, Spells, eq_comm]
  | cons letter part ih =>
    cases text with
    | nil => simp [dropPart?, Spells, List.forall₂_cons_left_iff]
    | cons first text =>
      by_cases same : SameLetter letter first <;>
        simp [dropPart?, same, ih, Spells, List.forall₂_cons_left_iff]

section Newlines

variable {part found other gap rest later : List Char}

def line (text : List Char) : List Char := text.takeWhile (· ≠ '\n')

theorem line_append (free : '\n' ∉ gap) (text : List Char) :
    line (gap ++ text) = gap ++ line text :=
  List.takeWhile_append_of_pos fun letter member => by
    simpa using fun same : letter = '\n' => free (same ▸ member)

theorem line_append_of_mem (member : '\n' ∈ found) (rest : List Char) :
    line (found ++ rest) = line found := by
  induction found with
  | nil => cases member
  | cons letter found ih =>
    by_cases newline : letter = '\n'
    · simp [line, newline]
    · have later : '\n' ∈ found := by simpa [Ne.symm newline] using member
      have := ih later
      simp_all [line]

theorem Spells.newline_mem (spells : Spells part found) : '\n' ∈ part ↔ '\n' ∈ found := by
  induction spells with
  | nil => rfl
  | cons same _ ih => simp [eq_comm (a := '\n'), same.newline_iff, ih]

theorem Spells.length_line (spells : Spells part found) :
    (line part).length = (line found).length := by
  induction spells with
  | nil => rfl
  | @cons letter first _ _ same _ ih =>
    by_cases newline : letter = '\n'
    · simp [line, newline, same.newline_iff.1 newline]
    · simpa [line, newline, mt same.newline_iff.2 newline] using ih

-- Of two places where a part stands, both behind gaps without line feeds, the later one ends behind
-- the earlier with no line feed between the two ends.
theorem Spells.rest_of_later (spells : Spells part found) (again : Spells part other)
    (free : '\n' ∉ gap) (same : found ++ later = (gap ++ other) ++ rest) :
    ∃ between, later = between ++ rest ∧ '\n' ∉ between := by
  have length : found.length = other.length :=
    (List.Forall₂.length_eq spells).symm.trans (List.Forall₂.length_eq again)
  -- The earlier place does not reach behind the later one.
  have ⟨between, behind, equal⟩ :
      ∃ between, gap ++ other = found ++ between ∧ later = between ++ rest := by
    obtain ⟨between, behind, equal⟩ | ⟨excess, behind, equal⟩ := List.append_eq_append_iff.1 same
    · exact ⟨between, behind, equal⟩
    · have none : excess = [] := by
        have := congrArg List.length behind
        simp only [List.length_append] at this
        exact List.length_eq_zero_iff.1 (by omega)
      subst none
      exact ⟨[], by simpa using behind.symm, by simpa using equal.symm⟩
  refine ⟨between, equal, fun newline => ?_⟩
  have mem : '\n' ∈ part := by
    have : '\n' ∈ gap ++ other := behind ▸ List.mem_append_right found newline
    exact again.newline_mem.2 ((List.mem_append.1 this).resolve_left free)
  -- A part with a line feed stands in one place only, that of the first line feed of the text.
  have lines := congrArg (fun text => (line text).length) behind
  simp only [line_append free, line_append_of_mem (spells.newline_mem.1 mem), List.length_append,
    ← spells.length_line, ← again.length_line] at lines
  have := congrArg List.length behind
  simp only [List.length_append] at this
  have none : between = [] := List.length_eq_zero_iff.1 (by omega)
  simp [none] at newline

end Newlines

theorem skipPast?_of_dropPart? {part text rest : List Char}
    (dropped : dropPart? part text = some rest) : skipPast? part text = some rest := by
  cases text with
  | nil => exact dropped
  | cons letter text => simp [skipPast?, dropped]

theorem skipPast?_sound {part text rest : List Char} (skipped : skipPast? part text = some rest) :
    ∃ gap found, text = gap ++ found ++ rest ∧ '\n' ∉ gap ∧ Spells part found := by
  induction text with
  | nil =>
    obtain ⟨found, spells, equal⟩ := dropPart?_eq_some.1 skipped
    exact ⟨[], found, equal, by simp, spells⟩
  | cons letter text ih =>
    unfold skipPast? at skipped
    split at skipped
    next dropped =>
      cases skipped
      obtain ⟨found, spells, equal⟩ := dropPart?_eq_some.1 dropped
      exact ⟨[], found, equal, by simp, spells⟩
    next =>
      split at skipped
      next => cases skipped
      next dark =>
        obtain ⟨gap, found, rfl, free, spells⟩ := ih skipped
        exact ⟨letter :: gap, found, rfl, by simp [Ne.symm dark, free], spells⟩

theorem skipPast?_complete {part found gap : List Char} (rest : List Char) (free : '\n' ∉ gap)
    (spells : Spells part found) :
    ∃ between, skipPast? part (gap ++ found ++ rest) = some (between ++ rest) ∧
      '\n' ∉ between := by
  induction gap with
  | nil =>
    exact ⟨[], skipPast?_of_dropPart? (dropPart?_eq_some.2 ⟨found, spells, rfl⟩), by simp⟩
  | cons letter gap ih =>
    obtain ⟨dark, free_gap⟩ : '\n' ≠ letter ∧ '\n' ∉ gap := by simpa using free
    cases dropped : dropPart? part (letter :: gap ++ found ++ rest) with
    | some later =>
      obtain ⟨earlier, spells_earlier, same⟩ := dropPart?_eq_some.1 dropped
      obtain ⟨between, rfl, clear⟩ := spells_earlier.rest_of_later spells free same.symm
      exact ⟨between, skipPast?_of_dropPart? dropped, clear⟩
    | none =>
      obtain ⟨between, skipped, clear⟩ := ih free_gap
      refine ⟨between, ?_, clear⟩
      rw [List.cons_append, List.cons_append] at dropped ⊢
      rw [skipPast?, dropped]
      simpa [Ne.symm dark] using skipped

/-- A text begins with a spelling of each part, each behind a gap without line feeds. -/
def Spaced : List (List Char) → List Char → Prop
  | [], _ => True
  | part :: parts, text => ∃ gap found rest, text = gap ++ found ++ rest ∧ '\n' ∉ gap ∧
      Spells part found ∧ Spaced parts rest

theorem Spaced.behind {parts : List (List Char)} {text between : List Char}
    (spaced : Spaced parts text) (clear : '\n' ∉ between) : Spaced parts (between ++ text) := by
  cases parts with
  | nil => exact trivial
  | cons part parts =>
    obtain ⟨gap, found, rest, rfl, free, spells, later⟩ := spaced
    exact ⟨between ++ gap, found, rest, by simp, by simp [clear, free], spells, later⟩

-- Taking each part at its first place loses no text: what a later place leaves for the other parts,
-- the first place leaves as well, behind letters that a gap may take.
theorem isSome_skipPastAll? {parts : List (List Char)} {text : List Char} :
    (skipPastAll? parts text).isSome = true ↔ Spaced parts text := by
  induction parts generalizing text with
  | nil => simp [skipPastAll?, Spaced]
  | cons part parts ih =>
    constructor
    · intro found
      simp only [skipPastAll?, Option.isSome_bind, Option.any_eq_true] at found
      obtain ⟨rest, skipped, others⟩ := found
      obtain ⟨gap, spelt, equal, free, spells⟩ := skipPast?_sound skipped
      exact ⟨gap, spelt, rest, equal, free, spells, ih.1 others⟩
    · rintro ⟨gap, spelt, rest, rfl, free, spells, others⟩
      obtain ⟨between, skipped, clear⟩ := skipPast?_complete rest free spells
      rw [skipPastAll?, skipped]
      exact ih.2 (others.behind clear)

theorem spaced_iff {parts : List (List Char)} {text : List Char} :
    Spaced parts text ↔ ∃ (pieces : List (List Char × List Char)) (rest : List Char),
      text = (pieces.flatMap fun piece => piece.1 ++ piece.2) ++ rest ∧
        List.Forall₂ (fun part piece => '\n' ∉ piece.1 ∧ Spells part piece.2) parts pieces := by
  induction parts generalizing text with
  | nil => simp [Spaced]
  | cons part parts ih =>
    constructor
    · rintro ⟨gap, found, rest, rfl, free, spells, others⟩
      obtain ⟨pieces, rest, rfl, fit⟩ := ih.1 others
      exact ⟨(gap, found) :: pieces, rest, by simp, .cons ⟨free, spells⟩ fit⟩
    · rintro ⟨pieces, rest, rfl, fit⟩
      cases fit with
      | @cons _ piece _ pieces start fit =>
        refine ⟨piece.1, piece.2, (pieces.flatMap fun piece => piece.1 ++ piece.2) ++ rest,
          by simp, start.1, start.2, ih.2 ⟨pieces, rest, rfl, fit⟩⟩

/-- A pattern takes the form of parts exactly when it is not a percent sign among blanks and has
two percent signs or more, or one with letters on both of its sides. Its parts are then what stands
between the percent signs, and it finds the texts that begin with a spelling of the first part and,
behind gaps without line feeds, of each other part. No letter of a part has a meaning of its own. -/
theorem Wildcard.finds_parts_iff (pattern first : List Char) (others : List (List Char)) :
    (Wildcard.ofPattern pattern = .parts first others ↔
      pattern = ['%'].intercalate (first :: others) ∧ (∀ part ∈ first :: others, '%' ∉ part) ∧
        trim pattern ≠ ['%'] ∧ Inner '%' pattern) ∧
    (Wildcard.ofPattern pattern = .parts first others → ∀ text,
      ((Wildcard.ofPattern pattern).finds text = true ↔
        ∃ (start : List Char) (pieces : List (List Char × List Char)) (rest : List Char),
          text = start ++ (pieces.flatMap fun piece => piece.1 ++ piece.2) ++ rest ∧
          Spells first start ∧
          List.Forall₂ (fun part piece => '\n' ∉ piece.1 ∧ Spells part piece.2)
            others pieces)) := by
  refine ⟨?_, fun form text => ?_⟩
  · rw [Wildcard.ofPattern_eq_parts, splitAt_eq_iff, and_assoc]
  rw [form, Wildcard.finds, Option.isSome_bind, Option.any_eq_true]
  constructor
  · rintro ⟨behind, dropped, found⟩
    obtain ⟨start, spells, rfl⟩ := dropPart?_eq_some.1 dropped
    obtain ⟨pieces, rest, rfl, fit⟩ := spaced_iff.1 (isSome_skipPastAll?.1 found)
    exact ⟨start, pieces, rest, by simp, spells, fit⟩
  · rintro ⟨start, pieces, rest, rfl, spells, fit⟩
    refine ⟨(pieces.flatMap fun piece => piece.1 ++ piece.2) ++ rest,
      dropPart?_eq_some.2 ⟨start, spells, by simp⟩, ?_⟩
    exact isSome_skipPastAll?.2 (spaced_iff.2 ⟨pieces, rest, rfl, fit⟩)

theorem Wildcard.finds_parts_iff_dotted :
    let pattern := "a.b%\nC%%".toList
    Wildcard.ofPattern pattern = .parts "a.b".toList ["\nC".toList, [], []] ∧
    (Wildcard.ofPattern pattern).finds "A.b..\ncd\n".toList = true ∧
    (Wildcard.ofPattern pattern).finds "axb..\ncd".toList = false := by
  have form : Wildcard.ofPattern "a.b%\nC%%".toList =
      .parts "a.b".toList ["\nC".toList, [], []] := by
    decide +kernel
  have found := (Wildcard.finds_parts_iff "a.b%\nC%%".toList "a.b".toList
    ["\nC".toList, [], []]).2 form
  refine ⟨form, (found _).2 ⟨"A.b".toList, [("..".toList, "\nc".toList), ([], []), ([], [])],
    "d\n".toList, by decide, ?_, ?_⟩, by decide +kernel⟩
  · exact .cons (by decide +kernel) (.cons (by decide +kernel) (.cons (by decide +kernel) .nil))
  · exact .cons ⟨by decide, .cons (by decide +kernel) (.cons (by decide +kernel) .nil)⟩
      (.cons ⟨by decide, .nil⟩ (.cons ⟨by decide, .nil⟩ .nil))

end Search

end Casework
