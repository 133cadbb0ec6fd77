import Casework.Proofs.Search.Patterns
import Mathlib.Data.List.TakeWhile

set_option autoImplicit false

namespace Casework

namespace Text

variable {before start text gap : List Char} {letter : Char}

def AllSkipped (text : List Char) : Prop := ∀ letter ∈ text, isCaseIgnorable letter = true

theorem allSkipped_cons :
    AllSkipped (letter :: text) ↔ isCaseIgnorable letter = true ∧ AllSkipped text :=
  List.forall_mem_cons

theorem meetsCased_cons (letter : Char) (text : List Char) :
    meetsCased (letter :: text) =
      if isCaseIgnorable letter = true then meetsCased text else isCased letter := by
  by_cases skipped : isCaseIgnorable letter = true <;> simp [meetsCased, skipped]

theorem meetsCased_append_eq_iff (text gap : List Char) :
    meetsCased text = meetsCased (text ++ gap) ↔ ¬ (AllSkipped text ∧ meetsCased gap = true) := by
  induction text with
  | nil => simp [AllSkipped, meetsCased]
  | cons letter text ih =>
    rw [List.cons_append, meetsCased_cons, meetsCased_cons, allSkipped_cons]
    by_cases skipped : isCaseIgnorable letter = true <;> simp [skipped, ih]

theorem length_lowerLetter (before after other last : List Char) (letter : Char) :
    (lowerLetter before after letter).length = (lowerLetter other last letter).length := by
  unfold lowerLetter
  split
  · split <;> split <;> rfl
  · split <;> rfl

theorem length_lowercaseAfter (before other text : List Char) :
    (lowercaseAfter before text).length = (lowercaseAfter other text).length := by
  induction text generalizing before other with
  | nil => rfl
  | cons letter after ih =>
    simp only [lowercaseAfter, List.length_append]
    rw [length_lowerLetter before after other after, ih]

theorem lowerLetter_eq_iff {other after last : List Char} :
    lowerLetter before after letter = lowerLetter other last letter ↔
      (letter = 'Σ' → (meetsCased before && !meetsCased after) =
        (meetsCased other && !meetsCased last)) := by
  by_cases sigma : letter = 'Σ'
  · simp only [lowerLetter, sigma, if_true, forall_const]
    cases meetsCased before && !meetsCased after <;>
      cases meetsCased other && !meetsCased last <;> decide
  · simp [lowerLetter, sigma]

def EndsInSigma (before text : List Char) : Prop :=
  ∃ word skipped, text = word ++ 'Σ' :: skipped ∧ meetsCased (word.reverse ++ before) = true ∧
    AllSkipped skipped

theorem endsInSigma_cons :
    EndsInSigma before (letter :: text) ↔
      (letter = 'Σ' ∧ meetsCased before = true ∧ AllSkipped text) ∨
        EndsInSigma (letter :: before) text := by
  constructor
  · rintro ⟨_ | ⟨first, word⟩, skipped, same, behind, rest⟩
    · cases same
      exact .inl ⟨rfl, behind, rest⟩
    · cases same
      exact .inr ⟨word, skipped, rfl, by simpa using behind, rest⟩
  · rintro (⟨rfl, behind, rest⟩ | ⟨word, skipped, rfl, behind, rest⟩)
    · exact ⟨[], text, rfl, behind, rest⟩
    · exact ⟨letter :: word, skipped, rfl, by simpa using behind, rest⟩

def StartsInSigma (text : List Char) : Prop :=
  ∃ skipped after, text = skipped ++ 'Σ' :: after ∧ AllSkipped skipped ∧ meetsCased after = false

theorem startsInSigma_cons :
    StartsInSigma (letter :: text) ↔
      (letter = 'Σ' ∧ meetsCased text = false) ∨
        (isCaseIgnorable letter = true ∧ StartsInSigma text) := by
  constructor
  · rintro ⟨_ | ⟨first, skipped⟩, after, same, rest, ends⟩
    · cases same
      exact .inl ⟨rfl, ends⟩
    · cases same
      obtain ⟨ignored, rest⟩ := allSkipped_cons.1 rest
      exact .inr ⟨ignored, skipped, after, rfl, rest, ends⟩
  · rintro (⟨rfl, ends⟩ | ⟨ignored, skipped, after, rfl, rest, ends⟩)
    · exact ⟨[], text, rfl, nofun, ends⟩
    · exact ⟨letter :: skipped, after, rfl, allSkipped_cons.2 ⟨ignored, rest⟩, ends⟩

theorem append_eq_append_iff {first second rest last : List Char}
    (same : first.length = second.length) :
    first ++ rest = second ++ last ↔ first = second ∧ rest = last := by
  constructor
  · exact fun equal => List.append_inj equal same
  · rintro ⟨rfl, rfl⟩
    rfl

theorem append_prefix_append_iff {first second rest last : List Char}
    (same : first.length = second.length) :
    first ++ rest <+: second ++ last ↔ first = second ∧ rest <+: last := by
  simp only [List.IsPrefix, List.append_assoc, append_eq_append_iff same, exists_and_left]

-- The lower case of a longer text begins with that of its beginning, unless a sigma that ended a
-- word does so no longer.
theorem lowercaseAfter_prefix_iff :
    lowercaseAfter before start <+: lowercaseAfter before (start ++ gap) ↔
      ¬ (EndsInSigma before start ∧ meetsCased gap = true) := by
  induction start generalizing before with
  | nil => simp [lowercaseAfter, EndsInSigma]
  | cons letter start ih =>
    rw [List.cons_append, lowercaseAfter, lowercaseAfter,
      append_prefix_append_iff (length_lowerLetter _ _ _ _ _), ih, lowerLetter_eq_iff,
      endsInSigma_cons]
    have turns := meetsCased_append_eq_iff start gap
    by_cases cased : meetsCased gap = true
    · by_cases behind : meetsCased before = true
      · simp only [behind, Bool.true_and, Bool.not_inj_iff, turns, cased]
        tauto
      · simp [behind]
    · rw [Bool.not_eq_true] at cased
      simp_all

theorem lowercaseAfter_eq_iff (before text gap : List Char) :
    lowercaseAfter before text = lowercaseAfter (before ++ gap) text ↔
      ¬ (AllSkipped before ∧ StartsInSigma text ∧ meetsCased gap = true) := by
  induction text generalizing before with
  | nil => simp [lowercaseAfter, StartsInSigma]
  | cons letter text ih =>
    have turns := meetsCased_append_eq_iff before gap
    rw [lowercaseAfter, lowercaseAfter, append_eq_append_iff (length_lowerLetter _ _ _ _ _),
      ← List.cons_append, ih, lowerLetter_eq_iff, startsInSigma_cons, allSkipped_cons]
    by_cases ends : meetsCased text = true
    · simp only [ends, Bool.not_true, Bool.and_false, Bool.true_eq_false, implies_true, true_and,
        and_false, false_or]
      tauto
    · rw [Bool.not_eq_true] at ends
      simp only [ends, Bool.not_false, Bool.and_true, turns]
      tauto

theorem exists_lowercaseAfter_append (before start text : List Char) :
    ∃ front, lowercaseAfter before (start ++ text) =
      front ++ lowercaseAfter (start.reverse ++ before) text := by
  induction start generalizing before with
  | nil => exact ⟨[], rfl⟩
  | cons letter start ih =>
    obtain ⟨front, equal⟩ := ih (letter :: before)
    refine ⟨lowerLetter before (start ++ text) letter ++ front, ?_⟩
    rw [List.cons_append, lowercaseAfter, equal]
    simp

theorem lowercase_suffix_iff :
    lowercase text <:+ lowercase (gap ++ text) ↔
      ¬ (StartsInSigma text ∧ meetsCased gap.reverse = true) := by
  obtain ⟨front, equal⟩ := exists_lowercaseAfter_append [] gap text
  have same := lowercaseAfter_eq_iff [] text gap.reverse
  rw [lowercase, lowercase, equal, List.append_nil]
  have suffix_iff : lowercaseAfter [] text <:+ front ++ lowercaseAfter gap.reverse text ↔
      lowercaseAfter [] text = lowercaseAfter gap.reverse text := by
    constructor
    · intro ends
      exact (List.suffix_of_suffix_length_le ends (List.suffix_append _ _)
        (Nat.le_of_eq (length_lowercaseAfter _ _ _))).eq_of_length (length_lowercaseAfter _ _ _)
    · intro equal
      rw [equal]
      exact List.suffix_append _ _
  rw [suffix_iff]
  simpa [AllSkipped] using same

theorem mem_dropBlanks {letter : Char} (member : letter ∈ text) :
    isBlank letter = true ∨ letter ∈ dropBlanks text := by
  rw [← List.takeWhile_append_dropWhile (p := isBlank) (l := text), List.mem_append] at member
  exact member.imp_left List.mem_takeWhile_imp

theorem mem_trim {letter : Char} (member : letter ∈ text) :
    isBlank letter = true ∨ letter ∈ trim text := by
  rcases mem_dropBlanks member with blank | left
  · exact .inl blank
  · simpa [trim, trimEnd] using mem_dropBlanks (List.mem_reverse.2 left)

end Text

namespace Search

open Text

variable {pattern text start gap : List Char}

/-- The text is the pattern with some text without line feeds in the place of each percent sign. -/
inductive Fills : List Char → List Char → Prop where
  | done : Fills [] []
  | letter {letter : Char} {pattern text : List Char} (plain : letter ≠ '%')
      (rest : Fills pattern text) : Fills (letter :: pattern) (letter :: text)
  | gap {pattern text : List Char} (gap : List Char) (free : '\n' ∉ gap)
      (rest : Fills pattern text) : Fills ('%' :: pattern) (gap ++ text)

theorem fills_append_iff (plain : '%' ∉ start) :
    Fills (start ++ pattern) text ↔ ∃ rest, text = start ++ rest ∧ Fills pattern rest := by
  induction start generalizing text with
  | nil => simp
  | cons letter start ih =>
    obtain ⟨apart, later⟩ : '%' ≠ letter ∧ '%' ∉ start := by simpa using plain
    constructor
    · intro fills
      cases fills with
      | letter _ rest =>
        obtain ⟨behind, rfl, fills⟩ := (ih later).1 rest
        exact ⟨behind, rfl, fills⟩
        | gap => exact absurd rfl apart
    · rintro ⟨rest, rfl, fills⟩
      exact .letter (Ne.symm apart) ((ih later).2 ⟨rest, rfl, fills⟩)

theorem fills_gap_iff :
    Fills ('%' :: pattern) text ↔ ∃ gap rest, text = gap ++ rest ∧ '\n' ∉ gap ∧
      Fills pattern rest := by
  constructor
  · intro fills
    cases fills with
    | letter plain => exact absurd rfl plain
    | gap gap free rest => exact ⟨gap, _, rfl, free, rest⟩
  · rintro ⟨gap, rest, rfl, free, fills⟩
    exact .gap gap free fills

theorem fills_plain_iff (plain : '%' ∉ pattern) : Fills pattern text ↔ text = pattern := by
  rw [← List.append_nil pattern, fills_append_iff plain, List.append_nil]
  constructor
  · rintro ⟨rest, rfl, fills⟩
    cases fills
    exact List.append_nil pattern
  · rintro rfl
    exact ⟨[], (List.append_nil text).symm, .done⟩

theorem fills_ending_iff {ending : List Char} (plain : '%' ∉ ending) :
    Fills ('%' :: ending) text ↔ ∃ gap, text = gap ++ ending ∧ '\n' ∉ gap := by
  rw [fills_gap_iff]
  constructor
  · rintro ⟨gap, rest, rfl, free, fills⟩
    exact ⟨gap, by rw [(fills_plain_iff plain).1 fills], free⟩
  · rintro ⟨gap, rfl, free⟩
    exact ⟨gap, ending, rfl, free, (fills_plain_iff plain).2 rfl⟩

theorem fills_beginning_iff (plain : '%' ∉ start) :
    Fills (start ++ ['%']) text ↔ ∃ gap, text = start ++ gap ∧ '\n' ∉ gap := by
  rw [fills_append_iff plain]
  refine exists_congr fun gap => and_congr_right fun _ => ?_
  rw [fills_ending_iff List.not_mem_nil]
  simp

theorem Spells.refl (part : List Char) : Spells part part :=
  List.forall₂_same.2 fun letter _ => SameLetter.refl letter

theorem Fills.spaced (fills : Fills pattern text) :
    ∃ rest, text = (splitAt '%' pattern).1 ++ rest ∧ Spaced (splitAt '%' pattern).2 rest := by
  induction fills with
  | done => exact ⟨[], rfl, trivial⟩
  | @letter letter _ _ plain _ ih =>
    obtain ⟨rest, rfl, spaced⟩ := ih
    exact ⟨rest, by simp [splitAt, plain], by simpa [splitAt, plain] using spaced⟩
  | @gap pattern _ gap free _ ih =>
    obtain ⟨rest, rfl, spaced⟩ := ih
    refine ⟨gap ++ ((splitAt '%' pattern).1 ++ rest), by simp [splitAt], ?_⟩
    simp only [splitAt, if_true]
    exact ⟨gap, _, rest, by simp, free, .refl _, spaced⟩

inductive Wildcard.Form (pattern : List Char) : Wildcard → Prop where
  | lone (lone : trim pattern = ['%']) : Form pattern .any
  | exact (plain : '%' ∉ pattern) : Form pattern (.exact pattern)
  | ending {ending : List Char} (same : pattern = '%' :: ending) (plain : '%' ∉ ending) :
      Form pattern (.endsWith (lowercase ending))
  | beginning {start : List Char} (same : pattern = start ++ ['%']) (plain : '%' ∉ start) :
      Form pattern (.startsWith (lowercase start))
  | parts (inner : Inner '%' pattern) :
      Form pattern (.parts (splitAt '%' pattern).1 (splitAt '%' pattern).2)

theorem Wildcard.form_ofPattern (pattern : List Char) : Form pattern (ofPattern pattern) := by
  by_cases lone : trim pattern = ['%']
  · rw [ofPattern, if_pos lone]
    exact .lone lone
  rcases split : splitAt '%' pattern with ⟨first, others⟩
  obtain ⟨joined, free⟩ := splitAt_eq_iff.1 split
  by_cases inner : Inner '%' pattern
  · have form := Form.parts inner
    rwa [split, ← ofPattern_eq_parts.2 ⟨split, lone, inner⟩] at form
  -- A pattern without inner percent signs has two parts at most, and one of two is empty.
  rw [inner_iff split] at inner
  match others with
  | [] =>
    obtain rfl : pattern = first := by simpa [List.intercalate] using joined
    rw [ofPattern, if_neg lone, split]
    exact .exact (free pattern (by simp))
  | [ending] =>
    have joined : pattern = first ++ '%' :: ending := by simpa [List.intercalate] using joined
    rw [ofPattern, if_neg lone, split]
    cases first with
    | nil => exact .ending joined (free ending (by simp))
    | cons letter first =>
      obtain rfl : ending = [] := by simpa using inner
      exact .beginning joined (free _ (by simp))
  | _ :: _ :: _ => simp at inner

/-- The pattern has one percent sign, at an end, and what fills it goes on with a word that in the
pattern ends or begins with a capital sigma. -/
inductive TurnsSigma : List Char → List Char → Prop where
  | atEnd {start gap : List Char} (plain : '%' ∉ start) (sigma : EndsInSigma [] start)
      (cased : meetsCased gap = true) : TurnsSigma (start ++ ['%']) (start ++ gap)
  | atStart {ending gap : List Char} (plain : '%' ∉ ending) (sigma : StartsInSigma ending)
      (cased : meetsCased gap.reverse = true) : TurnsSigma ('%' :: ending) (gap ++ ending)

theorem TurnsSigma.mem_sigma (turns : TurnsSigma pattern text) : 'Σ' ∈ pattern := by
  cases turns with
  | atEnd _ sigma =>
    obtain ⟨word, skipped, rfl, -⟩ := sigma
    simp
  | atStart _ sigma =>
    obtain ⟨skipped, after, rfl, -⟩ := sigma
    simp

theorem TurnsSigma.mem_percent (turns : TurnsSigma pattern text) : '%' ∈ pattern := by
  cases turns <;> simp

theorem TurnsSigma.not_inner (turns : TurnsSigma pattern text) : ¬ Inner '%' pattern := by
  cases turns with
  | atEnd plain => simp [Inner, List.count_eq_zero_of_not_mem plain]
  | atStart plain => simp [Inner, List.count_eq_zero_of_not_mem plain]

theorem turnsSigma_beginning_iff (plain : '%' ∉ start) :
    TurnsSigma (start ++ ['%']) (start ++ gap) ↔
      EndsInSigma [] start ∧ meetsCased gap = true := by
  refine ⟨fun turns => ?_, fun ⟨sigma, cased⟩ => .atEnd plain sigma cased⟩
  generalize given : start ++ ['%'] = pattern at turns
  generalize filled : start ++ gap = text at turns
  cases turns with
  | atEnd _ sigma cased =>
    obtain rfl := (List.append_inj' given rfl).1
    obtain rfl := List.append_cancel_left filled
    exact ⟨sigma, cased⟩
  | atStart _ sigma =>
    cases start with
    | nil =>
      obtain ⟨skipped, after, same, -⟩ := sigma
      cases given
      simp at same
    | cons letter start =>
      cases given
      simp at plain

theorem turnsSigma_ending_iff {ending : List Char} (plain : '%' ∉ ending) :
    TurnsSigma ('%' :: ending) (gap ++ ending) ↔
      StartsInSigma ending ∧ meetsCased gap.reverse = true := by
  refine ⟨fun turns => ?_, fun ⟨sigma, cased⟩ => .atStart plain sigma cased⟩
  generalize given : '%' :: ending = pattern at turns
  generalize filled : gap ++ ending = text at turns
  cases turns with
  | @atEnd start _ _ sigma =>
    cases start with
    | nil =>
      obtain ⟨word, skipped, same, -⟩ := sigma
      simp at same
    | cons letter start =>
      cases given
      simp at plain
  | atStart _ sigma cased =>
    cases given
    obtain rfl := List.append_cancel_right filled
    exact ⟨sigma, cased⟩

/-- A pattern finds every text that it spells, except where a capital sigma turns: then it is
written in one lower case in the pattern and in the other in the text. -/
theorem Wildcard.finds_spelled_iff {pattern text : List Char} (fills : Fills pattern text) :
    (Wildcard.ofPattern pattern).finds text = true ↔ ¬ TurnsSigma pattern text := by
  have form := form_ofPattern pattern
  generalize ofPattern pattern = wildcard at form ⊢
  cases form with
  | lone lone =>
    refine iff_of_true rfl fun turns => ?_
    rcases mem_trim turns.mem_sigma with blank | left
    · exact absurd blank (by decide)
    · rw [lone] at left
      exact absurd left (by decide)
  | exact plain =>
    obtain rfl := (fills_plain_iff plain).1 fills
    exact iff_of_true (beq_self_eq_true text) fun turns => plain turns.mem_percent
  | ending same plain =>
    subst same
    obtain ⟨gap, rfl, -⟩ := (fills_ending_iff plain).1 fills
    rw [finds, List.isSuffixOf_iff_suffix, lowercase_suffix_iff, turnsSigma_ending_iff plain]
  | beginning same plain =>
    subst same
    obtain ⟨gap, rfl, -⟩ := (fills_beginning_iff plain).1 fills
    rw [finds, List.isPrefixOf_iff_prefix, turnsSigma_beginning_iff plain]
    exact lowercaseAfter_prefix_iff
  | parts inner =>
    refine iff_of_true ?_ fun turns => turns.not_inner inner
    obtain ⟨rest, same, spaced⟩ := fills.spaced
    have dropped : dropPart? (splitAt '%' pattern).1 text = some rest :=
      dropPart?_eq_some.2 ⟨_, .refl _, same⟩
    rw [finds, dropped]
    exact isSome_skipPastAll?.2 spaced

theorem Wildcard.finds_spelled_iff_street :
    Fills "ΟΔΟΣ%".toList "ΟΔΟΣ 1".toList ∧
    (Wildcard.ofPattern "ΟΔΟΣ%".toList).finds "ΟΔΟΣ 1".toList = true ∧
    Fills "%ΔΟΣ%".toList "ΟΔΟΣΑ".toList ∧
    (Wildcard.ofPattern "%ΔΟΣ%".toList).finds "ΟΔΟΣΑ".toList = true := by
  have ended : Fills "ΟΔΟΣ%".toList "ΟΔΟΣ 1".toList :=
    (fills_beginning_iff (show '%' ∉ "ΟΔΟΣ".toList by decide)).2 ⟨" 1".toList, rfl, by decide⟩
  have begun : Fills "ΔΟΣ%".toList "ΔΟΣΑ".toList :=
    (fills_beginning_iff (show '%' ∉ "ΔΟΣ".toList by decide)).2 ⟨"Α".toList, rfl, by decide⟩
  have inside : Fills "%ΔΟΣ%".toList "ΟΔΟΣΑ".toList :=
    fills_gap_iff.2 ⟨"Ο".toList, "ΔΟΣΑ".toList, by decide, by decide, begun⟩
  refine ⟨ended, (finds_spelled_iff ended).2 fun turns => ?_, inside,
    (finds_spelled_iff inside).2 fun turns => turns.not_inner (.inl (by decide))⟩
  -- A blank ends the word, so the sigma does not turn.
  have cased := ((turnsSigma_beginning_iff (show '%' ∉ "ΟΔΟΣ".toList by decide)).1 turns).2
  exact absurd cased (by decide +kernel)

/-- A word that goes on after a sigma is missed by the pattern that spells its beginning. -/
theorem Wildcard.spelled_missed :
    Fills "ΟΔΟΣ%".toList "ΟΔΟΣΑ".toList ∧
    (Wildcard.ofPattern "ΟΔΟΣ%".toList).finds "ΟΔΟΣΑ".toList = false := by
  refine ⟨?_, by decide +kernel⟩
  exact (fills_beginning_iff (show '%' ∉ "ΟΔΟΣ".toList by decide)).2 ⟨"Α".toList, rfl, by decide⟩

end Search

end Casework
