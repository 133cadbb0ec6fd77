import Casework.Reference.Format

set_option autoImplicit false

namespace Casework

namespace Text

theorem decimal_injective {first second : Nat} (same : decimal first = decimal second) :
    first = second := by
  have read := digits?_decimal first
  rw [same, digits?_decimal] at read
  exact (Option.some.inj read).symm

theorem padded_injective {width first second : Nat}
    (same : padded width first = padded width second) : first = second := by
  have read := digits?_padded width first
  rw [same, digits?_padded] at read
  exact (Option.some.inj read).symm

theorem isDigit_of_mem_padded {width number : Nat} {letter : Char}
    (member : letter ∈ padded width number) : letter.isDigit = true := by
  rcases List.mem_append.1 member with zero | digit
  · rw [(List.mem_replicate.1 zero).2]
    decide
  · exact isDigit_of_mem_decimal digit

theorem toList_numeral (number : Nat) : (numeral number).toList = decimal number :=
  String.toList_ofList

theorem toList_signedNumeral (number : Int) :
    (signedNumeral number).toList =
      if number < 0 then '-' :: decimal number.natAbs else decimal number.natAbs := by
  unfold signedNumeral
  split
  · rw [String.toList_append, toList_numeral]
    rfl
  · exact toList_numeral _

theorem minus_not_mem_decimal (number : Nat) : '-' ∉ decimal number := fun member =>
  Bool.false_ne_true (isDigit_of_mem_decimal member)

theorem signedNumeral_injective {first second : Int}
    (same : (signedNumeral first).toList = (signedNumeral second).toList) : first = second := by
  rw [toList_signedNumeral, toList_signedNumeral] at same
  by_cases negative : first < 0
  · by_cases other : second < 0
    · rw [if_pos negative, if_pos other] at same
      have sized := decimal_injective (List.cons.inj same).2
      omega
    · rw [if_pos negative, if_neg other] at same
      have signed : '-' ∈ decimal second.natAbs := same ▸ List.mem_cons_self
      exact absurd signed (minus_not_mem_decimal _)
  · by_cases other : second < 0
    · rw [if_neg negative, if_pos other] at same
      have signed : '-' ∈ decimal first.natAbs := same ▸ List.mem_cons_self
      exact absurd signed (minus_not_mem_decimal _)
    · rw [if_neg negative, if_neg other] at same
      have sized := decimal_injective same
      omega

end Text

namespace Reference

open Text

section Sections

variable {separator : Char}

theorem sections_ne_nil (text : List Char) : sections separator text ≠ [] := by
  cases text with
  | nil => exact List.cons_ne_nil _ _
  | cons letter rest =>
    unfold sections
    split
    · exact List.cons_ne_nil _ _
    · split <;> exact List.cons_ne_nil _ _

theorem sections_cons_of_ne {letter : Char} (apart : letter ≠ separator) (rest : List Char) :
    ∃ first others, sections separator rest = first :: others ∧
      sections separator (letter :: rest) = (letter :: first) :: others := by
  cases found : sections separator rest with
  | nil => exact absurd found (sections_ne_nil rest)
  | cons first others => exact ⟨first, others, rfl, by simp [sections, apart, found]⟩

theorem sections_of_free {letters : List Char} (free : separator ∉ letters) :
    sections separator letters = [letters] := by
  induction letters with
  | nil => rfl
  | cons letter rest ih =>
    obtain ⟨apart, free⟩ := not_or.1 (mt List.mem_cons.2 free)
    simp [sections, ih free, Ne.symm apart]

theorem sections_append (first rest : List Char) :
    sections separator (first ++ separator :: rest) =
      sections separator first ++ sections separator rest := by
  induction first with
  | nil => simp [sections]
  | cons letter first ih =>
    by_cases same : letter = separator
    · simp [sections, same, ih]
    · obtain ⟨head, tail, before, grown⟩ := sections_cons_of_ne same first
      rw [before] at ih
      simp only [List.cons_append] at ih ⊢
      rw [grown, sections, if_neg same, ih]
      rfl

theorem free_of_mem_sections {text part : List Char} (member : part ∈ sections separator text) :
    separator ∉ part := by
  induction text generalizing part with
  | nil =>
    rw [List.mem_singleton.1 member]
    exact List.not_mem_nil
  | cons letter rest ih =>
    by_cases same : letter = separator
    · rw [sections, if_pos same] at member
      rcases List.mem_cons.1 member with rfl | member
      · exact List.not_mem_nil
      · exact ih member
    · obtain ⟨first, others, before, grown⟩ := sections_cons_of_ne same rest
      rw [before] at ih
      rw [grown] at member
      rcases List.mem_cons.1 member with rfl | member
      · exact List.not_mem_cons_of_ne_of_not_mem (Ne.symm same) (ih List.mem_cons_self)
      · exact ih (List.mem_cons_of_mem _ member)

theorem sections_intercalate {parts : List (List Char)} (some_part : parts ≠ [])
    (free : ∀ part ∈ parts, separator ∉ part) :
    sections separator ([separator].intercalate parts) = parts := by
  induction parts with
  | nil => exact absurd rfl some_part
  | cons part parts ih =>
    have alone := sections_of_free (free part List.mem_cons_self)
    cases parts with
    | nil => simpa [List.intercalate] using alone
    | cons next others =>
      have rest := ih (List.cons_ne_nil _ _) fun part member =>
        free part (List.mem_cons_of_mem _ member)
      have joined : [separator].intercalate (part :: next :: others) =
          part ++ separator :: [separator].intercalate (next :: others) := by
        simp [List.intercalate]
      rw [joined, sections_append, alone, rest]
      rfl

end Sections

/-- The first three sections of a reference: the series, the year and the number of a case. -/
def stem (reference : String) : List (List Char) := (sections '/' reference.toList).take 3

theorem sections_base (reference : String) :
    sections '/' (base reference).toList = stem reference := by
  rw [base, String.toList_ofList]
  refine sections_intercalate ?_ fun part member => ?_
  · cases found : sections '/' reference.toList with
    | nil => exact absurd found (sections_ne_nil _)
    | cons first others => exact List.cons_ne_nil _ _
  · exact free_of_mem_sections (List.mem_of_mem_take member)

theorem stem_base (reference : String) : stem (base reference) = stem reference := by
  rw [stem, sections_base, stem, List.take_take, Nat.min_self]

theorem slash_not_mem_digits {text : List Char} (digits : ∀ letter ∈ text, letter.isDigit = true) :
    '/' ∉ text := fun member => Bool.false_ne_true (digits '/' member)

theorem sections_numbered (reference : String) (count : Nat) :
    sections '/' (base reference ++ "/" ++ numeral count).toList =
      stem reference ++ [decimal count] := by
  have split : (base reference ++ "/" ++ numeral count).toList =
      (base reference).toList ++ '/' :: decimal count := by
    rw [String.toList_append, String.toList_append, toList_numeral, List.append_assoc]
    rfl
  rw [split, sections_append, sections_base,
    sections_of_free (slash_not_mem_digits fun _ => isDigit_of_mem_decimal)]

theorem stem_numbered {reference : String} (whole : (stem reference).length = 3) (count : Nat) :
    stem (base reference ++ "/" ++ numeral count) = stem reference := by
  rw [stem, sections_numbered, List.take_append_of_le_length (Nat.le_of_eq whole.symm), ← whole,
    List.take_length]

theorem slash_not_mem_signedNumeral (number : Int) : '/' ∉ (signedNumeral number).toList := by
  have plain : '/' ∉ decimal number.natAbs :=
    slash_not_mem_digits fun _ => isDigit_of_mem_decimal
  rw [toList_signedNumeral]
  split
  · exact List.not_mem_cons_of_ne_of_not_mem (by decide) plain
  · exact plain

theorem sections_yearly {series : String} (free : '/' ∉ series.toList) (year : Int)
    (number : Nat) : sections '/' (yearly series year number).toList =
      [series.toList, (signedNumeral year).toList, padded 5 number] := by
  have split : (yearly series year number).toList =
      series.toList ++ '/' :: ((signedNumeral year).toList ++ '/' :: padded 5 number) := by
    simp only [yearly, String.toList_append, String.toList_ofList, List.append_assoc]
    rfl
  rw [split, sections_append, sections_append, sections_of_free free,
    sections_of_free (slash_not_mem_signedNumeral year),
    sections_of_free (slash_not_mem_digits fun _ => isDigit_of_mem_padded)]
  rfl

theorem stem_yearly {series : String} (free : '/' ∉ series.toList) (year : Int) (number : Nat) :
    stem (yearly series year number) =
      [series.toList, (signedNumeral year).toList, padded 5 number] := by
  rw [stem, sections_yearly free]
  rfl

theorem stem_yearly_length {series : String} (free : '/' ∉ series.toList) (year : Int)
    (number : Nat) : (stem (yearly series year number)).length = 3 := by
  rw [stem_yearly free]
  rfl

theorem stem_yearly_injective {first second : String} {year other : Int} {number count : Nat}
    (free : '/' ∉ first.toList) (also : '/' ∉ second.toList)
    (same : stem (yearly first year number) = stem (yearly second other count)) :
    first = second ∧ year = other ∧ number = count := by
  rw [stem_yearly free, stem_yearly also] at same
  simp only [List.cons.injEq, and_true] at same
  obtain ⟨series, years, numbers⟩ := same
  exact ⟨String.toList_injective series, signedNumeral_injective years, padded_injective numbers⟩

theorem slash_not_mem_caseSeries (processType : ProcessType) :
    '/' ∉ (caseSeries processType).toList := by
  cases processType <;> decide

theorem slash_not_mem_certificateSeries {processType : ProcessType} {series : String}
    (known : certificateSeries processType = .ok series) : '/' ∉ series.toList := by
  cases processType <;> cases known <;> decide

theorem isDigit_checkLetter (sequence : Nat) : (checkLetter sequence).isDigit = false := by
  have letters : ∀ index < 13, (checkLetters.getD index 'A').isDigit = false := by decide
  exact letters _ (Nat.mod_lt _ (by decide))

theorem digits_paperLicence (sequence : Nat) :
    (paperLicence sequence).toList.filter Char.isDigit = padded 7 sequence := by
  have number : (padded 7 sequence).filter Char.isDigit = padded 7 sequence :=
    List.filter_eq_self.2 fun _ => isDigit_of_mem_padded
  rw [paperLicence, String.toList_ofList, List.filter_append, number,
    List.filter_cons_of_neg (by simp [isDigit_checkLetter]), List.filter_nil, List.append_nil]

theorem digits_licenceCategory {processType : ProcessType} {category : String}
    (known : licenceCategory processType = .ok category) :
    category.toList.filter Char.isDigit = [] := by
  cases processType <;> cases known <;> decide

theorem digits_licence {paperOnly : Bool} {processType : ProcessType} {sequence : Nat}
    {reference : String} (written : licence paperOnly processType sequence = .ok reference) :
    reference.toList.filter Char.isDigit = padded 7 sequence := by
  rw [licence] at written
  split at written
  · rw [← Except.ok.inj written]
    exact digits_paperLicence sequence
  · rw [electronicLicence] at written
    cases known : licenceCategory processType with
    | error error =>
      rw [known] at written
      cases written
    | ok category =>
      rw [known] at written
      have region : "GB".toList.filter Char.isDigit = [] := by decide
      rw [← Except.ok.inj written, String.toList_append, String.toList_append, List.filter_append,
        List.filter_append, region, digits_licenceCategory known, digits_paperLicence]
      rfl

theorem licence_injective {paperOnly electronic : Bool} {processType other : ProcessType}
    {first second : Nat} {reference : String}
    (written : licence paperOnly processType first = .ok reference)
    (also : licence electronic other second = .ok reference) : first = second :=
  padded_injective ((digits_licence written).symm.trans (digits_licence also))

end Reference

theorem ProcessType.exists_certificateSeries {processType : ProcessType}
    (exporting : processType.caseType = .exporting) :
    ∃ series, Reference.certificateSeries processType = .ok series := by
  cases processType
  case manufacture | freeSale | goodManufacturing => exact ⟨_, rfl⟩
  all_goals cases exporting

end Casework
