import Casework.Json.Reader
import Casework.Json.Writer
import Mathlib.Data.List.Basic
import Mathlib.Data.List.TakeWhile

set_option autoImplicit false

namespace Casework.Json

open Casework.Text

-- The value can be held with `room` levels of lists and objects, itself included. A number with a
-- fraction or an exponent is not among such values, as nothing is written as one.
inductive Held : Nat → Json → Prop where
  | null (room : Nat) : Held room .null
  | flag (room : Nat) (value : Bool) : Held room (.flag value)
  | integer (room : Nat) {value : Int} (fits : value.natAbs ≤ largestWord) :
      Held room (.integer value)
  | text (room : Nat) (value : String) : Held room (.text value)
  | list {room : Nat} {items : List Json} (held : ∀ item ∈ items, Held room item) :
      Held (room + 1) (.list items)
  | object {room : Nat} {members : List (String × Json)}
      (held : ∀ member ∈ members, Held room member.2) : Held (room + 1) (.object members)

inductive Ends : List Char → Prop where
  | nothing : Ends []
  | mark {letter : Char} (rest : List Char) (among : letter ∈ [',', ']', '\x7d']) :
      Ends (letter :: rest)

def pieceOf (letter : Char) : Piece :=
  if shortEscapes.lookup letter = none ∧ letter.toNat < 0x20 then .code letter.toNat
  else .letter letter

theorem readQuoted_code (a b c d : Char) (rest : List Char) :
    readQuoted ('\\' :: 'u' :: a :: b :: c :: d :: rest) =
      (hexNumber? [a, b, c, d]).bind fun code =>
        (readQuoted rest).map fun (pieces, after) => (.code code :: pieces, after) := rfl

theorem readQuoted_escaped {mark : Char} (short : mark ≠ 'u') (rest : List Char) :
    readQuoted ('\\' :: mark :: rest) =
      (escapedLetter? mark).bind fun escaped =>
        (readQuoted rest).map fun (pieces, after) => (.letter escaped :: pieces, after) := by
  rw [readQuoted]
  simp [short]

theorem readQuoted_plain {letter : Char} (rest : List Char) (no_quote : letter ≠ '"')
    (no_escape : letter ≠ '\\') (printed : ¬letter.toNat < 0x20) :
    readQuoted (letter :: rest) =
      (readQuoted rest).map fun (pieces, after) => (.letter letter :: pieces, after) := by
  rw [readQuoted]
  · rw [if_neg printed]
  all_goals simp [no_quote, no_escape]

theorem escapedLetter?_of_short {letter mark : Char}
    (short : shortEscapes.lookup letter = some mark) :
    escapedLetter? mark = some letter ∧ mark ≠ 'u' := by
  obtain ⟨_, _, entries, _⟩ := List.lookup_eq_some_iff.1 short
  have member : (letter, mark) ∈ shortEscapes := by
    rw [entries]
    exact List.mem_append_right _ List.mem_cons_self
  have all : ∀ entry ∈ shortEscapes, escapedLetter? entry.2 = some entry.1 ∧ entry.2 ≠ 'u' := by
    decide
  exact all _ member

theorem hexDigits_of_lt : ∀ code < 0x20,
    hexDigits code = ['0', '0', (code / 16).digitChar, (code % 16).digitChar] := by decide

theorem hexNumber?_of_lt : ∀ code < 0x20,
    hexNumber? ['0', '0', (code / 16).digitChar, (code % 16).digitChar] = some code := by decide

theorem readQuoted_writtenLetter (letter : Char) (rest : List Char) :
    readQuoted (writtenLetter letter ++ rest) =
      (readQuoted rest).map fun (pieces, after) => (pieceOf letter :: pieces, after) := by
  cases short : shortEscapes.lookup letter with
  | some mark =>
    have written : writtenLetter letter = ['\\', mark] := by simp only [writtenLetter, short]
    have piece : pieceOf letter = .letter letter := if_neg (by simp [short])
    obtain ⟨read, known⟩ := escapedLetter?_of_short short
    rw [written, piece]
    exact (readQuoted_escaped known rest).trans (by rw [read, Option.bind_some])
  | none =>
    by_cases control : letter.toNat < 0x20
    · have written : writtenLetter letter = '\\' :: 'u' :: hexDigits letter.toNat := by
        simp only [writtenLetter, short, if_pos control]
      have piece : pieceOf letter = .code letter.toNat := if_pos ⟨short, control⟩
      rw [written, piece, hexDigits_of_lt _ control]
      refine (readQuoted_code _ _ _ _ rest).trans ?_
      rw [hexNumber?_of_lt _ control, Option.bind_some]
    · have written : writtenLetter letter = [letter] := by
        simp only [writtenLetter, short, if_neg control]
      have piece : pieceOf letter = .letter letter := if_neg fun both => control both.2
      rw [written, piece]
      refine readQuoted_plain rest ?_ ?_ control
      · rintro rfl
        exact absurd short (by decide)
      · rintro rfl
        exact absurd short (by decide)

theorem readQuoted_written (letters rest : List Char) :
    readQuoted (letters.flatMap writtenLetter ++ '"' :: rest) =
      some (letters.map pieceOf, rest) := by
  induction letters with
  | nil => rfl
  | cons letter letters ih =>
    rw [List.flatMap_cons, List.append_assoc, readQuoted_writtenLetter, ih, Option.map_some,
      List.map_cons]

theorem spelled?_code {code : Nat} (low : code < 0xD800) (pieces : List Piece) :
    spelled? (.code code :: pieces) = (spelled? pieces).map (Char.ofNat code :: ·) := by
  have leading : isLeading code = false := by simp [isLeading]; omega
  have trailing : isTrailing code = false := by simp [isTrailing]; omega
  cases pieces with
  | nil => simp [spelled?, leading, trailing]
  | cons piece pieces => cases piece <;> simp [spelled?, leading, trailing]

theorem spelled?_pieces (letters : List Char) :
    spelled? (letters.map pieceOf) = some letters := by
  induction letters with
  | nil => rfl
  | cons letter letters ih =>
    rw [List.map_cons, pieceOf]
    split
    case isTrue control =>
      rw [spelled?_code (by omega), ih, Option.map_some, Char.ofNat_toNat]
    case isFalse => rw [spelled?, ih, Option.map_some]

theorem ofQuoted_pieces (value : String) :
    ofQuoted (value.toList.map pieceOf) = .text value := by
  simp only [ofQuoted, spelled?_pieces, String.ofList_toList]

theorem memberOf_pieces (name : String) (value : Json) :
    memberOf (name.toList.map pieceOf) value = (name, value) := by
  simp only [memberOf, spelled?_pieces, String.ofList_toList]

theorem readQuoted_writtenText (value : String) (rest : List Char) :
    ∃ quoted, writtenText value ++ rest = '"' :: quoted ∧
      readQuoted quoted = some (value.toList.map pieceOf, rest) :=
  ⟨value.toList.flatMap writtenLetter ++ '"' :: rest, by simp [writtenText],
    readQuoted_written _ _⟩

theorem Ends.takeWhile_digits {digits rest : List Char} (ends : Ends rest)
    (all_digits : ∀ letter ∈ digits, letter.isDigit = true) :
    (digits ++ rest).takeWhile Char.isDigit = digits := by
  rw [List.takeWhile_append_of_pos all_digits]
  cases ends with
  | nothing => exact List.append_nil _
  | mark rest among =>
    simp only [List.mem_cons, List.not_mem_nil, or_false] at among
    rcases among with rfl | rfl | rfl <;> exact List.append_nil _

theorem Ends.readFraction {rest : List Char} (ends : Ends rest) :
    readFraction rest = some ([], rest) := by
  cases ends with
  | nothing => rfl
  | mark rest among =>
    simp only [List.mem_cons, List.not_mem_nil, or_false] at among
    rcases among with rfl | rfl | rfl <;> rfl

theorem Ends.readExponent {rest : List Char} (ends : Ends rest) :
    readExponent rest = some (none, rest) := by
  cases ends with
  | nothing => rfl
  | mark rest among =>
    simp only [List.mem_cons, List.not_mem_nil, or_false] at among
    rcases among with rfl | rfl | rfl <;> rfl

theorem le_ofDigitChars (digits : List Char) (start : Nat) :
    start ≤ Nat.ofDigitChars 10 digits start := by
  induction digits generalizing start with
  | nil => exact le_refl start
  | cons digit digits ih =>
    rw [Nat.ofDigitChars_cons]
    exact le_trans (by omega) (ih _)

theorem ofWhole_of_fits (digits : List Char) (start : Nat)
    (fits : Nat.ofDigitChars 10 digits start ≤ largestWord) :
    Scaled.ofWhole start digits = ⟨Nat.ofDigitChars 10 digits start, 0⟩ := by
  induction digits generalizing start with
  | nil => rfl
  | cons digit digits ih =>
    rw [Nat.ofDigitChars_cons] at fits ⊢
    have longer := le_trans (le_ofDigitChars digits _) fits
    rw [Scaled.ofWhole, Nat.ofDigitChars_cons, Nat.ofDigitChars_nil, if_pos longer, ih _ fits]

theorem head?_decimal {number : Nat} (positive : 0 < number) :
    (decimal number).head? ≠ some '0' := by
  induction number using Nat.strong_induction_on with
  | _ number ih =>
    unfold decimal at ih ⊢
    by_cases single : number < 10
    · rw [Nat.toDigits_of_lt_base single]
      have digits : ∀ digit < 10, 0 < digit → [digit.digitChar].head? ≠ some '0' := by decide
      exact digits number single positive
    · rw [Nat.toDigits_of_base_le (by decide) (by omega),
        List.head?_append_of_ne_nil _ Nat.toDigits_ne_nil]
      exact ih (number / 10) (by omega) (by omega)

theorem no_leading_zero (number : Nat) :
    ¬(decimal number = [] ∨
      ((decimal number).head? = some '0' ∧ 1 < (decimal number).length)) := by
  rintro (empty | ⟨zero, long⟩)
  · exact decimal_ne_nil number empty
  · rcases Nat.eq_zero_or_pos number with rfl | positive
    · exact absurd long (by decide)
    · exact head?_decimal positive zero

theorem readNumber_decimal {negative : Bool} {number : Nat} {rest : List Char}
    (fits : number ≤ largestWord) (signed : negative = true → number ≠ 0) (ends : Ends rest) :
    readNumber negative (decimal number ++ rest) =
      some (.integer (if negative then -Int.ofNat number else number), rest) := by
  have value : Nat.ofDigitChars 10 (decimal number) 0 = number :=
    Nat.ofDigitChars_toDigits (by decide) (by decide)
  have whole := ofWhole_of_fits (decimal number) 0 (by rwa [value])
  rw [value] at whole
  unfold readNumber
  simp only [ends.takeWhile_digits fun _ => isDigit_of_mem_decimal, if_neg (no_leading_zero number),
    List.drop_left, ends.readFraction, Option.bind_some, ends.readExponent, Option.map_some, whole]
  rw [if_pos ⟨trivial, trivial, trivial, signed⟩]

theorem skipSpaces_cons {first : Char} (rest : List Char) (dark : isSpace first = false) :
    skipSpaces (first :: rest) = first :: rest :=
  List.dropWhile_cons_of_neg (by simp [dark])

theorem isSpace_of_isDigit {letter : Char} (digit : letter.isDigit = true) :
    isSpace letter = false := by
  by_contra space
  simp only [isSpace, Bool.not_eq_false, Bool.or_eq_true, beq_iff_eq] at space
  rcases space with ((rfl | rfl) | rfl) | rfl <;> exact absurd digit (by decide)

theorem readValue_text {quoted after : List Char} {pieces : List Piece} (fuel room : Nat)
    (read : readQuoted quoted = some (pieces, after)) :
    readValue (fuel + 1) room ('"' :: quoted) = (ofQuoted pieces, some after) := by
  rw [readValue, skipSpaces_cons _ (by decide)]
  simp only [read]

theorem readValue_negative {digits after : List Char} {value : Json} (fuel room : Nat)
    (read : readNumber true digits = some (value, after)) :
    readValue (fuel + 1) room ('-' :: digits) = (value, some after) := by
  rw [readValue, skipSpaces_cons _ (by decide)]
  simp only [read]

theorem readValue_digits {first : Char} {rest after : List Char} {value : Json} (fuel room : Nat)
    (digit : first.isDigit = true) (read : readNumber false (first :: rest) = some (value, after)) :
    readValue (fuel + 1) room (first :: rest) = (value, some after) := by
  rw [readValue, skipSpaces_cons rest (isSpace_of_isDigit digit)]
  split
  case h_8 => rw [read]
  -- No other kind of value starts with a digit.
  all_goals
    rename_i shape
    obtain ⟨rfl, -⟩ := List.cons.inj shape
    exact absurd digit (by decide)

theorem readValue_list {fuel room : Nat} {first : Char} {rest : List Char} {items : List Json}
    {after : Option (List Char)} (dark : isSpace first = false) (item : first ≠ ']')
    (read : readItems fuel room (first :: rest) = (items, after)) :
    readValue (fuel + 1) (room + 1) ('[' :: first :: rest) = (.list items, after) := by
  rw [readValue, skipSpaces_cons _ (by decide)]
  simp only [skipSpaces_cons rest dark]
  split
  case h_1 shape => exact absurd (List.cons.inj shape).1 item
  case h_2 => rw [Nat.add_sub_cancel, read, enclosed, if_neg (Nat.succ_ne_zero room)]

theorem readValue_object {fuel room : Nat} {rest : List Char} {members : List (String × Json)}
    {after : Option (List Char)} (read : readMembers fuel room ('"' :: rest) = (members, after)) :
    readValue (fuel + 1) (room + 1) ('\x7b' :: '"' :: rest) = (.object members, after) := by
  rw [readValue, skipSpaces_cons _ (by decide)]
  simp only [skipSpaces_cons rest (show isSpace '"' = false by decide), Nat.add_sub_cancel]
  change (enclosed (room + 1) (.object (readMembers fuel room ('"' :: rest)).1),
    (readMembers fuel room ('"' :: rest)).2) = _
  rw [read, enclosed, if_neg (Nat.succ_ne_zero room)]

theorem readItems_last {fuel room : Nat} {input rest : List Char} {value : Json}
    (read : readValue fuel room input = (value, some (']' :: rest))) :
    readItems (fuel + 1) room input = ([value], some rest) := by
  rw [readItems, read]
  rfl

theorem readItems_more {fuel room : Nat} {input rest : List Char} {value : Json}
    (read : readValue fuel room input = (value, some (',' :: rest))) :
    readItems (fuel + 1) room input =
      (value :: (readItems fuel room rest).1, (readItems fuel room rest).2) := by
  rw [readItems, read]
  rfl

theorem readMembers_last {fuel room : Nat} {quoted spelled rest : List Char}
    {pieces : List Piece} {value : Json} (name : readQuoted quoted = some (pieces, ':' :: spelled))
    (read : readValue fuel room spelled = (value, some ('\x7d' :: rest))) :
    readMembers (fuel + 1) room ('"' :: quoted) = ([memberOf pieces value], some rest) := by
  rw [readMembers, skipSpaces_cons _ (by decide)]
  simp only [name, skipSpaces_cons spelled (show isSpace ':' = false by decide), read]
  rfl

theorem readMembers_more {fuel room : Nat} {quoted spelled rest : List Char}
    {pieces : List Piece} {value : Json} (name : readQuoted quoted = some (pieces, ':' :: spelled))
    (read : readValue fuel room spelled = (value, some (',' :: rest))) :
    readMembers (fuel + 1) room ('"' :: quoted) =
      (memberOf pieces value :: (readMembers fuel room rest).1,
        (readMembers fuel room rest).2) := by
  rw [readMembers, skipSpaces_cons _ (by decide)]
  simp only [name, skipSpaces_cons spelled (show isSpace ':' = false by decide), read]
  rfl

-- What is written for the value is read as the value, whatever stands after it. A unit of fuel for
-- each letter is enough, as every level of nesting and every item writes a letter of its own.
def ReadsBack (room : Nat) (value : Json) : Prop :=
  ∀ fuel rest, value.written.length ≤ fuel → Ends rest →
    readValue fuel room (value.written ++ rest) = (value, some rest)

theorem readItems_written {room : Nat} :
    ∀ {items : List Json}, items ≠ [] → (∀ item ∈ items, ReadsBack room item) →
      ∀ fuel rest, (writtenItems items).length ≤ fuel →
        readItems fuel room (writtenItems items ++ rest) = (items, some rest)
  | [item], _, read, fuel, rest, enough => by
    have written : writtenItems [item] = item.written ++ [']'] := rfl
    rw [written, List.length_append, List.length_singleton] at enough
    obtain ⟨fuel, rfl⟩ := Nat.exists_eq_succ_of_ne_zero (show fuel ≠ 0 by omega)
    rw [written, List.append_assoc]
    exact readItems_last (read item List.mem_cons_self fuel _ (by omega) (.mark rest (by decide)))
  | item :: next :: items, _, read, fuel, rest, enough => by
    have written : writtenItems (item :: next :: items) =
      item.written ++ ',' :: writtenItems (next :: items) := rfl
    rw [written, List.length_append, List.length_cons] at enough
    obtain ⟨fuel, rfl⟩ := Nat.exists_eq_succ_of_ne_zero (show fuel ≠ 0 by omega)
    have later := readItems_written (List.cons_ne_nil next items)
      (fun other member => read other (List.mem_cons_of_mem _ member)) fuel rest (by omega)
    rw [written, List.append_assoc, List.cons_append, Nat.succ_eq_add_one, readItems_more
      (read item List.mem_cons_self fuel _ (by omega) (.mark _ (by decide))), later]

theorem readMembers_written {room : Nat} :
    ∀ {members : List (String × Json)}, members ≠ [] →
      (∀ member ∈ members, ReadsBack room member.2) →
      ∀ fuel rest, (writtenMembers members).length ≤ fuel →
        readMembers fuel room (writtenMembers members ++ rest) = (members, some rest)
  | [(name, value)], _, read, fuel, rest, enough => by
    have written : writtenMembers [(name, value)] =
      writtenText name ++ ':' :: value.written ++ ['\x7d'] := rfl
    rw [written, List.length_append, List.length_append, List.length_cons,
      List.length_singleton] at enough
    obtain ⟨fuel, rfl⟩ := Nat.exists_eq_succ_of_ne_zero (show fuel ≠ 0 by omega)
    rw [written, List.append_assoc, List.append_assoc, List.cons_append]
    obtain ⟨quoted, shape, named⟩ := readQuoted_writtenText name
      (':' :: (value.written ++ (['\x7d'] ++ rest)))
    rw [shape, Nat.succ_eq_add_one, readMembers_last named
      (read _ List.mem_cons_self fuel _ (by dsimp only; omega) (.mark rest (by decide))),
      memberOf_pieces]
    rfl
  | (name, value) :: next :: members, _, read, fuel, rest, enough => by
    have written : writtenMembers ((name, value) :: next :: members) =
      writtenText name ++ ':' :: value.written ++ ',' :: writtenMembers (next :: members) := rfl
    rw [written, List.length_append, List.length_append, List.length_cons,
      List.length_cons] at enough
    obtain ⟨fuel, rfl⟩ := Nat.exists_eq_succ_of_ne_zero (show fuel ≠ 0 by omega)
    have later := readMembers_written (List.cons_ne_nil next members)
      (fun other member => read other (List.mem_cons_of_mem _ member)) fuel rest (by omega)
    rw [written, List.append_assoc, List.append_assoc, List.cons_append, List.cons_append]
    obtain ⟨quoted, shape, named⟩ := readQuoted_writtenText name
      (':' :: (value.written ++ ',' :: (writtenMembers (next :: members) ++ rest)))
    rw [shape, Nat.succ_eq_add_one, readMembers_more named
      (read _ List.mem_cons_self fuel _ (by dsimp only; omega) (.mark _ (by decide))),
      memberOf_pieces, later]

theorem exists_first_of_decimal (number : Nat) :
    ∃ first more, decimal number = first :: more ∧ first.isDigit = true := by
  obtain ⟨first, more, shape⟩ := List.exists_cons_of_ne_nil (decimal_ne_nil number)
  exact ⟨first, more, shape, isDigit_of_mem_decimal (shape ▸ List.mem_cons_self)⟩

theorem Held.exists_first {room : Nat} {value : Json} (held : value.Held room) :
    ∃ first more, value.written = first :: more ∧ isSpace first = false ∧ first ≠ ']' := by
  cases held with
  | null => exact ⟨_, _, rfl, by decide, by decide⟩
  | flag _ value => cases value <;> exact ⟨_, _, rfl, by decide, by decide⟩
  | text => exact ⟨_, _, rfl, by decide, by decide⟩
  | list => exact ⟨_, _, rfl, by decide, by decide⟩
  | object => exact ⟨_, _, rfl, by decide, by decide⟩
  | @integer _ value _ =>
    by_cases negative : value < 0
    · exact ⟨_, _, if_pos negative, by decide, by decide⟩
    · obtain ⟨first, more, shape, digit⟩ := exists_first_of_decimal value.natAbs
      refine ⟨first, more, (if_neg negative).trans shape, isSpace_of_isDigit digit, ?_⟩
      rintro rfl
      exact absurd digit (by decide)

theorem Held.exists_fuel {room fuel : Nat} {value : Json} (held : value.Held room)
    (enough : value.written.length ≤ fuel) : ∃ left, fuel = left + 1 := by
  obtain ⟨first, more, shape, _⟩ := held.exists_first
  rw [shape, List.length_cons] at enough
  exact ⟨fuel - 1, by omega⟩

theorem readValue_integer {fuel room : Nat} {value : Int} {rest : List Char}
    (fits : value.natAbs ≤ largestWord) (ends : Ends rest) :
    readValue (fuel + 1) room (writtenInteger value ++ rest) = (.integer value, some rest) := by
  unfold writtenInteger
  by_cases negative : value < 0
  · have read := readNumber_decimal fits (fun _ : true = true => by omega) ends
    have same : -Int.ofNat value.natAbs = value := by
      rw [Int.ofNat_eq_natCast]
      omega
    rw [if_pos rfl, same] at read
    rw [if_pos negative, List.cons_append, readValue_negative fuel room read]
  · have read := readNumber_decimal fits (fun signed : false = true => nomatch signed) ends
    have same : (value.natAbs : Int) = value := by omega
    rw [if_neg Bool.false_ne_true, same] at read
    obtain ⟨first, more, shape, digit⟩ := exists_first_of_decimal value.natAbs
    rw [shape] at read
    rw [if_neg negative, shape]
    exact readValue_digits fuel room digit read

theorem readsBack_list {room : Nat} {items : List Json} (held : ∀ item ∈ items, item.Held room)
    (read : ∀ item ∈ items, ReadsBack room item) : ReadsBack (room + 1) (.list items) := by
  intro fuel rest enough ends
  obtain ⟨fuel, rfl⟩ := (Held.list held).exists_fuel enough
  cases items with
  | nil => rfl
  | cons item items =>
    have written : (Json.list (item :: items)).written = '[' :: writtenItems (item :: items) := rfl
    rw [written, List.length_cons] at enough
    obtain ⟨first, more, shape, dark, other⟩ := (held item List.mem_cons_self).exists_first
    obtain ⟨later, starts⟩ : ∃ later, writtenItems (item :: items) = first :: later := by
      cases items with
      | nil => exact ⟨_, congrArg (· ++ [']']) shape⟩
      | cons next items => exact ⟨_, congrArg (· ++ ',' :: writtenItems (next :: items)) shape⟩
    have items_read := readItems_written (List.cons_ne_nil item items) read fuel rest (by omega)
    rw [starts] at items_read
    rw [written, List.cons_append, starts]
    exact readValue_list dark other items_read

theorem readsBack_object {room : Nat} {members : List (String × Json)}
    (held : ∀ member ∈ members, member.2.Held room)
    (read : ∀ member ∈ members, ReadsBack room member.2) :
    ReadsBack (room + 1) (.object members) := by
  intro fuel rest enough ends
  obtain ⟨fuel, rfl⟩ := (Held.object held).exists_fuel enough
  cases members with
  | nil => rfl
  | cons member members =>
    have written : (Json.object (member :: members)).written =
      '\x7b' :: writtenMembers (member :: members) := rfl
    rw [written, List.length_cons] at enough
    obtain ⟨later, starts⟩ : ∃ later, writtenMembers (member :: members) = '"' :: later := by
      cases members with
      | nil => exact ⟨_, rfl⟩
      | cons => exact ⟨_, rfl⟩
    have members_read :=
      readMembers_written (List.cons_ne_nil member members) read fuel rest (by omega)
    rw [starts] at members_read
    rw [written, List.cons_append, starts]
    exact readValue_object members_read

theorem Held.readsBack {room : Nat} {value : Json} (held : value.Held room) :
    ReadsBack room value := by
  induction held with
  | null room =>
    intro fuel rest enough _
    obtain ⟨fuel, rfl⟩ := (Held.null room).exists_fuel enough
    rfl
  | flag room value =>
    intro fuel rest enough _
    obtain ⟨fuel, rfl⟩ := (Held.flag room value).exists_fuel enough
    cases value <;> rfl
  | integer room fits =>
    intro fuel rest enough ends
    obtain ⟨fuel, rfl⟩ := (Held.integer room fits).exists_fuel enough
    exact readValue_integer fits ends
  | text room value =>
    intro fuel rest enough _
    obtain ⟨fuel, rfl⟩ := (Held.text room value).exists_fuel enough
    obtain ⟨quoted, shape, read⟩ := readQuoted_writtenText value rest
    change readValue _ _ (writtenText value ++ rest) = _
    rw [shape, readValue_text fuel room read, ofQuoted_pieces]
  | list held ih => exact readsBack_list held ih
  | object held ih => exact readsBack_object held ih

theorem Held.mono {room wider : Nat} {value : Json} (held : value.Held room)
    (more : room ≤ wider) : value.Held wider := by
  induction held generalizing wider with
  | null => exact .null wider
  | flag _ value => exact .flag wider value
  | integer _ fits => exact .integer wider fits
  | text _ value => exact .text wider value
  | list _ ih =>
    obtain ⟨left, rfl⟩ := Nat.exists_eq_add_of_lt more
    exact .list fun item member => ih item member (by omega)
  | object _ ih =>
    obtain ⟨left, rfl⟩ := Nat.exists_eq_add_of_lt more
    exact .object fun member among => ih member among (by omega)

def spelling (value : Json) : String := String.ofList value.written

theorem Held.read_spelling {room : Nat} {value : Json} (held : value.Held room)
    (shallow : room ≤ depthLimit) :
    readValue (value.spelling.length + 1) depthLimit value.spelling.toList = (value, some []) := by
  have read := (held.mono shallow).readsBack (value.written.length + 1) [] (Nat.le_succ _) .nothing
  rw [List.append_nil] at read
  rwa [spelling, String.length_ofList, String.toList_ofList]

theorem Held.ofText_spelling {room : Nat} {value : Json} (held : value.Held room)
    (shallow : room ≤ depthLimit) : ofText value.spelling = value := by
  rw [ofText, held.read_spelling shallow]

end Casework.Json
