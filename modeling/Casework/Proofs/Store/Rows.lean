import Casework.Store.Basic

set_option autoImplicit false

namespace Casework

open Calendar
open Numbered (number)

namespace Table

variable {α : Type} [Numbered α]

theorem place_newest {row : α} {rows : List α}
    (newest : ∀ found ∈ rows, number found < number row) :
    place row rows = rows ++ [row] := by
  induction rows with
  | nil => rfl
  | cons head tail ih =>
    have below := newest head (by simp)
    have rest := ih fun found member => newest found (List.mem_cons_of_mem _ member)
    have passed : ¬ number row < number head := by omega
    have apart : ¬ number row = number head := by omega
    simp [place, passed, apart, rest]

theorem rows_insert_newest {table : Table α} {row : α}
    (newest : ∀ found ∈ table.rows, number found < number row) :
    (table.insert row).rows = table.rows ++ [row] :=
  place_newest newest

theorem rows_foldl_newest {table : Table α} {rows : List α}
    (newest : (table.rows ++ rows).Pairwise fun earlier later => number earlier < number later) :
    (rows.foldl insert table).rows = table.rows ++ rows := by
  induction rows generalizing table with
  | nil => exact (List.append_nil _).symm
  | cons row rest ih =>
    have above : ∀ found ∈ table.rows, number found < number row := fun found member =>
      (List.pairwise_append.1 newest).2.2 found member row List.mem_cons_self
    have added := rows_insert_newest above
    have next : (table.insert row).rows ++ rest = table.rows ++ row :: rest := by
      rw [added, List.append_assoc]
      rfl
    rw [← next] at newest ⊢
    exact ih newest

theorem mem_rows_insert {table : Table α} {row found : α}
    (member : found ∈ (table.insert row).rows) :
    found = row ∨ found ∈ table.rows :=
  mem_place member

def changeAt (id : Nat) (change : α → α) (rows : List α) : List α :=
  rows.map fun row => if number row = id then change row else row

theorem changeAt_of_apart {rows : List α} {id : Nat} {change : α → α}
    (apart : ∀ row ∈ rows, number row ≠ id) : changeAt id change rows = rows := by
  have unchanged : ∀ row ∈ rows, (if number row = id then change row else row) = row :=
    fun row member => if_neg (apart row member)
  exact (List.map_congr_left unchanged).trans (List.map_id' rows)

theorem changeAt_cons (id : Nat) (change : α → α) (head : α) (tail : List α) :
    changeAt id change (head :: tail) =
      (if number head = id then change head else head) :: changeAt id change tail := rfl

theorem countP_changeAt {rows : List α} {row : α} (change : α → α) (wanted : α → Bool)
    (increasing : rows.Pairwise fun earlier later => number earlier < number later)
    (member : row ∈ rows) :
    (changeAt (number row) change rows).countP wanted + (if wanted row then 1 else 0) =
      rows.countP wanted + if wanted (change row) then 1 else 0 := by
  induction rows with
  | nil => simp at member
  | cons head tail ih =>
    obtain ⟨later, others⟩ := List.pairwise_cons.1 increasing
    rw [changeAt_cons, List.countP_cons, List.countP_cons]
    rcases List.mem_cons.1 member with rfl | member
    · have apart : ∀ found ∈ tail, number found ≠ number row := fun found found_mem =>
        Nat.ne_of_gt (later found found_mem)
      rw [changeAt_of_apart apart, if_pos rfl]
      omega
    · have apart : number head ≠ number row := Nat.ne_of_lt (later row member)
      rw [if_neg apart]
      have rest := ih others member
      omega

theorem filter_changeAt {rows : List α} {id : Nat} {change : α → α} {wanted : α → Bool}
    (same : ∀ row, wanted (change row) = wanted row) :
    (changeAt id change rows).filter wanted = changeAt id change (rows.filter wanted) := by
  rw [changeAt, List.filter_map]
  refine congrArg _ (List.filter_congr fun row _ => ?_)
  simp only [Function.comp]
  split
  · exact same row
  · rfl

theorem mem_changeAt {rows : List α} {id : Nat} {change : α → α} {found : α} :
    found ∈ changeAt id change rows ↔
      ∃ row ∈ rows, (if number row = id then change row else row) = found := by
  rw [changeAt, List.mem_map]

theorem place_changed {row changed : α} {rows : List α}
    (increasing : rows.Pairwise fun earlier later => number earlier < number later)
    (member : row ∈ rows) (same : number changed = number row) :
    place changed rows = changeAt (number row) (fun _ => changed) rows := by
  induction rows with
  | nil => simp at member
  | cons head tail ih =>
    obtain ⟨later, others⟩ := List.pairwise_cons.1 increasing
    rcases List.mem_cons.1 member with rfl | member
    · have apart : ∀ found ∈ tail, number found ≠ number row := fun found found_mem =>
        Nat.ne_of_gt (later found found_mem)
      simp [place, changeAt_cons, same, changeAt_of_apart apart]
    · have before := later row member
      have passed : ¬ number changed < number head := by omega
      have apart : ¬ number changed = number head := by omega
      have head_apart : ¬ number head = number row := by omega
      simp [place, changeAt_cons, passed, apart, head_apart, ih others member]

theorem eq_of_number_eq {table : Table α} {row other : α} (member : row ∈ table.rows)
    (other_mem : other ∈ table.rows) (same : number row = number other) : row = other := by
  have found := find?_eq_some_iff.2 ⟨member, rfl⟩
  rw [same, find?_eq_some_iff.2 ⟨other_mem, rfl⟩] at found
  exact (Option.some.inj found).symm

theorem rows_modify (table : Table α) (id : Nat) {change : α → α}
    (same : ∀ row, number (change row) = number row) :
    (table.modify id change).rows = changeAt id change table.rows := by
  unfold modify
  split
  next row found =>
    obtain ⟨member, rfl⟩ := find?_eq_some_iff.1 found
    refine (place_changed table.increasing member (same row)).trans ?_
    refine List.map_congr_left fun other other_mem => ?_
    by_cases equal : number other = number row
    · rw [if_pos equal, if_pos equal, eq_of_number_eq other_mem member equal]
    · rw [if_neg equal, if_neg equal]
  next missing =>
    refine (changeAt_of_apart fun row member equal => ?_).symm
    rw [find?_eq_some_iff.2 ⟨member, equal⟩] at missing
    cases missing

theorem find?_keep (table : Table α) (wanted : α → Bool) (id : Nat) :
    (table.keep wanted).find? id = (table.find? id).filter wanted := by
  cases found : table.find? id with
  | none =>
    cases kept : (table.keep wanted).find? id with
    | none => rfl
    | some row =>
      obtain ⟨member, same⟩ := find?_eq_some_iff.1 kept
      rw [find?_eq_some_iff.2 ⟨(List.mem_filter.1 member).1, same⟩] at found
      cases found
  | some row =>
    obtain ⟨member, same⟩ := find?_eq_some_iff.1 found
    by_cases picked : wanted row = true
    · rw [find?_eq_some_iff.2 ⟨List.mem_filter.2 ⟨member, picked⟩, same⟩]
      simp [Option.filter, picked]
    · cases kept : (table.keep wanted).find? id with
      | none => simp [Option.filter, picked]
      | some other =>
        obtain ⟨other_mem, other_same⟩ := find?_eq_some_iff.1 kept
        obtain ⟨other_mem, other_picked⟩ := List.mem_filter.1 other_mem
        rw [eq_of_number_eq other_mem member (other_same.trans same.symm)] at other_picked
        exact absurd other_picked picked

theorem find?_erase (table : Table α) (id other : Nat) :
    (table.erase id).find? other = if other = id then none else table.find? other := by
  rw [erase, find?_keep]
  cases found : table.find? other with
  | none => simp
  | some row =>
    obtain ⟨-, rfl⟩ := find?_eq_some_iff.1 found
    by_cases same : number row = id <;> simp [Option.filter, same]

theorem contains_iff {table : Table α} {id : Nat} :
    table.contains id = true ↔ ∃ row ∈ table.rows, number row = id := by
  rw [contains, Option.isSome_iff_exists]
  exact exists_congr fun row => find?_eq_some_iff

end Table

end Casework
