import Casework.Proofs.Store.Rows

set_option autoImplicit false

namespace Casework

open Numbered (number)

namespace Table

variable {α : Type} [Numbered α] {table later last : Table α} {count laterCount lastCount : Nat}

structure Extends (table : Table α) (count : Nat) (later : Table α) (laterCount : Nat) : Prop where
  counter : count ≤ laterCount
  fresh : ∀ row ∈ later.rows, count < number row ∨ ∃ old ∈ table.rows, number old = number row

namespace Extends

theorem refl (table : Table α) (count : Nat) : table.Extends count table count :=
  ⟨Nat.le_refl count, fun row member => .inr ⟨row, member, rfl⟩⟩

theorem trans (first : table.Extends count later laterCount)
    (second : later.Extends laterCount last lastCount) : table.Extends count last lastCount := by
  refine ⟨Nat.le_trans first.counter second.counter, fun row member => ?_⟩
  rcases second.fresh row member with above | ⟨between, between_mem, same⟩
  · exact .inl (Nat.lt_of_le_of_lt first.counter above)
  · rw [← same]
    exact first.fresh between between_mem

theorem shrink (held : table.Extends count later laterCount)
    (kept : ∀ row ∈ last.rows, ∃ old ∈ later.rows, number old = number row) :
    table.Extends count last laterCount := by
  refine held.trans ⟨Nat.le_refl laterCount, fun row member => .inr (kept row member)⟩

theorem keep (held : table.Extends count later laterCount) (wanted : α → Bool) :
    table.Extends count (later.keep wanted) laterCount :=
  held.shrink fun row member => ⟨row, (List.mem_filter.1 member).1, rfl⟩

theorem mapRows (held : table.Extends count later laterCount) (change : α → α)
    (same : ∀ row, number (change row) = number row) :
    table.Extends count (later.mapRows change same) laterCount := by
  refine held.shrink fun row member => ?_
  obtain ⟨old, old_mem, rfl⟩ := List.mem_map.1 member
  exact ⟨old, old_mem, (same old).symm⟩

theorem modify (held : table.Extends count later laterCount) (id : Nat) {change : α → α}
    (same : ∀ row, number (change row) = number row) :
    table.Extends count (later.modify id change) laterCount := by
  refine held.shrink fun row member => ?_
  rw [rows_modify later id same, mem_changeAt] at member
  obtain ⟨old, old_mem, rfl⟩ := member
  refine ⟨old, old_mem, ?_⟩
  split
  · exact (same old).symm
  · rfl

theorem replace (held : table.Extends count later laterCount) {row : α}
    (stored : later.contains (number row) = true) :
    table.Extends count (later.insert row) laterCount := by
  refine held.shrink fun found member => ?_
  rcases mem_rows_insert member with rfl | member
  · exact contains_iff.1 stored
  · exact ⟨found, member, rfl⟩

theorem insert (held : table.Extends count later laterCount) {row : α}
    (next : number row = laterCount + 1) :
    table.Extends count (later.insert row) (laterCount + 1) := by
  refine held.trans ⟨Nat.le_succ laterCount, fun found member => ?_⟩
  rcases mem_rows_insert member with rfl | member
  · exact .inl (by omega)
  · exact .inr ⟨found, member, rfl⟩

theorem find?_eq_none (held : table.Extends count later laterCount) {id : Nat}
    (given : id ≤ count) (free : table.find? id = none) : later.find? id = none := by
  refine Option.eq_none_iff_forall_ne_some.2 fun row found => ?_
  obtain ⟨member, same⟩ := find?_eq_some_iff.1 found
  rcases held.fresh row member with above | ⟨old, old_mem, old_same⟩
  · omega
  · rw [find?_eq_some_iff.2 ⟨old_mem, old_same.trans same⟩] at free
    cases free

end Extends

end Table

namespace Store

variable {store later last : Store}

structure Extends (store later : Store) : Prop where
  applications :
    store.applications.Extends store.lastProcess later.applications later.lastProcess
  tasks : store.tasks.rows.Extends store.tasks.lastId later.tasks.rows later.tasks.lastId
  packs : store.packs.Extends store.lastPack later.packs later.lastPack
  documents : store.documents.Extends store.lastDocument later.documents later.lastDocument
  requests : store.requests.Extends store.lastRequest later.requests later.lastRequest

theorem Extends.refl (store : Store) : store.Extends store :=
  ⟨.refl _ _, .refl _ _, .refl _ _, .refl _ _, .refl _ _⟩

theorem Extends.trans (first : store.Extends later) (second : later.Extends last) :
    store.Extends last where
  applications := first.applications.trans second.applications
  tasks := first.tasks.trans second.tasks
  packs := first.packs.trans second.packs
  documents := first.documents.trans second.documents
  requests := first.requests.trans second.requests

theorem extends_removeApplication (store : Store) (id : Nat) :
    store.Extends (store.removeApplication id) where
  applications := (Table.Extends.refl _ _).keep _
  tasks := (Table.Extends.refl _ _).keep _
  packs := (Table.Extends.refl _ _).keep _
  documents := (Table.Extends.refl _ _).keep _
  requests := .refl _ _

end Store

end Casework
