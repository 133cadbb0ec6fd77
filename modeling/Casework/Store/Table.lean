set_option autoImplicit false

namespace Casework

class Numbered (α : Type) where
  number : α → Nat

open Numbered (number)

structure Table (α : Type) [Numbered α] where
  rows : List α
  increasing : rows.Pairwise fun earlier later => number earlier < number later

namespace Table

variable {α : Type} [Numbered α]

def empty : Table α := ⟨[], .nil⟩

instance : Inhabited (Table α) := ⟨empty⟩

def find? (table : Table α) (id : Nat) : Option α := table.rows.find? (number · == id)

def contains (table : Table α) (id : Nat) : Bool := (table.find? id).isSome

def place (row : α) : List α → List α
  | [] => [row]
  | head :: tail =>
    if number row < number head then row :: head :: tail
    else if number row = number head then row :: tail
    else head :: place row tail

theorem mem_place {row found : α} {rows : List α} (member : found ∈ place row rows) :
    found = row ∨ found ∈ rows := by
  induction rows with
  | nil => simpa [place] using member
  | cons head tail ih => grind [place]

theorem increasing_place {row : α} {rows : List α}
    (increasing : rows.Pairwise fun earlier later => number earlier < number later) :
    (place row rows).Pairwise fun earlier later => number earlier < number later := by
  induction rows with
  | nil => simp [place]
  | cons head tail ih =>
    obtain ⟨later, others⟩ := List.pairwise_cons.1 increasing
    have rest := ih others
    unfold place
    split
    next before =>
      refine List.pairwise_cons.2 ⟨fun found member => ?_, increasing⟩
      rcases List.mem_cons.1 member with rfl | member
      · exact before
      · exact Nat.lt_trans before (later _ member)
    next =>
      split
      next same =>
        refine List.pairwise_cons.2 ⟨fun found member => ?_, others⟩
        rw [same]
        exact later _ member
      next =>
        refine List.pairwise_cons.2 ⟨fun found member => ?_, rest⟩
        rcases mem_place member with rfl | member
        · omega
        · exact later _ member

def insert (table : Table α) (row : α) : Table α :=
  ⟨place row table.rows, increasing_place table.increasing⟩

def keep (table : Table α) (wanted : α → Bool) : Table α :=
  ⟨table.rows.filter wanted, table.increasing.filter wanted⟩

def erase (table : Table α) (id : Nat) : Table α := table.keep (number · != id)

def mapRows (table : Table α) (change : α → α) (same : ∀ row, number (change row) = number row) :
    Table α :=
  ⟨table.rows.map change, by
    rw [List.pairwise_map]
    exact table.increasing.imp fun earlier => by rw [same, same]; exact earlier⟩

def modify (table : Table α) (id : Nat) (change : α → α) : Table α :=
  match table.find? id with
  | some row => table.insert (change row)
  | none => table

theorem find?_eq_some_iff {table : Table α} {id : Nat} {row : α} :
    table.find? id = some row ↔ row ∈ table.rows ∧ number row = id := by
  constructor
  · intro found
    exact ⟨List.mem_of_find?_eq_some found, by simpa using List.find?_some found⟩
  · rintro ⟨member, rfl⟩
    obtain ⟨rows, increasing⟩ := table
    simp only [find?]
    induction rows with
    | nil => simp at member
    | cons head tail ih =>
      obtain ⟨later, others⟩ := List.pairwise_cons.1 increasing
      rcases List.mem_cons.1 member with rfl | member
      · simp
      · have apart : ¬ number head = number row := Nat.ne_of_lt (later _ member)
        simpa [apart] using ih others member

theorem find?_place (row : α) (rows : List α) (id : Nat) :
    (place row rows).find? (number · == id) =
      if number row = id then some row else rows.find? (number · == id) := by
  induction rows with
  | nil => by_cases same : number row = id <;> simp [place, same]
  | cons head tail ih =>
    unfold place
    by_cases same : number row = id
    · grind
    · grind

@[simp] theorem find?_insert (table : Table α) (row : α) (id : Nat) :
    (table.insert row).find? id = if number row = id then some row else table.find? id :=
  find?_place row table.rows id

end Table

end Casework
