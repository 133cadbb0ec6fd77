import Mathlib.Data.List.Nodup
import Casework.Proofs.Case.Entries
import Casework.Proofs.Case.Particulars
import Casework.Proofs.Document.Unique
import Casework.Proofs.Tasks.History

set_option autoImplicit false

namespace Casework

open Calendar
open Numbered (number)

inductive Counter where
  | applications
  | tasks
  | packs
  | documents
  | requests
  -- The withdrawals and variations of all applications.
  | entries
deriving DecidableEq, Repr

namespace Store

def numbers (store : Store) : Counter → List Nat
  | .applications => store.applications.rows.map (·.id)
  | .tasks => store.tasks.rows.rows.map (·.id)
  | .packs => store.packs.rows.map (·.id)
  | .documents => store.documents.rows.map (·.id)
  | .requests => store.requests.rows.map (·.id)
  | .entries => store.applications.rows.flatMap (·.entries)

def last (store : Store) : Counter → Nat
  | .applications => store.lastProcess
  | .tasks => store.tasks.lastId
  | .packs => store.lastPack
  | .documents => store.lastDocument
  | .requests => store.lastRequest
  | .entries => store.lastRecord

structure Filed (store : Store) : Prop where
  applications : ∀ application ∈ store.applications.rows,
    store.applications.find? application.id = some application
  tasks : ∀ task ∈ store.tasks.rows.rows, store.tasks.find? task.id = some task
  packs : ∀ pack ∈ store.packs.rows, store.packs.find? pack.id = some pack
  documents : ∀ document ∈ store.documents.rows,
    store.documents.find? document.id = some document
  requests : ∀ request ∈ store.requests.rows, store.requests.find? request.id = some request

/-- Every record belongs to a record that is stored, and a task follows an earlier one of its case.
-/
structure Linked (store : Store) : Prop where
  tasks : ∀ task ∈ store.tasks.rows.rows, store.applications.contains task.processId = true
  follows : ∀ task ∈ store.tasks.rows.rows, ∀ id, task.previous = some id →
    id < task.id ∧
      ∃ earlier, store.tasks.find? id = some earlier ∧ earlier.processId = task.processId
  packs : ∀ pack ∈ store.packs.rows, store.applications.contains pack.processId = true
  documents : ∀ document ∈ store.documents.rows, store.packs.contains document.packId = true
  requests : ∀ request ∈ store.requests.rows,
    store.applications.contains request.processId = true

/-- No number has been given out twice, and none that the counter has not reached. -/
structure Counted (store : Store) : Prop where
  given : ∀ counter, ∀ id ∈ store.numbers counter, id ≤ store.last counter
  once : ∀ counter, (store.numbers counter).Nodup

/-- The counters of the later store have gone on, and of the numbers that they had given out before
only those are in use that were so then. -/
def Outlives (store later : Store) : Prop :=
  ∀ counter, store.last counter ≤ later.last counter ∧
    ∀ id ∈ later.numbers counter, id ≤ store.last counter → id ∈ store.numbers counter

end Store

theorem Table.find?_number {α : Type} [Numbered α] {table : Table α} {row : α}
    (member : row ∈ table.rows) : table.find? (number row) = some row :=
  find?_eq_some_iff.2 ⟨member, rfl⟩

-- A table keeps each record in the place of its own number, whatever is written to it.
theorem Store.filed (store : Store) : store.Filed where
  applications _ member := Table.find?_number member
  tasks _ member := Table.find?_number member
  packs _ member := Table.find?_number member
  documents _ member := Table.find?_number member
  requests _ member := Table.find?_number member

theorem Table.nodup_numbers {α : Type} [Numbered α] (table : Table α) :
    (table.rows.map number).Nodup :=
  List.pairwise_map.2 (table.increasing.imp fun earlier => Nat.ne_of_lt earlier)

theorem Table.Extends.outlives {α : Type} [Numbered α] {table later : Table α}
    {count laterCount : Nat} (held : table.Extends count later laterCount) :
    count ≤ laterCount ∧
      ∀ id ∈ later.rows.map number, id ≤ count → id ∈ table.rows.map number := by
  refine ⟨held.counter, fun id member below => ?_⟩
  obtain ⟨row, row_mem, rfl⟩ := List.mem_map.1 member
  rcases held.fresh row row_mem with above | ⟨old, old_mem, same⟩
  · omega
  · exact List.mem_map.2 ⟨old, old_mem, same⟩

namespace Store

variable {store later last : Store}

theorem mem_entries_iff {entry : Nat} :
    entry ∈ store.numbers .entries ↔ ∃ id, entry ∈ store.entriesOf id := by
  rw [numbers, List.mem_flatMap]
  constructor
  · rintro ⟨application, member, listed⟩
    exact ⟨application.id, by rwa [entriesOf_stored member]⟩
  · rintro ⟨id, listed⟩
    unfold entriesOf at listed
    split at listed
    next application found =>
      exact ⟨application, (Table.find?_eq_some_iff.1 found).1, listed⟩
    next => cases listed

theorem EntriesFit.nodup (fit : store.EntriesFit) : (store.numbers .entries).Nodup := by
  refine List.nodup_flatMap.2 ⟨fun application member => ?_, ?_⟩
  · rw [← entriesOf_stored member]
    exact fit.once application.id
  · refine store.applications.increasing.imp_of_mem fun {first second} one two earlier => ?_
    intro entry (in_first : entry ∈ first.entries) (in_second : entry ∈ second.entries)
    rw [← entriesOf_stored one] at in_first
    rw [← entriesOf_stored two] at in_second
    exact Nat.ne_of_lt earlier (fit.apart first.id second.id entry in_first in_second)

theorem Sound.counted (sound : store.Sound) (fit : store.EntriesFit) : store.Counted := by
  constructor
  · intro counter id member
    cases counter with
    | entries =>
      obtain ⟨owner, listed⟩ := mem_entries_iff.1 member
      exact fit.given owner id listed
    | applications =>
      obtain ⟨row, row_mem, rfl⟩ := List.mem_map.1 member
      exact sound.applications row row_mem
    | tasks =>
      obtain ⟨row, row_mem, rfl⟩ := List.mem_map.1 member
      exact (sound.tasks row row_mem).1
    | packs =>
      obtain ⟨row, row_mem, rfl⟩ := List.mem_map.1 member
      exact (sound.packs row row_mem).1
    | documents =>
      obtain ⟨row, row_mem, rfl⟩ := List.mem_map.1 member
      exact (sound.documents row row_mem).1
    | requests =>
      obtain ⟨row, row_mem, rfl⟩ := List.mem_map.1 member
      exact (sound.requests row row_mem).1
  · intro counter
    cases counter with
    | entries => exact fit.nodup
    | applications => exact store.applications.nodup_numbers
    | tasks => exact store.tasks.rows.nodup_numbers
    | packs => exact store.packs.nodup_numbers
    | documents => exact store.documents.nodup_numbers
    | requests => exact store.requests.nodup_numbers

end Store

namespace System

variable {system : System} (steps : List Step)

-- What has been sent to the register belongs to a stored case: a case can only be cancelled while
-- nothing of it has been sent.
theorem requests_owned {request : ChiefRequest}
    (stored : request ∈ (initial.follow steps).store.requests.rows) :
    (initial.follow steps).store.applications.contains request.processId = true := by
  induction steps using List.reverseRecOn with
  | nil => cases stored
  | append_singleton steps step ih =>
    have sound := sound_follow steps
    rw [follow_append] at stored ⊢
    rw [← Store.fileOf_isSome_iff]
    rcases after_cases sound step with ⟨-, same⟩ | ⟨-, changes⟩
    · rw [same] at stored ⊢
      rw [Store.fileOf_isSome_iff]
      exact ih stored
    · have listed : request ∈ ((initial.follow steps).after step).store.requestsOf
          request.processId := List.mem_filter.2 ⟨stored, beq_self_eq_true _⟩
      rcases changes.requests request.processId with same | known
      · rw [same] at listed
        have owned := ih (List.mem_filter.1 listed).1
        rw [← Store.fileOf_isSome_iff] at owned
        obtain ⟨file, found⟩ := Option.isSome_iff_exists.1 owned
        rcases case_after sound step found with unmoved | ⟨new, -⟩ | ⟨_, moves⟩
        · rw [unmoved]
          rfl
        · have unsent := ((CaseFile.facts_fit steps found).new new).2.2
          rw [← (Store.fileOf_eq_some_iff.1 found).2.2.2.2] at unsent
          rw [unsent] at listed
          cases listed
        · rw [moves.becomes]
          rfl
      · exact known

theorem linked : (initial.follow steps).store.Linked where
  tasks task member := ((sound_follow steps).tasks task member).2
  follows task stored id named := by
    obtain ⟨file, found, member⟩ := (sound_follow steps).exists_case stored
    obtain ⟨below, earlier, earlier_mem, rfl⟩ :=
      (CaseFile.tasks_linked steps found).follows task member id named
    obtain ⟨earlier_stored, same⟩ := (Store.mem_tasks_iff found).1 earlier_mem
    exact ⟨below, earlier, Table.find?_number earlier_stored, same⟩
  packs pack member := ((sound_follow steps).packs pack member).2
  documents document member := by
    obtain ⟨pack, owns⟩ := document_owned steps member
    exact Table.contains_iff.2 ⟨pack, owns.stored, owns.named.symm⟩
  requests request member := requests_owned steps member

theorem outlives (later : List Step) :
    (initial.follow steps).store.Outlives (initial.follow (steps ++ later)).store := by
  have held := extends_follow steps later
  intro counter
  cases counter with
  | applications => exact held.applications.outlives
  | tasks => exact held.tasks.outlives
  | packs => exact held.packs.outlives
  | documents => exact held.documents.outlives
  | requests => exact held.requests.outlives
  | entries =>
    obtain ⟨counted, kept⟩ := entries_follow steps later
    refine ⟨counted, fun entry member below => ?_⟩
    obtain ⟨id, listed⟩ := Store.mem_entries_iff.1 member
    exact Store.mem_entries_iff.2 ⟨id, kept id entry listed below⟩

end System

/-- Every record of a run is found under its own number and belongs to a record that is stored, and
a task follows an earlier one of its case. No number goes beyond its counter, none is borne twice,
and one that is free again is not given to another record. -/
theorem store_intact (steps : List Step) :
    (System.initial.follow steps).store.Filed ∧ (System.initial.follow steps).store.Linked ∧
      (System.initial.follow steps).store.Counted ∧
      ∀ later, (System.initial.follow steps).store.Outlives
        (System.initial.follow (steps ++ later)).store :=
  ⟨Store.filed _, System.linked steps,
    (System.sound_follow steps).counted (System.entries_fit steps), System.outlives steps⟩

namespace Sample

theorem cancelled_numbers :
    (System.initial.follow (begun ++ cancelled)).store.last .applications = 1 ∧
      (System.initial.follow (begun ++ cancelled)).store.numbers .applications = [] ∧
      (System.initial.follow (begun ++ cancelled ++ begun)).store.last .applications = 2 := by
  decide +kernel

end Sample

theorem restarted_intact :
    (System.initial.follow (Sample.begun ++ Sample.cancelled ++ Sample.begun)).store.last
        .applications = 2 ∧
      1 ∉ (System.initial.follow (Sample.begun ++ Sample.cancelled ++ Sample.begun)).store.numbers
        .applications := by
  obtain ⟨-, -, -, outlives⟩ := store_intact (Sample.begun ++ Sample.cancelled)
  obtain ⟨last, unused, next⟩ := Sample.cancelled_numbers
  refine ⟨next, fun member => ?_⟩
  have listed := (outlives Sample.begun .applications).2 1 member (Nat.le_of_eq last.symm)
  rw [unused] at listed
  cases listed

end Casework
