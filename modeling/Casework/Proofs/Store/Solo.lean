import Casework.Proofs.CaseFile.Questions

set_option autoImplicit false

namespace Casework

open Calendar
open Numbered (number)

namespace Table

variable {α : Type} [Numbered α]

theorem eq_of_rows {first second : Table α} (same : first.rows = second.rows) : first = second := by
  cases first
  cases second
  cases same
  rfl

theorem place_first {row : α} {rows : List α}
    (later : ∀ found ∈ rows, number row < number found) : place row rows = row :: rows := by
  cases rows with
  | nil => rfl
  | cons head tail => rw [place, if_pos (later head List.mem_cons_self)]

theorem filter_place {row : α} {rows : List α} {wanted : α → Bool} (picked : wanted row = true)
    (increasing : rows.Pairwise fun earlier later => number earlier < number later) :
    (place row rows).filter wanted = place row (rows.filter wanted) := by
  induction rows with
  | nil => simp [place, picked]
  | cons head tail ih =>
    obtain ⟨later, others⟩ := List.pairwise_cons.1 increasing
    have first : number row ≤ number head → place row (tail.filter wanted) =
        row :: tail.filter wanted := fun before =>
      place_first fun found member =>
        Nat.lt_of_le_of_lt before (later found (List.mem_filter.1 member).1)
    rcases Nat.lt_trichotomy (number row) (number head) with before | same | passed
    · cases kept : wanted head with
      | true => simp [place, before, picked, kept]
      | false => simp [place, before, picked, kept, first (Nat.le_of_lt before)]
    · cases kept : wanted head with
      | true => simp [place, same, picked, kept]
      | false => simp [place, same, picked, kept, first (Nat.le_of_eq same)]
    · have unplaced : ¬ number row < number head := by omega
      have apart : ¬ number row = number head := by omega
      cases kept : wanted head with
      | true => simp [place, unplaced, apart, kept, ih others]
      | false => simp [place, unplaced, apart, kept, ih others]

theorem keep_insert (table : Table α) {row : α} {wanted : α → Bool} (picked : wanted row = true) :
    (table.insert row).keep wanted = (table.keep wanted).insert row :=
  eq_of_rows (filter_place picked table.increasing)

theorem keep_modify (table : Table α) (id : Nat) {change : α → α} {wanted : α → Bool}
    (same : ∀ row, number (change row) = number row)
    (kept : ∀ row, wanted (change row) = wanted row) :
    (table.modify id change).keep wanted = (table.keep wanted).modify id change := by
  refine eq_of_rows ?_
  rw [rows_modify _ id same]
  refine (congrArg (List.filter wanted) (rows_modify table id same)).trans ?_
  exact filter_changeAt kept

theorem keep_comm (table : Table α) (first second : α → Bool) :
    (table.keep first).keep second = (table.keep second).keep first := by
  refine eq_of_rows ?_
  simp only [keep, List.filter_filter, Bool.and_comm]

theorem keep_mapRows (table : Table α) {change : α → α} {wanted : α → Bool}
    (same : ∀ row, number (change row) = number row)
    (kept : ∀ row, wanted (change row) = wanted row) :
    (table.mapRows change same).keep wanted = (table.keep wanted).mapRows change same := by
  refine eq_of_rows ?_
  simp only [keep, mapRows, List.filter_map]
  exact congrArg _ (List.filter_congr fun row _ => kept row)

theorem rows_keep_number (table : Table α) (id : Nat) :
    (table.keep (number · == id)).rows = (table.find? id).toList := by
  obtain ⟨rows, increasing⟩ := table
  simp only [keep, find?]
  induction rows with
  | nil => rfl
  | cons head tail ih =>
    obtain ⟨later, others⟩ := List.pairwise_cons.1 increasing
    by_cases same : number head = id
    · have rest : tail.filter (number · == id) = [] := by
        refine List.filter_eq_nil_iff.2 fun found member equal => ?_
        exact Nat.ne_of_gt (later found member) ((beq_iff_eq.1 equal).trans same.symm)
      simp [same, rest]
    · simpa [same] using ih others

end Table

namespace TaskTable

variable (tasks : TaskTable) (id : Nat)

def solo (tasks : TaskTable) (id : Nat) : TaskTable :=
  { tasks with rows := tasks.rows.keep (·.processId == id) }

@[simp] theorem solo_ofProcess : (tasks.solo id).ofProcess id = tasks.ofProcess id := by
  simp [ofProcess, solo, Table.keep]

theorem solo_create (taskType : TaskType) (previous : Option Nat) (now : Instant) :
    (tasks.create id taskType previous now).solo id =
      (tasks.solo id).create id taskType previous now := by
  have kept : (tasks.rows.insert (tasks.newTask id taskType previous now)).keep
      (·.processId == id) = _ := Table.keep_insert tasks.rows (beq_self_eq_true id)
  simp only [solo, create, kept]
  rfl

theorem solo_finish (task : Nat) (owner : Option Nat) (now : Instant) :
    (tasks.finish task owner now).solo id = (tasks.solo id).finish task owner now := by
  have kept : (tasks.rows.modify task (·.ended owner now)).keep (·.processId == id) = _ :=
    Table.keep_modify tasks.rows task (fun _ => rfl) fun _ => rfl
  simp only [solo, finish, kept]

theorem solo_finishAll (now : Instant) :
    (tasks.finishAll id now).solo id = (tasks.solo id).finishAll id now := by
  simp only [solo, finishAll]
  rw [Table.keep_mapRows]
  intro task
  split <;> rfl

theorem solo_removeProcess :
    (tasks.removeProcess id).solo id = (tasks.solo id).removeProcess id := by
  simp only [solo, removeProcess, Table.keep_comm]

end TaskTable

namespace Store

-- The records of one case alone, with the counters of all. The documents are those of the packs
-- with numbers that are its own.
def solo (store : Store) (id : Nat) (own : Nat → Bool) : Store :=
  { store with
    applications := store.applications.keep (number · == id)
    tasks := store.tasks.solo id
    packs := store.packs.keep (·.processId == id)
    documents := store.documents.keep (own ·.packId)
    requests := store.requests.keep (·.processId == id) }

structure Covers (store : Store) (id : Nat) (own : Nat → Bool) : Prop where
  packs : ∀ pack ∈ store.packs.rows, pack.processId = id → own pack.id = true
  next : ∀ packId, store.lastPack < packId → own packId = true

section Questions

variable (store : Store) (id : Nat) (own : Nat → Bool)

@[simp] theorem solo_packsOf : (store.solo id own).packsOf id = store.packsOf id := by
  simp [packsOf, solo, Table.keep]

@[simp] theorem solo_requestsOf : (store.solo id own).requestsOf id = store.requestsOf id := by
  simp [requestsOf, solo, Table.keep]

@[simp] theorem solo_ofProcess :
    (store.solo id own).tasks.ofProcess id = store.tasks.ofProcess id := by
  exact store.tasks.solo_ofProcess id

@[simp] theorem solo_find? :
    (store.solo id own).applications.find? id = store.applications.find? id := by
  rw [solo, Table.find?_keep]
  cases found : store.applications.find? id with
  | none => rfl
  | some application => simp [Option.filter, (Table.find?_eq_some_iff.1 found).2]

@[simp] theorem solo_singlePack (status : PackStatus) :
    (store.solo id own).singlePack id status = store.singlePack id status := by
  simp only [singlePack, solo_packsOf]

@[simp] theorem solo_documentsOf {packId : Nat} (mine : own packId = true) :
    (store.solo id own).documentsOf packId = store.documentsOf packId := by
  simp only [documentsOf, solo, Table.keep, List.filter_filter]
  refine List.filter_congr fun document _ => ?_
  cases same : document.packId == packId with
  | false => rfl
  | true => simp [beq_iff_eq.1 same, mine]

theorem solo_removeApplication :
    (store.removeApplication id).solo id own = (store.solo id own).removeApplication id := by
  simp only [removeApplication, solo_packsOf]
  simp only [solo, TaskTable.solo_removeProcess, Table.erase, Table.keep_comm]

end Questions

structure Numbering where
  sequences : Sequences
  lastProcess : Nat
  lastTask : Nat
  lastPack : Nat
  lastDocument : Nat
  lastRequest : Nat
  lastRecord : Nat

def numbering (store : Store) : Numbering :=
  { sequences := store.sequences, lastProcess := store.lastProcess, lastTask := store.tasks.lastId
    lastPack := store.lastPack, lastDocument := store.lastDocument
    lastRequest := store.lastRequest, lastRecord := store.lastRecord }

end Store

-- The numbers of packs that belong to a case, or can come to belong to it.
def CaseFile.ownPack (file : CaseFile) (lastPack packId : Nat) : Bool :=
  lastPack < packId || file.packs.any (·.id == packId)

namespace Store

variable {store : Store} {id : Nat} {own : Nat → Bool} {file : CaseFile}

theorem covers_of_fileOf (found : store.fileOf id = some file) :
    store.Covers id (file.ownPack store.lastPack) := by
  refine ⟨fun pack stored owned => ?_, fun packId newer => ?_⟩
  · have listed : file.packs.any (·.id == pack.id) = true :=
      List.any_eq_true.2 ⟨pack, (mem_packs_iff found).2 ⟨stored, owned⟩, beq_self_eq_true _⟩
    rw [CaseFile.ownPack, listed, Bool.or_true]
  · rw [CaseFile.ownPack, decide_eq_true newer, Bool.true_or]

theorem Covers.fileOf_solo (covers : store.Covers id own) :
    (store.solo id own).fileOf id = store.fileOf id := by
  refine fileOf_congr (solo_find? ..) (solo_ofProcess ..) (solo_packsOf ..) ?_ (solo_requestsOf ..)
  simp only [solo, Table.keep, List.filter_filter]
  refine List.filter_congr fun document _ => ?_
  cases mine : (store.packsOf id).any (·.id == document.packId) with
  | false => rfl
  | true =>
    obtain ⟨pack, listed, same⟩ := List.any_eq_true.1 mine
    obtain ⟨stored, owned⟩ := List.mem_filter.1 listed
    rw [← beq_iff_eq.1 same, covers.packs pack stored (beq_iff_eq.1 owned)]
    rfl

theorem solo_documents (sound : store.Sound) (found : store.fileOf id = some file) :
    (store.solo id (file.ownPack store.lastPack)).documents.rows = file.documents := by
  rw [← (fileOf_eq_some_iff.1 found).2.2.2.1]
  refine List.filter_congr fun document stored => ?_
  have known : ¬ store.lastPack < document.packId :=
    Nat.not_lt.2 (sound.documents document stored).2
  rw [CaseFile.ownPack, decide_eq_false known, Bool.false_or]

theorem solo_eq {other : Store} (sound : store.Sound) (other_sound : other.Sound)
    (found : store.fileOf id = some file) (other_found : other.fileOf id = some file)
    (numbered : store.numbering = other.numbering) :
    store.solo id (file.ownPack store.lastPack) = other.solo id (file.ownPack other.lastPack) := by
  obtain ⟨application, tasks, packs, -, requests⟩ := fileOf_eq_some_iff.1 found
  obtain ⟨other_application, other_tasks, other_packs, -, other_requests⟩ :=
    fileOf_eq_some_iff.1 other_found
  have documents := Table.eq_of_rows
    ((solo_documents sound found).trans (solo_documents other_sound other_found).symm)
  have applications : store.applications.keep (number · == id) =
      other.applications.keep (number · == id) := by
    refine Table.eq_of_rows ?_
    rw [Table.rows_keep_number, Table.rows_keep_number, application, other_application]
  simp only [numbering, Numbering.mk.injEq] at numbered
  obtain ⟨sequences, lastProcess, lastTask, lastPack, lastDocument, lastRequest, lastRecord⟩ :=
    numbered
  simp only [solo, TaskTable.solo, mk.injEq, TaskTable.mk.injEq]
  exact ⟨applications, ⟨Table.eq_of_rows (tasks.trans other_tasks.symm), lastTask⟩,
    Table.eq_of_rows (packs.trans other_packs.symm), documents,
    Table.eq_of_rows (requests.trans other_requests.symm), sequences, lastProcess, lastPack,
    lastDocument, lastRequest, lastRecord⟩

end Store

end Casework
