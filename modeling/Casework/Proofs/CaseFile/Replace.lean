import Casework.Proofs.CaseFile.Stored
import Casework.Proofs.Store.Numbers

set_option autoImplicit false

namespace Casework

open Calendar
open Table (changeAt)
open Numbered (number)

namespace TaskTable

variable {tasks : TaskTable}

theorem ofProcess_create (below : ∀ task ∈ tasks.rows.rows, task.id ≤ tasks.lastId)
    (id other : Nat) (taskType : TaskType) (previous : Option Nat) (now : Instant) :
    (tasks.create id taskType previous now).ofProcess other =
      if id = other then
        tasks.ofProcess other ++ [Task.opened (tasks.lastId + 1) id taskType previous now]
      else tasks.ofProcess other := by
  have newest : ∀ task ∈ tasks.rows.rows,
      number task < number (tasks.newTask id taskType previous now) := fun task member =>
    Nat.lt_succ_of_le (below task member)
  rw [create, ofProcess, Table.rows_insert_newest newest, List.filter_append, ofProcess]
  by_cases same : id = other <;> simp [newTask, Task.opened, same]

theorem rows_finish (tasks : TaskTable) (id : Nat) (owner : Option Nat) (now : Instant) :
    (tasks.finish id owner now).rows.rows = changeAt id (·.ended owner now) tasks.rows.rows :=
  Table.rows_modify tasks.rows id fun _ => rfl

theorem ofProcess_finish (tasks : TaskTable) (id : Nat) (owner : Option Nat) (now : Instant)
    (other : Nat) :
    (tasks.finish id owner now).ofProcess other =
      changeAt id (·.ended owner now) (tasks.ofProcess other) := by
  rw [ofProcess, rows_finish]
  exact Table.filter_changeAt fun task => rfl

theorem ofProcess_finishAll (tasks : TaskTable) (id : Nat) (now : Instant) (other : Nat) :
    (tasks.finishAll id now).ofProcess other =
      if id = other then
        (tasks.ofProcess other).map fun task => if task.isActive then task.ended none now else task
      else tasks.ofProcess other := by
  simp only [finishAll, ofProcess, Table.mapRows, List.filter_map]
  have wanted : ((fun task : Task => task.processId == other) ∘ fun task =>
      if (task.processId == id && task.isActive) = true then task.ended none now else task) =
        fun task => task.processId == other := by
    funext task
    simp only [Function.comp]
    split <;> rfl
  rw [wanted]
  split
  -- Among the tasks of one case all active ones end, elsewhere none does.
  next same =>
    refine List.map_congr_left fun task member => ?_
    have owned := (List.mem_filter.1 member).2
    simp only [same, owned, Bool.true_and]
  next apart =>
    have unchanged : ∀ task ∈ tasks.rows.rows.filter (·.processId == other),
        (if (task.processId == id && task.isActive) = true then task.ended none now else task) =
          task := by
      intro task member
      have owned := beq_iff_eq.1 (List.mem_filter.1 member).2
      have foreign : (task.processId == id) = false := by simpa [owned] using Ne.symm apart
      simp [foreign]
    exact (List.map_congr_left unchanged).trans (List.map_id' _)

end TaskTable

theorem Table.contains_insert {α : Type} [Numbered α] {table : Table α} {row : α} {id : Nat}
    (stored : table.contains id = true) : (table.insert row).contains id = true := by
  rw [contains, find?_insert]
  split
  · rfl
  · exact stored

structure Replaces (start : Store) (id : Nat) (file : CaseFile) (store : Store) : Prop where
  sound : store.Sound
  found : store.fileOf id = some file
  others : ∀ other, other ≠ id → store.fileOf other = start.fileOf other
  numbers : start.Extends store
  -- Requests are kept also for numbers that no application has.
  requests : ∀ other, other ≠ id → store.requestsOf other = start.requestsOf other

namespace Replaces

variable {start store : Store} {id : Nat} {file : CaseFile}

theorem refl (sound : store.Sound) (found : store.fileOf id = some file) :
    Replaces store id file store :=
  ⟨sound, found, fun _ _ => rfl, .refl store, fun _ _ => rfl⟩

theorem stored (held : Replaces start id file store) : store.applications.contains id = true := by
  rw [← Store.fileOf_isSome_iff, held.found]
  rfl

theorem requests_or (held : Replaces start id file store) (other : Nat) :
    store.requestsOf other = start.requestsOf other ∨ (store.fileOf other).isSome = true := by
  by_cases mine : other = id
  · rw [mine, held.found]
    exact .inr rfl
  · exact .inl (held.requests other mine)

theorem put (held : Replaces start id file store) {application : Application}
    (same : application.id = id) :
    Replaces start id (file.put application)
      { store with applications := store.applications.insert application } := by
  have sound := held.sound
  have known : store.applications.contains (number application) = true := by
    rw [show number application = id from same, held.stored]
  refine ⟨⟨?_, ?_, ?_, sound.documents, sound.requests⟩, ?_, ?_,
    { held.numbers with applications := held.numbers.applications.replace known }, held.requests⟩
  · intro found member
    rcases Table.mem_rows_insert member with rfl | member
    · have bound := Store.id_le_of_fileOf sound held.found
      rwa [← same] at bound
    · exact sound.applications found member
  · exact fun task member =>
      ⟨(sound.tasks task member).1, Table.contains_insert (sound.tasks task member).2⟩
  · exact fun pack member =>
      ⟨(sound.packs pack member).1, Table.contains_insert (sound.packs pack member).2⟩
  · obtain ⟨-, records⟩ := Store.fileOf_eq_some_iff.1 held.found
    refine Store.fileOf_eq_some_iff.2 ⟨?_, records⟩
    rw [Table.find?_insert]
    exact if_pos same
  · intro other apart
    have kept : (store.applications.insert application).find? other =
        store.applications.find? other := by
      rw [Table.find?_insert]
      exact if_neg fun equal => apart (equal.symm.trans same)
    rw [← held.others other apart]
    exact Store.fileOf_congr kept rfl rfl rfl rfl

theorem newTask (held : Replaces start id file store) :
    ∀ task ∈ file.tasks, task.id < store.tasks.lastId + 1 := fun task member =>
  Nat.lt_succ_of_le
    (held.sound.tasks task ((Store.mem_tasks_iff held.found).1 member).1).1

theorem addTask (held : Replaces start id file store) (taskType : TaskType) (previous : Option Nat)
    (now : Instant) :
    Replaces start id
      (file.addTask (Task.opened (store.tasks.lastId + 1) id taskType previous now))
      { store with tasks := store.tasks.create id taskType previous now } := by
  have sound := held.sound
  have below : ∀ task ∈ store.tasks.rows.rows, task.id ≤ store.tasks.lastId := fun task member =>
    (sound.tasks task member).1
  obtain ⟨application, tasks, packs, documents, requests⟩ :=
    Store.fileOf_eq_some_iff.1 held.found
  refine ⟨⟨sound.applications, ?_, sound.packs, sound.documents, sound.requests⟩, ?_, ?_,
    { held.numbers with tasks := held.numbers.tasks.insert rfl }, held.requests⟩
  · intro task member
    rcases Table.mem_rows_insert member with rfl | member
    · exact ⟨Nat.le_refl _, held.stored⟩
    · exact ⟨Nat.le_succ_of_le (sound.tasks task member).1, (sound.tasks task member).2⟩
  · refine Store.fileOf_eq_some_iff.2 ⟨application, ?_, packs, documents, requests⟩
    rw [TaskTable.ofProcess_create below, if_pos rfl, tasks]
    rfl
  · intro other apart
    have kept : (store.tasks.create id taskType previous now).ofProcess other =
        store.tasks.ofProcess other := by
      rw [TaskTable.ofProcess_create below, if_neg (Ne.symm apart)]
    rw [← held.others other apart]
    exact Store.fileOf_congr rfl kept rfl rfl rfl

theorem finish (held : Replaces start id file store) {task : Task} (member : task ∈ file.tasks)
    (owner : Option Nat) (now : Instant) :
    Replaces start id (file.finish task.id owner now)
      { store with tasks := store.tasks.finish task.id owner now } := by
  have sound := held.sound
  obtain ⟨application, tasks, packs, documents, requests⟩ :=
    Store.fileOf_eq_some_iff.1 held.found
  obtain ⟨stored, owned⟩ := (Store.mem_tasks_iff held.found).1 member
  refine ⟨⟨sound.applications, ?_, sound.packs, sound.documents, sound.requests⟩, ?_, ?_,
    { held.numbers with tasks := held.numbers.tasks.modify _ fun _ => rfl }, held.requests⟩
  · intro found found_mem
    rw [TaskTable.rows_finish, Table.mem_changeAt] at found_mem
    obtain ⟨row, row_mem, rfl⟩ := found_mem
    split
    · exact sound.tasks row row_mem
    · exact sound.tasks row row_mem
  · refine Store.fileOf_eq_some_iff.2 ⟨application, ?_, packs, documents, requests⟩
    rw [TaskTable.ofProcess_finish, tasks]
    rfl
  · intro other apart
    have foreign : ∀ row ∈ store.tasks.ofProcess other, number row ≠ task.id := by
      intro row row_mem same
      obtain ⟨row_mem, row_owned⟩ := List.mem_filter.1 row_mem
      rw [Table.eq_of_number_eq row_mem stored same, owned] at row_owned
      exact apart (beq_iff_eq.1 row_owned).symm
    have kept : (store.tasks.finish task.id owner now).ofProcess other =
        store.tasks.ofProcess other := by
      rw [TaskTable.ofProcess_finish, Table.changeAt_of_apart foreign]
    rw [← held.others other apart]
    exact Store.fileOf_congr rfl kept rfl rfl rfl

theorem finishAll (held : Replaces start id file store) (now : Instant) :
    Replaces start id (file.finishAll now)
      { store with tasks := store.tasks.finishAll id now } := by
  have sound := held.sound
  obtain ⟨application, tasks, packs, documents, requests⟩ :=
    Store.fileOf_eq_some_iff.1 held.found
  refine ⟨⟨sound.applications, ?_, sound.packs, sound.documents, sound.requests⟩, ?_, ?_,
    { held.numbers with tasks := held.numbers.tasks.mapRows _ fun task => by split <;> rfl },
    held.requests⟩
  · intro found member
    obtain ⟨row, row_mem, rfl⟩ := List.mem_map.1 member
    split
    · exact sound.tasks row row_mem
    · exact sound.tasks row row_mem
  · refine Store.fileOf_eq_some_iff.2 ⟨application, ?_, packs, documents, requests⟩
    rw [TaskTable.ofProcess_finishAll, if_pos rfl, tasks]
    rfl
  · intro other apart
    have kept : (store.tasks.finishAll id now).ofProcess other = store.tasks.ofProcess other := by
      rw [TaskTable.ofProcess_finishAll, if_neg (Ne.symm apart)]
    rw [← held.others other apart]
    exact Store.fileOf_congr rfl kept rfl rfl rfl

theorem newPack (held : Replaces start id file store) :
    ∀ pack ∈ file.packs, pack.id < store.lastPack + 1 := fun pack member =>
  Nat.lt_succ_of_le (held.sound.packs pack ((Store.mem_packs_iff held.found).1 member).1).1

theorem addPack (held : Replaces start id file store) {pack : Pack}
    (newest : pack.id = store.lastPack + 1) (owned : pack.processId = id) :
    Replaces start id (file.addPack pack)
      { store with lastPack := store.lastPack + 1, packs := store.packs.insert pack } := by
  have sound := held.sound
  obtain ⟨application, tasks, packs, documents, requests⟩ :=
    Store.fileOf_eq_some_iff.1 held.found
  have last : ∀ found ∈ store.packs.rows, number found < number pack := by
    intro found member
    have bound := (sound.packs found member).1
    change found.id < pack.id
    omega
  have rows := Table.rows_insert_newest last
  refine ⟨⟨sound.applications, sound.tasks, ?_, ?_, sound.requests⟩, ?_, ?_,
    { held.numbers with packs := held.numbers.packs.insert newest }, held.requests⟩
  · intro found member
    rcases Table.mem_rows_insert member with rfl | member
    · exact ⟨Nat.le_of_eq newest, owned ▸ held.stored⟩
    · exact ⟨Nat.le_succ_of_le (sound.packs found member).1, (sound.packs found member).2⟩
  · exact fun document member =>
      ⟨(sound.documents document member).1, Nat.le_succ_of_le (sound.documents document member).2⟩
  · refine Store.fileOf_eq_some_iff.2 ⟨application, tasks, ?_, ?_, requests⟩
    · simp only [Store.packsOf, rows, List.filter_append]
      rw [← Store.packsOf, packs]
      simp [CaseFile.addPack, owned]
    · -- No document can belong to a pack whose number was not taken before.
      refine (List.filter_congr fun document member => ?_).trans documents
      have bound := (sound.documents document member).2
      have apart : ¬ pack.id = document.packId := by omega
      simp [CaseFile.addPack, apart]
  · intro other apart
    have foreign : (pack.processId == other) = false := by simpa [owned] using Ne.symm apart
    have kept : (store.packs.insert pack).rows.filter (·.processId == other) =
        store.packsOf other := by
      rw [rows, List.filter_append]
      simp [Store.packsOf, foreign]
    rw [← held.others other apart]
    exact Store.fileOf_congr rfl rfl kept rfl rfl

theorem pack_apart (held : Replaces start id file store) {pack : Pack} (member : pack ∈ file.packs)
    {other : Nat} (apart : other ≠ id) : ∀ found ∈ store.packsOf other, found.id ≠ pack.id := by
  intro found found_mem same
  obtain ⟨stored, owned⟩ := (Store.mem_packs_iff held.found).1 member
  obtain ⟨found_mem, found_owned⟩ := List.mem_filter.1 found_mem
  rw [Table.eq_of_number_eq found_mem stored same, owned] at found_owned
  exact apart (beq_iff_eq.1 found_owned).symm

theorem changePack (held : Replaces start id file store) {pack : Pack}
    (member : pack ∈ file.packs) {change : Pack → Pack} (same : ∀ pack, (change pack).id = pack.id)
    (owner : ∀ pack, (change pack).processId = pack.processId) :
    Replaces start id (file.changePack pack.id change)
      { store with packs := store.packs.modify pack.id change } := by
  have sound := held.sound
  obtain ⟨application, tasks, packs, documents, requests⟩ :=
    Store.fileOf_eq_some_iff.1 held.found
  have rows : (store.packs.modify pack.id change).rows = _ :=
    Table.rows_modify store.packs pack.id same
  have packsOf : ∀ other, (store.packs.modify pack.id change).rows.filter (·.processId == other) =
      changeAt pack.id change (store.packsOf other) := by
    intro other
    rw [rows, Store.packsOf]
    exact Table.filter_changeAt fun found => by rw [owner]
  refine ⟨⟨sound.applications, sound.tasks, ?_, sound.documents, sound.requests⟩, ?_, ?_,
    { held.numbers with packs := held.numbers.packs.modify _ same }, held.requests⟩
  · intro found found_mem
    have changed : found ∈ (store.packs.modify pack.id change).rows := found_mem
    rw [rows, Table.mem_changeAt] at changed
    obtain ⟨row, row_mem, rfl⟩ := changed
    split
    · rw [same, owner]
      exact sound.packs row row_mem
    · exact sound.packs row row_mem
  · refine Store.fileOf_eq_some_iff.2 ⟨application, tasks, ?_, ?_, requests⟩
    · exact (packsOf id).trans (congrArg _ packs)
    · refine (List.filter_congr fun document _ => ?_).trans documents
      simp only [CaseFile.changePack, changeAt, List.any_map]
      refine List.any_congr rfl fun found => ?_
      simp only [Function.comp]
      split
      · rw [same]
      · rfl
  · intro other apart
    have kept := (packsOf other).trans (Table.changeAt_of_apart (held.pack_apart member apart))
    rw [← held.others other apart]
    exact Store.fileOf_congr rfl rfl kept rfl rfl

theorem dropDocuments (held : Replaces start id file store) {pack : Pack}
    (member : pack ∈ file.packs) :
    Replaces start id (file.redocument pack.id [])
      { store with documents := store.documents.keep (·.packId != pack.id) } := by
  have sound := held.sound
  obtain ⟨application, tasks, packs, documents, requests⟩ :=
    Store.fileOf_eq_some_iff.1 held.found
  refine ⟨⟨sound.applications, sound.tasks, sound.packs, ?_, sound.requests⟩, ?_, ?_,
    { held.numbers with documents := held.numbers.documents.keep _ }, held.requests⟩
  · exact fun document kept => sound.documents document (List.mem_filter.1 kept).1
  · refine Store.fileOf_eq_some_iff.2 ⟨application, tasks, packs, ?_, requests⟩
    simp only [Table.keep, CaseFile.redocument, List.append_nil, ← documents, List.filter_filter]
    exact List.filter_congr fun document _ => Bool.and_comm _ _
  · intro other apart
    have kept : (store.documents.rows.filter (·.packId != pack.id)).filter
          (fun document => (store.packsOf other).any (·.id == document.packId)) =
        store.documents.rows.filter
          fun document => (store.packsOf other).any (·.id == document.packId) := by
      rw [List.filter_filter]
      refine List.filter_congr fun document _ => ?_
      cases picked : (store.packsOf other).any (·.id == document.packId) with
      | false => rfl
      | true =>
        obtain ⟨found, found_mem, same⟩ := List.any_eq_true.1 picked
        have foreign := held.pack_apart member apart found found_mem
        simpa [← beq_iff_eq.1 same] using foreign
    rw [← held.others other apart]
    exact Store.fileOf_congr rfl rfl rfl kept rfl

theorem addDocument (held : Replaces start id file store) {pack : Pack}
    (member : pack ∈ file.packs) {document : Document}
    (newest : document.id = store.lastDocument + 1) (owned : document.packId = pack.id) :
    Replaces start id { file with documents := file.documents ++ [document] }
      { store with
        lastDocument := store.lastDocument + 1, documents := store.documents.insert document } := by
  have sound := held.sound
  obtain ⟨application, tasks, packs, documents, requests⟩ :=
    Store.fileOf_eq_some_iff.1 held.found
  have last : ∀ found ∈ store.documents.rows, number found < number document := by
    intro found found_mem
    have bound := (sound.documents found found_mem).1
    change found.id < document.id
    omega
  have rows := Table.rows_insert_newest last
  refine ⟨⟨sound.applications, sound.tasks, sound.packs, ?_, sound.requests⟩, ?_, ?_,
    { held.numbers with documents := held.numbers.documents.insert newest }, held.requests⟩
  · intro found found_mem
    rcases Table.mem_rows_insert found_mem with rfl | found_mem
    · have bound := (sound.packs pack ((Store.mem_packs_iff held.found).1 member).1).1
      exact ⟨Nat.le_of_eq newest, owned ▸ bound⟩
    · exact ⟨Nat.le_succ_of_le (sound.documents found found_mem).1,
        (sound.documents found found_mem).2⟩
  · refine Store.fileOf_eq_some_iff.2 ⟨application, tasks, packs, ?_, requests⟩
    have picked : file.packs.any (·.id == document.packId) = true :=
      List.any_eq_true.2 ⟨pack, member, beq_iff_eq.2 owned.symm⟩
    simp only [rows, List.filter_append, documents]
    simp [picked]
  · intro other apart
    have foreign : (store.packsOf other).any (·.id == document.packId) = false := by
      rw [List.any_eq_false]
      intro found found_mem same
      exact held.pack_apart member apart found found_mem ((beq_iff_eq.1 same).trans owned)
    have kept : (store.documents.insert document).rows.filter
          (fun document => (store.packsOf other).any (·.id == document.packId)) =
        store.documents.rows.filter
          fun document => (store.packsOf other).any (·.id == document.packId) := by
      rw [rows, List.filter_append]
      simp [foreign]
    rw [← held.others other apart]
    exact Store.fileOf_congr rfl rfl rfl kept rfl

theorem newRequest (held : Replaces start id file store) :
    ∀ request ∈ file.requests, request.id < store.lastRequest + 1 := fun request member =>
  Nat.lt_succ_of_le
    (held.sound.requests request ((Store.mem_requests_iff held.found).1 member).1).1

theorem addRequest (held : Replaces start id file store) {request : ChiefRequest}
    (newest : request.id = store.lastRequest + 1) (owned : request.processId = id) :
    Replaces start id (file.addRequest request)
      { store with
        lastRequest := store.lastRequest + 1, requests := store.requests.insert request } := by
  have sound := held.sound
  obtain ⟨application, tasks, packs, documents, requests⟩ :=
    Store.fileOf_eq_some_iff.1 held.found
  have bound := Store.id_le_of_fileOf sound held.found
  have last : ∀ found ∈ store.requests.rows, number found < number request := by
    intro found member
    have bound := (sound.requests found member).1
    change found.id < request.id
    omega
  have rows := Table.rows_insert_newest last
  have kept : ∀ other, other ≠ id →
      (store.requests.insert request).rows.filter (·.processId == other) =
        store.requestsOf other := by
    intro other apart
    have foreign : (request.processId == other) = false := by simpa [owned] using Ne.symm apart
    rw [rows, List.filter_append]
    simp [Store.requestsOf, foreign]
  refine ⟨⟨sound.applications, sound.tasks, sound.packs, sound.documents, ?_⟩, ?_, ?_,
    { held.numbers with requests := held.numbers.requests.insert newest },
    fun other apart => (kept other apart).trans (held.requests other apart)⟩
  · intro found member
    rcases Table.mem_rows_insert member with rfl | member
    · exact ⟨Nat.le_of_eq newest, owned ▸ bound⟩
    · exact ⟨Nat.le_succ_of_le (sound.requests found member).1, (sound.requests found member).2⟩
  · refine Store.fileOf_eq_some_iff.2 ⟨application, tasks, packs, documents, ?_⟩
    simp only [Store.requestsOf, rows, List.filter_append]
    rw [← Store.requestsOf, requests]
    simp [CaseFile.addRequest, owned]
  · intro other apart
    rw [← held.others other apart]
    exact Store.fileOf_congr rfl rfl rfl rfl (kept other apart)

theorem changeRequest (held : Replaces start id file store) {request : ChiefRequest}
    (member : request ∈ file.requests) {change : ChiefRequest → ChiefRequest}
    (same : ∀ request, (change request).id = request.id)
    (owner : ∀ request, (change request).processId = request.processId) :
    Replaces start id { file with requests := changeAt request.id change file.requests }
      { store with requests := store.requests.modify request.id change } := by
  have sound := held.sound
  obtain ⟨application, tasks, packs, documents, requests⟩ :=
    Store.fileOf_eq_some_iff.1 held.found
  obtain ⟨stored, owned⟩ := (Store.mem_requests_iff held.found).1 member
  have rows : (store.requests.modify request.id change).rows = _ :=
    Table.rows_modify store.requests request.id same
  have requestsOf : ∀ other,
      (store.requests.modify request.id change).rows.filter (·.processId == other) =
        changeAt request.id change (store.requestsOf other) := by
    intro other
    rw [rows, Store.requestsOf]
    exact Table.filter_changeAt fun found => by rw [owner]
  have kept : ∀ other, other ≠ id →
      (store.requests.modify request.id change).rows.filter (·.processId == other) =
        store.requestsOf other := by
    intro other apart
    refine (requestsOf other).trans (Table.changeAt_of_apart fun row row_mem equal => ?_)
    obtain ⟨row_mem, row_owned⟩ := List.mem_filter.1 row_mem
    rw [Table.eq_of_number_eq row_mem stored equal, owned] at row_owned
    exact apart (beq_iff_eq.1 row_owned).symm
  refine ⟨⟨sound.applications, sound.tasks, sound.packs, sound.documents, ?_⟩, ?_, ?_,
    { held.numbers with requests := held.numbers.requests.modify _ same },
    fun other apart => (kept other apart).trans (held.requests other apart)⟩
  · intro found found_mem
    have changed : found ∈ (store.requests.modify request.id change).rows := found_mem
    rw [rows, Table.mem_changeAt] at changed
    obtain ⟨row, row_mem, rfl⟩ := changed
    split
    · rw [same, owner]
      exact sound.requests row row_mem
    · exact sound.requests row row_mem
  · refine Store.fileOf_eq_some_iff.2 ⟨application, tasks, packs, documents, ?_⟩
    exact (requestsOf id).trans (congrArg _ requests)
  · intro other apart
    rw [← held.others other apart]
    exact Store.fileOf_congr rfl rfl rfl rfl (kept other apart)

theorem draw (held : Replaces start id file store) (sequences : Sequences) (lastRecord : Nat) :
    Replaces start id file { store with sequences, lastRecord } :=
  have sound := held.sound
  ⟨⟨sound.applications, sound.tasks, sound.packs, sound.documents, sound.requests⟩, held.found,
    held.others, { held.numbers with }, held.requests⟩

end Replaces

namespace Store

variable {store : Store}

theorem Sound.stored_le (sound : store.Sound) {id : Nat}
    (stored : store.applications.contains id = true) : id ≤ store.lastProcess := by
  obtain ⟨application, member, rfl⟩ := Table.contains_iff.1 stored
  exact sound.applications application member

theorem open_file (sound : store.Sound) (application : Application)
    (newest : application.id = store.lastProcess + 1) :
    Replaces store application.id ⟨application, [], [], [], []⟩
      { store with
        lastProcess := store.lastProcess + 1
        applications := store.applications.insert application } := by
  refine ⟨⟨?_, ?_, ?_, sound.documents, ?_⟩, ?_, ?_,
    { Extends.refl store with applications := (Table.Extends.refl _ _).insert newest },
    fun _ _ => rfl⟩
  · intro found member
    rcases Table.mem_rows_insert member with rfl | member
    · exact Nat.le_of_eq newest
    · exact Nat.le_succ_of_le (sound.applications found member)
  · exact fun task member =>
      ⟨(sound.tasks task member).1, Table.contains_insert (sound.tasks task member).2⟩
  · exact fun pack member =>
      ⟨(sound.packs pack member).1, Table.contains_insert (sound.packs pack member).2⟩
  · exact fun request member =>
      ⟨(sound.requests request member).1, Nat.le_succ_of_le (sound.requests request member).2⟩
  · have packs : store.packsOf application.id = [] := by
      refine List.filter_eq_nil_iff.2 fun pack member same => ?_
      have bound := sound.stored_le (sound.packs pack member).2
      have equal := beq_iff_eq.1 same
      omega
    refine fileOf_eq_some_iff.2 ⟨?_, ?_, packs, List.filter_eq_nil_iff.2 (by simp), ?_⟩
    · rw [Table.find?_insert]
      exact if_pos rfl
    · refine List.filter_eq_nil_iff.2 fun task member same => ?_
      have bound := sound.stored_le (sound.tasks task member).2
      have equal := beq_iff_eq.1 same
      omega
    · refine List.filter_eq_nil_iff.2 fun request member same => ?_
      have bound := (sound.requests request member).2
      have equal := beq_iff_eq.1 same
      omega
  · intro other apart
    have kept : (store.applications.insert application).find? other =
        store.applications.find? other := by
      rw [Table.find?_insert]
      exact if_neg (Ne.symm apart)
    exact fileOf_congr kept rfl rfl rfl rfl

theorem packsOf_contains {pack : Pack} (stored : pack ∈ store.packs.rows) (id : Nat) :
    ((store.packsOf id).map (·.id)).contains pack.id = (pack.processId == id) := by
  rw [Bool.eq_iff_iff, List.contains_iff_mem, List.mem_map, beq_iff_eq]
  constructor
  · rintro ⟨found, member, same⟩
    obtain ⟨found_mem, owned⟩ := List.mem_filter.1 member
    rw [← Table.eq_of_number_eq found_mem stored same]
    exact beq_iff_eq.1 owned
  · exact fun owned => ⟨pack, List.mem_filter.2 ⟨stored, beq_iff_eq.2 owned⟩, rfl⟩

theorem packsOf_removeApplication (id : Nat) {other : Nat} (apart : other ≠ id) :
    (store.removeApplication id).packsOf other = store.packsOf other := by
  simp only [removeApplication, packsOf, Table.keep, List.filter_filter]
  refine List.filter_congr fun pack member => ?_
  have mine := packsOf_contains member id
  rw [packsOf] at mine
  rw [mine]
  by_cases owned : pack.processId = other <;> simp [owned, apart]

theorem fileOf_removeApplication (id other : Nat) :
    (store.removeApplication id).fileOf other =
      if other = id then none else store.fileOf other := by
  have application := Table.find?_erase store.applications id other
  split
  next same =>
    rw [if_pos same] at application
    simp [fileOf, removeApplication, application]
  next apart =>
    rw [if_neg apart] at application
    refine fileOf_congr application ?_ (packsOf_removeApplication id apart) ?_ rfl
    · simp only [removeApplication, TaskTable.removeProcess, TaskTable.ofProcess, Table.keep,
        List.filter_filter]
      refine List.filter_congr fun task _ => ?_
      by_cases owned : task.processId = other <;> simp [owned, apart]
    · simp only [removeApplication, Table.keep, List.filter_filter]
      refine List.filter_congr fun document _ => ?_
      cases picked : (store.packsOf other).any (·.id == document.packId) with
      | false => rfl
      | true =>
        obtain ⟨pack, member, same⟩ := List.any_eq_true.1 picked
        obtain ⟨stored, owned⟩ := List.mem_filter.1 member
        rw [← beq_iff_eq.1 same, packsOf_contains stored, beq_iff_eq.1 owned]
        simpa using apart

theorem Sound.removeApplication (sound : store.Sound) (id : Nat) :
    (store.removeApplication id).Sound := by
  have kept : ∀ {other}, other ≠ id → store.applications.contains other = true →
      (store.applications.erase id).contains other = true := by
    intro other apart stored
    rwa [Table.contains, Table.find?_erase, if_neg apart]
  refine ⟨?_, ?_, ?_, ?_, sound.requests⟩
  · exact fun application member => sound.applications application (List.mem_filter.1 member).1
  · intro task member
    obtain ⟨member, foreign⟩ := List.mem_filter.1 member
    exact ⟨(sound.tasks task member).1, kept (bne_iff_ne.1 foreign) (sound.tasks task member).2⟩
  · intro pack member
    obtain ⟨member, foreign⟩ := List.mem_filter.1 member
    rw [packsOf_contains member] at foreign
    refine ⟨(sound.packs pack member).1, kept ?_ (sound.packs pack member).2⟩
    simpa using foreign
  · exact fun document member => sound.documents document (List.mem_filter.1 member).1

end Store

end Casework
