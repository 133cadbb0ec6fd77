import Casework.Proofs.CaseFile.Basic

set_option autoImplicit false

namespace Casework

open Calendar
open Numbered (number)

structure Store.Sound (store : Store) : Prop where
  applications : ∀ application ∈ store.applications.rows, application.id ≤ store.lastProcess
  tasks : ∀ task ∈ store.tasks.rows.rows,
    task.id ≤ store.tasks.lastId ∧ store.applications.contains task.processId = true
  packs : ∀ pack ∈ store.packs.rows,
    pack.id ≤ store.lastPack ∧ store.applications.contains pack.processId = true
  documents : ∀ document ∈ store.documents.rows,
    document.id ≤ store.lastDocument ∧ document.packId ≤ store.lastPack
  requests : ∀ request ∈ store.requests.rows,
    request.id ≤ store.lastRequest ∧ request.processId ≤ store.lastProcess

theorem Store.sound_empty : Store.empty.Sound := by
  constructor <;> intro row member <;> simp [Store.empty, Table.empty, TaskTable.empty] at member

namespace Store

variable {store : Store} {id : Nat} {file : CaseFile}

theorem fileOf_eq_some_iff :
    store.fileOf id = some file ↔
      store.applications.find? id = some file.application ∧
        store.tasks.ofProcess id = file.tasks ∧ store.packsOf id = file.packs ∧
        (store.documents.rows.filter fun document =>
          file.packs.any (·.id == document.packId)) = file.documents ∧
        store.requestsOf id = file.requests := by
  rw [fileOf, Option.map_eq_some_iff]
  constructor
  · rintro ⟨application, found, rfl⟩
    exact ⟨found, rfl, rfl, rfl, rfl⟩
  · rintro ⟨found, tasks, packs, documents, requests⟩
    refine ⟨file.application, found, ?_⟩
    rw [tasks, packs, documents, requests]

theorem fileOf_isSome_iff : (store.fileOf id).isSome = store.applications.contains id := by
  rw [fileOf, Option.isSome_map, Table.contains]

theorem exists_fileOf {application : Application}
    (found : store.applications.find? id = some application) :
    ∃ file, store.fileOf id = some file ∧ file.application = application := by
  rw [fileOf, found]
  exact ⟨_, rfl, rfl⟩

theorem id_of_fileOf (found : store.fileOf id = some file) : file.application.id = id :=
  (Table.find?_eq_some_iff.1 (fileOf_eq_some_iff.1 found).1).2

theorem id_le_of_fileOf (sound : store.Sound) (found : store.fileOf id = some file) :
    id ≤ store.lastProcess := by
  obtain ⟨member, same⟩ := Table.find?_eq_some_iff.1 (fileOf_eq_some_iff.1 found).1
  exact same ▸ sound.applications _ member

theorem mem_tasks_iff (found : store.fileOf id = some file) {task : Task} :
    task ∈ file.tasks ↔ task ∈ store.tasks.rows.rows ∧ task.processId = id := by
  rw [← (fileOf_eq_some_iff.1 found).2.1, TaskTable.ofProcess, List.mem_filter, beq_iff_eq]

theorem mem_packs_iff (found : store.fileOf id = some file) {pack : Pack} :
    pack ∈ file.packs ↔ pack ∈ store.packs.rows ∧ pack.processId = id := by
  rw [← (fileOf_eq_some_iff.1 found).2.2.1, packsOf, List.mem_filter, beq_iff_eq]

theorem mem_documents_iff (found : store.fileOf id = some file) {document : Document} :
    document ∈ file.documents ↔
      document ∈ store.documents.rows ∧ ∃ pack ∈ file.packs, pack.id = document.packId := by
  rw [← (fileOf_eq_some_iff.1 found).2.2.2.1, List.mem_filter, List.any_eq_true]
  simp only [beq_iff_eq]

theorem mem_requests_iff (found : store.fileOf id = some file) {request : ChiefRequest} :
    request ∈ file.requests ↔ request ∈ store.requests.rows ∧ request.processId = id := by
  rw [← (fileOf_eq_some_iff.1 found).2.2.2.2, requestsOf, List.mem_filter, beq_iff_eq]

theorem Sound.packsOf_unstored {store : Store} (sound : store.Sound) {id : Nat}
    (missing : store.fileOf id = none) : store.packsOf id = [] := by
  refine List.filter_eq_nil_iff.2 fun pack member owned => ?_
  have stored := (sound.packs pack member).2
  rw [beq_iff_eq.1 owned, ← fileOf_isSome_iff, missing] at stored
  cases stored

theorem Sound.ofProcess_unstored (sound : store.Sound) (missing : store.fileOf id = none) :
    store.tasks.ofProcess id = [] := by
  refine List.filter_eq_nil_iff.2 fun task member owned => ?_
  have stored := (sound.tasks task member).2
  rw [beq_iff_eq.1 owned, ← fileOf_isSome_iff, missing] at stored
  cases stored

end Store

structure CaseFile.Ordered (file : CaseFile) : Prop where
  tasks : file.tasks.Pairwise fun earlier later => number earlier < number later
  packs : file.packs.Pairwise fun earlier later => number earlier < number later
  requests : file.requests.Pairwise fun earlier later => number earlier < number later

theorem Store.ordered_of_fileOf {store : Store} {id : Nat} {file : CaseFile}
    (found : store.fileOf id = some file) : file.Ordered := by
  obtain ⟨-, tasks, packs, -, requests⟩ := Store.fileOf_eq_some_iff.1 found
  constructor
  · exact tasks ▸ store.tasks.rows.increasing.filter _
  · exact packs ▸ store.packs.increasing.filter _
  · exact requests ▸ store.requests.increasing.filter _

theorem Store.fileOf_congr {first second : Store} {id : Nat}
    (applications : first.applications.find? id = second.applications.find? id)
    (tasks : first.tasks.ofProcess id = second.tasks.ofProcess id)
    (packs : first.packsOf id = second.packsOf id)
    (documents : (first.documents.rows.filter fun document =>
        (second.packsOf id).any (·.id == document.packId)) =
      second.documents.rows.filter fun document =>
        (second.packsOf id).any (·.id == document.packId))
    (requests : first.requestsOf id = second.requestsOf id) :
    first.fileOf id = second.fileOf id := by
  rw [fileOf, fileOf, applications, tasks, packs, documents, requests]

end Casework
