import Casework.Proofs.CaseFile.Stored
import Casework.Operation.ChiefReply

set_option autoImplicit false

namespace Casework

open Calendar

theorem mapError_ok {α error other : Type} (change : error → other) (answer : α) :
    Except.mapError change (.ok answer) = .ok answer := rfl

namespace CaseFile

variable {file : CaseFile}

theorem load_eq_length (taskType : TaskType) :
    file.load taskType = (file.tasks.filter (Task.isOpen taskType)).length :=
  List.countP_eq_length_filter

theorem load_of_only {taskType : TaskType} {task : Task}
    (only : file.tasks.filter (Task.isOpen taskType) = [task]) : file.load taskType = 1 := by
  rw [load_eq_length, only]
  rfl

theorem Current.held {expected : List CaseStatus} {taskType : TaskType} {task : Task}
    (current : file.Current expected taskType task) : file.load taskType ≠ 0 := by
  rw [load_of_only current.only]
  exact Nat.one_ne_zero

theorem packCount_eq_length (status : PackStatus) :
    file.packCount status = (file.packs.filter (Pack.isIn status)).length :=
  List.countP_eq_length_filter

theorem packCount_of_only {status : PackStatus} {pack : Pack}
    (only : file.packs.filter (Pack.isIn status) = [pack]) : file.packCount status = 1 := by
  rw [packCount_eq_length, only]
  rfl

theorem mem_of_only {α : Type} {rows : List α} {wanted : α → Bool} {row : α}
    (only : rows.filter wanted = [row]) : row ∈ rows ∧ wanted row = true :=
  List.mem_filter.1 (only ▸ List.mem_singleton_self row)

theorem mem_finish {id : Nat} {owner : Option Nat} {now : Instant} {task : Task}
    (member : task ∈ file.tasks) :
    (if task.id = id then task.ended owner now else task) ∈ (file.finish id owner now).tasks :=
  Table.mem_changeAt.2 ⟨task, member, rfl⟩

theorem below_of_finish {id new : Nat} {owner : Option Nat} {now : Instant}
    (fresh : ∀ task ∈ (file.finish id owner now).tasks, task.id < new) :
    ∀ task ∈ file.tasks, task.id < new := by
  intro task member
  have below := fresh _ (mem_finish member)
  split at below <;> exact below

theorem Editing.status_mem (editing : file.Editing) :
    file.application.status ∈
      [CaseStatus.inProgress, .submitted, .processing, .variationRequested] := by
  rcases editing.stage with released | stage
  · simp only [Application.isReleasedForUpdate, Bool.and_eq_true, beq_iff_eq] at released
    simp [released.1.1]
  · simp only [List.mem_cons, List.not_mem_nil, or_false] at stage ⊢
    rcases stage with new | processing | varied
    · exact .inl new
    · exact .inr (.inr (.inl processing))
    · exact .inr (.inr (.inr varied))

theorem singlePack_eq_ok_iff {status : PackStatus} {pack : Pack} :
    file.singlePack status = .ok pack ↔ file.packs.filter (Pack.isIn status) = [pack] := by
  unfold singlePack
  match file.packs.filter (Pack.isIn status) with
  | [] => simp
  | [_] => simp
  | _ :: _ :: _ => simp

theorem singlePack_eq_notFound_iff {status other : PackStatus} {id : Nat} :
    file.singlePack status = .error (.notFound id other) ↔
      file.packCount status = 0 ∧ file.application.id = id ∧ status = other := by
  rw [packCount_eq_length]
  unfold singlePack
  match file.packs.filter (Pack.isIn status) with
  | [] => simp
  | [_] => simp
  | _ :: _ :: _ => simp

theorem singlePack_eq_multiple {status other : PackStatus} {id count : Nat}
    (several : file.singlePack status = .error (.multiple id other count)) :
    2 ≤ file.packCount status := by
  rw [packCount_eq_length]
  unfold singlePack at several
  match shape : file.packs.filter (Pack.isIn status) with
  | [] => simp [shape] at several
  | [_] => simp [shape] at several
  | _ :: _ :: _ => simp

theorem singlePack_cases {status : PackStatus} (few : file.packCount status ≤ 1) :
    (∃ pack, file.singlePack status = .ok pack) ∨
      (file.packCount status = 0 ∧
        file.singlePack status = .error (.notFound file.application.id status)) := by
  rw [packCount_eq_length] at few ⊢
  unfold singlePack
  rcases shape : file.packs.filter (Pack.isIn status) with _ | ⟨pack, _ | ⟨other, rest⟩⟩
  · exact .inr ⟨rfl, rfl⟩
  · exact .inl ⟨pack, rfl⟩
  · simp [shape] at few

end CaseFile

namespace TaskTable

variable {tasks : TaskTable} {processId : Nat} {taskType : TaskType}

theorem activeOf_eq_filter (tasks : TaskTable) (processId : Nat) (taskType : TaskType) :
    tasks.activeOf processId taskType =
      (tasks.ofProcess processId).filter (Task.isOpen taskType) := by
  rw [activeOf, active, List.filter_filter]
  exact List.filter_congr fun task _ => Bool.and_comm _ _

theorem count_activeTypes : (tasks.activeTypes processId).count taskType =
    (tasks.activeOf processId taskType).length := by
  rw [activeTypes, List.count, List.countP_map, activeOf, ← List.countP_eq_length_filter]
  rfl

theorem mem_activeTypes_iff_length :
    taskType ∈ tasks.activeTypes processId ↔ (tasks.activeOf processId taskType).length ≠ 0 := by
  rw [← count_activeTypes, ← Nat.pos_iff_ne_zero, List.count_pos_iff]

theorem hasActive_iff_mem :
    tasks.hasActive processId taskType = true ↔ taskType ∈ tasks.activeTypes processId := by
  rw [hasActive, activeTypes, List.any_eq_true, List.mem_map]
  simp only [beq_iff_eq]

end TaskTable

namespace Store

variable {store : Store} {id : Nat} {file : CaseFile}

theorem activeOf_eq (found : store.fileOf id = some file) (taskType : TaskType) :
    store.tasks.activeOf id taskType = file.tasks.filter (Task.isOpen taskType) := by
  rw [TaskTable.activeOf_eq_filter, (fileOf_eq_some_iff.1 found).2.1]

theorem mem_activeTypes_iff (found : store.fileOf id = some file) {taskType : TaskType} :
    taskType ∈ store.tasks.activeTypes id ↔ file.load taskType ≠ 0 := by
  rw [TaskTable.mem_activeTypes_iff_length, activeOf_eq found, CaseFile.load_eq_length]

theorem hasActive_iff (found : store.fileOf id = some file) {taskType : TaskType} :
    store.tasks.hasActive id taskType = true ↔ file.load taskType ≠ 0 :=
  TaskTable.hasActive_iff_mem.trans (mem_activeTypes_iff found)

theorem singlePack_eq (found : store.fileOf id = some file) (status : PackStatus) :
    store.singlePack id status = file.singlePack status := by
  obtain ⟨-, -, packs, -⟩ := fileOf_eq_some_iff.1 found
  rw [singlePack, CaseFile.singlePack, packs, id_of_fileOf found]
  rfl

theorem draftPack_of_only (found : store.fileOf id = some file) {draft : Pack}
    (only : file.packs.filter (Pack.isIn .draft) = [draft]) : store.draftPack id = .ok draft := by
  rw [draftPack, singlePack_eq found]
  exact CaseFile.singlePack_eq_ok_iff.2 only

theorem activePack_of_only (found : store.fileOf id = some file) {pack : Pack}
    (only : file.packs.filter (Pack.isIn .active) = [pack]) : store.activePack id = .ok pack := by
  rw [activePack, singlePack_eq found]
  exact CaseFile.singlePack_eq_ok_iff.2 only

theorem activePack?_eq (found : store.fileOf id = some file) {earlier : Option Pack}
    (answered : store.activePack? id = .ok earlier) :
    file.packs.filter (Pack.isIn .active) = earlier.toList := by
  rw [activePack?, activePack, singlePack_eq found] at answered
  split at answered
  next pack looked =>
    cases answered
    exact CaseFile.singlePack_eq_ok_iff.1 looked
  next looked =>
    cases answered
    have missing := (CaseFile.singlePack_eq_notFound_iff.1 looked).1
    exact List.eq_nil_of_length_eq_zero ((CaseFile.packCount_eq_length .active).symm.trans missing)
  next => cases answered

theorem awaitedRequest_eq (found : store.fileOf id = some file) :
    store.awaitedRequest id = file.awaited := by
  rw [awaitedRequest, CaseFile.awaited, (fileOf_eq_some_iff.1 found).2.2.2.2]

theorem documentsOf_eq (found : store.fileOf id = some file) {pack : Pack}
    (member : pack ∈ file.packs) :
    store.documentsOf pack.id = file.documents.filter (·.packId == pack.id) := by
  rw [documentsOf, ← (fileOf_eq_some_iff.1 found).2.2.2.1, List.filter_filter]
  refine List.filter_congr fun document _ => ?_
  cases mine : document.packId == pack.id with
  | false => rfl
  | true =>
    have picked : file.packs.any (·.id == document.packId) = true :=
      List.any_eq_true.2 ⟨pack, member, beq_iff_eq.2 (beq_iff_eq.1 mine).symm⟩
    rw [picked]
    rfl

theorem licenceOf_eq (found : store.fileOf id = some file) {pack : Pack}
    (member : pack ∈ file.packs) : store.licenceOf pack.id = file.licenceOf pack.id := by
  rw [licenceOf, CaseFile.licenceOf, documentsOf_eq found member]

theorem payload_eq (found : store.fileOf id = some file) {application : Application}
    (same : application.id = id) (revoke : Bool) :
    LicencePayload.build store application revoke = file.payload application revoke := by
  have looked : (if revoke then store.revokedPack application.id
      else store.draftPack application.id) =
        file.singlePack (if revoke then .revoked else .draft) := by
    rw [same, revokedPack, draftPack, singlePack_eq found, singlePack_eq found]
    cases revoke <;> rfl
  rw [LicencePayload.build, CaseFile.payload, looked]
  cases single : file.singlePack (if revoke then .revoked else .draft) with
  | error error => rfl
  | ok pack =>
    have member := (CaseFile.mem_of_only (CaseFile.singlePack_eq_ok_iff.1 single)).1
    simp only [mapError_ok, bind, Except.bind]
    exact licenceOf_eq found member ▸ rfl

end Store

namespace Standing

variable {standing : Standing} {tasks : TaskTable}

@[simp] theorem checkStatus_eq_ok_iff {expected : List CaseStatus} {answer : Unit} :
    standing.checkStatus expected = .ok answer ↔ standing.status ∈ expected := by
  unfold checkStatus
  split <;> simp_all

@[simp] theorem checkTask_eq_ok_iff {taskType : TaskType} {answer : Unit} :
    standing.checkTask tasks taskType = .ok answer ↔ taskType ∈ tasks.activeTypes standing.id := by
  unfold checkTask
  split <;> simp_all

theorem expectedTask_eq_ok_iff {taskType : TaskType} {task : Task} :
    standing.expectedTask tasks taskType = .ok task ↔
      standing.isActive = true ∧ tasks.activeOf standing.id taskType = [task] := by
  rw [expectedTask]
  cases active : standing.isActive with
  | false => simp [checkActive, active, bind, Except.bind]
  | true =>
    simp only [checkActive, active, if_pos, bind, Except.bind, true_and]
    match tasks.activeOf standing.id taskType with
    | [] => simp
    | [_] => simp
    | _ :: _ :: _ => simp

theorem currentTask_eq_ok_iff {expected : List CaseStatus} {taskType : TaskType} {task : Task} :
    standing.currentTask tasks expected taskType = .ok task ↔
      standing.isActive = true ∧ standing.status ∈ expected ∧
        tasks.activeOf standing.id taskType = [task] := by
  rw [currentTask]
  cases active : standing.isActive with
  | false => simp [checkActive, active, bind, Except.bind]
  | true =>
    by_cases stage : standing.status ∈ expected
    · simp [checkActive, checkStatus, active, stage, bind, Except.bind, expectedTask_eq_ok_iff]
    · simp [checkActive, checkStatus, active, stage, bind, Except.bind]

end Standing

namespace Store

variable {store : Store} {id : Nat} {file : CaseFile}

theorem expectedTask_eq_ok_iff (found : store.fileOf id = some file) {taskType : TaskType}
    {task : Task} :
    file.application.standing.expectedTask store.tasks taskType = .ok task ↔
      file.application.isActive = true ∧ file.tasks.filter (Task.isOpen taskType) = [task] := by
  rw [Standing.expectedTask_eq_ok_iff, ← activeOf_eq found, ← id_of_fileOf found]
  rfl

theorem currentTask_eq_ok_iff (found : store.fileOf id = some file) {expected : List CaseStatus}
    {taskType : TaskType} {task : Task} :
    file.application.standing.currentTask store.tasks expected taskType = .ok task ↔
      file.Current expected taskType task := by
  rw [Standing.currentTask_eq_ok_iff]
  have open_tasks := activeOf_eq found taskType
  rw [← id_of_fileOf found] at open_tasks
  constructor
  · rintro ⟨active, stage, only⟩
    exact ⟨active, stage, open_tasks.symm.trans only⟩
  · rintro ⟨active, stage, only⟩
    exact ⟨active, stage, open_tasks.trans only⟩

theorem editing_of_checkEditing (found : store.fileOf id = some file) {answer : Unit}
    (ran : file.application.checkEditing store.tasks = .ok answer) : file.Editing := by
  have preparing : .prepare ∈ store.tasks.activeTypes file.application.standing.id →
      file.load .prepare ≠ 0 := by
    rw [← mem_activeTypes_iff found, ← id_of_fileOf found]
    exact fun listed => listed
  rw [Application.checkEditing] at ran
  cases released : file.application.isReleasedForUpdate with
  | true =>
    simp only [released, if_pos, bind, Except.bind] at ran
    exact ⟨.inl released, preparing (Standing.checkTask_eq_ok_iff.1 ran)⟩
  | false =>
    by_cases stage :
        file.application.standing.status ∈ [CaseStatus.inProgress, .processing, .variationRequested]
    · simp [released, Standing.checkStatus, stage, bind, Except.bind] at ran
      exact ⟨.inr stage, preparing ran⟩
    · simp [released, Standing.checkStatus, stage, bind, Except.bind] at ran

end Store

end Casework
