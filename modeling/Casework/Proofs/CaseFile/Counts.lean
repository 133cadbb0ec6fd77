import Casework.Proofs.CaseFile.Questions
import Casework.Proofs.CaseFile.Move

set_option autoImplicit false

namespace Casework

open Calendar
open Table (changeAt)

namespace CaseFile

variable {file : CaseFile}

section Frame

variable (file)

@[simp] theorem put_application (application : Application) :
    (file.put application).application = application := rfl

@[simp] theorem put_tasks (application : Application) : (file.put application).tasks = file.tasks :=
  rfl

@[simp] theorem put_packs (application : Application) : (file.put application).packs = file.packs :=
  rfl

@[simp] theorem put_documents (application : Application) :
    (file.put application).documents = file.documents := rfl

@[simp] theorem put_requests (application : Application) :
    (file.put application).requests = file.requests := rfl

@[simp] theorem addTask_tasks (task : Task) :
    (file.addTask task).tasks = file.tasks ++ [task] := rfl

@[simp] theorem addTask_application (task : Task) :
    (file.addTask task).application = file.application := rfl

@[simp] theorem finish_packs (id : Nat) (owner : Option Nat) (now : Instant) :
    (file.finish id owner now).packs = file.packs := rfl

@[simp] theorem finish_documents (id : Nat) (owner : Option Nat) (now : Instant) :
    (file.finish id owner now).documents = file.documents := rfl

@[simp] theorem finish_requests (id : Nat) (owner : Option Nat) (now : Instant) :
    (file.finish id owner now).requests = file.requests := rfl

@[simp] theorem finish_application (id : Nat) (owner : Option Nat) (now : Instant) :
    (file.finish id owner now).application = file.application := rfl

@[simp] theorem ensureTask_packs (task : Task) : (file.ensureTask task).packs = file.packs := by
  unfold ensureTask
  split <;> rfl

@[simp] theorem ensureTask_documents (task : Task) :
    (file.ensureTask task).documents = file.documents := by
  unfold ensureTask
  split <;> rfl

@[simp] theorem ensureTask_requests (task : Task) :
    (file.ensureTask task).requests = file.requests := by
  unfold ensureTask
  split <;> rfl

@[simp] theorem addPack_packs (pack : Pack) :
    (file.addPack pack).packs = file.packs ++ [pack] := rfl

@[simp] theorem changePack_packs (id : Nat) (change : Pack → Pack) :
    (file.changePack id change).packs = changeAt id change file.packs := rfl

@[simp] theorem issue_tasks (draft : Pack) (earlier : Option Pack) (reference : Option String)
    (now : Instant) : (file.issue draft earlier reference now).tasks = file.tasks := by
  cases earlier <;> rfl

@[simp] theorem issue_documents (draft : Pack) (earlier : Option Pack) (reference : Option String)
    (now : Instant) : (file.issue draft earlier reference now).documents = file.documents := by
  cases earlier <;> rfl

@[simp] theorem issue_requests (draft : Pack) (earlier : Option Pack) (reference : Option String)
    (now : Instant) : (file.issue draft earlier reference now).requests = file.requests := by
  cases earlier <;> rfl

@[simp] theorem finish_issue_packs (id : Nat) (owner : Option Nat) (ended : Instant) (draft : Pack)
    (earlier : Option Pack) (reference : Option String) (now : Instant) :
    ((file.finish id owner ended).issue draft earlier reference now).packs =
      (file.issue draft earlier reference now).packs := by
  cases earlier <;> rfl

@[simp] theorem answer_application (change : ChiefRequest → ChiefRequest) :
    (file.answer change).application = file.application := by
  unfold answer
  split <;> rfl

@[simp] theorem answer_tasks (change : ChiefRequest → ChiefRequest) :
    (file.answer change).tasks = file.tasks := by
  unfold answer
  split <;> rfl

@[simp] theorem answer_packs (change : ChiefRequest → ChiefRequest) :
    (file.answer change).packs = file.packs := by
  unfold answer
  split <;> rfl

@[simp] theorem answer_documents (change : ChiefRequest → ChiefRequest) :
    (file.answer change).documents = file.documents := by
  unfold answer
  split <;> rfl

variable (context : Context) (application : Application) (revoke : Bool) (requestId taskId : Nat)
  (previous : Option Nat)

@[simp] theorem send_application :
    (file.send context application revoke requestId taskId previous).application =
      file.application := rfl

@[simp] theorem send_packs :
    (file.send context application revoke requestId taskId previous).packs = file.packs := rfl

@[simp] theorem send_documents :
    (file.send context application revoke requestId taskId previous).documents =
      file.documents := rfl

@[simp] theorem send_requests :
    (file.send context application revoke requestId taskId previous).requests =
      file.requests ++ [Work.requestOf requestId application context.now
        (file.outcome context application revoke)] := rfl

end Frame

theorem load_congr {other : CaseFile} (same : file.tasks = other.tasks) (taskType : TaskType) :
    file.load taskType = other.load taskType := by
  rw [load, load, same]

section Load

variable (file) (taskType : TaskType)

@[simp] theorem load_put (application : Application) :
    (file.put application).load taskType = file.load taskType := rfl

@[simp] theorem load_addPack (pack : Pack) :
    (file.addPack pack).load taskType = file.load taskType := rfl

@[simp] theorem load_changePack (id : Nat) (change : Pack → Pack) :
    (file.changePack id change).load taskType = file.load taskType := rfl

@[simp] theorem load_redocument (packId : Nat) (documents : List Document) :
    (file.redocument packId documents).load taskType = file.load taskType := rfl

@[simp] theorem load_issue (draft : Pack) (earlier : Option Pack) (reference : Option String)
    (now : Instant) :
    (file.issue draft earlier reference now).load taskType = file.load taskType :=
  load_congr (issue_tasks file draft earlier reference now) taskType

@[simp] theorem load_answer (change : ChiefRequest → ChiefRequest) :
    (file.answer change).load taskType = file.load taskType :=
  load_congr (answer_tasks file change) taskType

end Load

theorem packCount_congr {other : CaseFile} (same : file.packs = other.packs) (status : PackStatus) :
    file.packCount status = other.packCount status := by
  rw [packCount, packCount, same]

theorem load_addTask (task : Task) (taskType : TaskType) :
    (file.addTask task).load taskType =
      file.load taskType + if task.isOpen taskType then 1 else 0 := by
  simp [load]

@[simp] theorem load_opened (id processId : Nat) (opened : TaskType) (previous : Option Nat)
    (now : Instant)
    (taskType : TaskType) :
    (file.addTask (.opened id processId opened previous now)).load taskType =
      file.load taskType + if opened = taskType then 1 else 0 := by
  simp [load_addTask, Task.opened, Task.isOpen]

@[simp] theorem load_send (context : Context) (application : Application) (revoke : Bool)
    (requestId taskId : Nat) (previous : Option Nat) (taskType : TaskType) :
    (file.send context application revoke requestId taskId previous).load taskType =
      file.load taskType +
        if Work.followingTask revoke (file.outcome context application revoke) = taskType then 1
        else 0 :=
  load_opened taskId application.id _ previous context.now taskType

section Ensured

variable {id processId : Nat} {opened : TaskType} {previous : Option Nat} {now : Instant}

theorem ensured_of_free (free : file.load opened = 0) :
    file.ensureTask (.opened id processId opened previous now) =
      file.addTask (.opened id processId opened previous now) := if_pos free

theorem ensured_of_open (held : file.load opened ≠ 0) :
    file.ensureTask (.opened id processId opened previous now) = file := if_neg held

@[simp] theorem load_ensured (taskType : TaskType) :
    (file.ensureTask (.opened id processId opened previous now)).load taskType =
      if opened = taskType then max 1 (file.load taskType) else file.load taskType := by
  by_cases free : file.load opened = 0
  · rw [ensured_of_free free, load_opened]
    split
    next same =>
      subst same
      omega
    next => rfl
  · rw [ensured_of_open free]
    split
    next same =>
      subst same
      omega
    next => rfl

end Ensured

@[simp] theorem load_finishAll (now : Instant) (taskType : TaskType) :
    (file.finishAll now).load taskType = 0 := by
  simp only [load, finishAll, List.countP_eq_zero, List.mem_map]
  rintro _ ⟨task, -, rfl⟩
  split <;> simp_all [Task.isOpen, Task.ended]

theorem load_finish (ordered : file.Ordered) {task : Task} {finished : TaskType}
    (only : file.tasks.filter (Task.isOpen finished) = [task]) (owner : Option Nat)
    (now : Instant) (taskType : TaskType) :
    (file.finish task.id owner now).load taskType =
      if finished = taskType then 0 else file.load taskType := by
  obtain ⟨member, isOpen⟩ := mem_of_only only
  have counted := Table.countP_changeAt (·.ended owner now) (Task.isOpen taskType) ordered.tasks
    member
  have closed : (task.ended owner now).isOpen taskType = false := by
    simp [Task.isOpen, Task.ended]
  simp only [closed, Bool.false_eq_true, if_false] at counted
  have before : (file.finish task.id owner now).load taskType +
      (if task.isOpen taskType then 1 else 0) = file.load taskType := counted
  simp only [Task.isOpen, Bool.and_eq_true, beq_iff_eq] at isOpen
  simp only [Task.isOpen, isOpen.1, isOpen.2, Bool.true_and, beq_iff_eq] at before
  split
  next same =>
    subst same
    have alone := load_of_only only
    simp only [if_pos] at before
    omega
  next apart =>
    simp only [if_neg apart] at before
    omega

theorem packCount_addPack (pack : Pack) (status : PackStatus) :
    (file.addPack pack).packCount status =
      file.packCount status + if pack.isIn status then 1 else 0 := by
  simp [packCount]

theorem packCount_changePack (ordered : file.Ordered) {pack : Pack} (member : pack ∈ file.packs)
    (change : Pack → Pack) (status : PackStatus) :
    (file.changePack pack.id change).packCount status + (if pack.isIn status then 1 else 0) =
      file.packCount status + if (change pack).isIn status then 1 else 0 :=
  Table.countP_changeAt change (Pack.isIn status) ordered.packs member

end CaseFile

end Casework
