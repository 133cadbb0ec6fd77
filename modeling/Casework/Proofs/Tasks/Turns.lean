import Casework.Proofs.Tasks.Invariant

set_option autoImplicit false

namespace Casework

open Calendar
open Table (changeAt)

-- The operations that open a task of a type without looking for one that is open already.
def Operation.mayReopen : Operation → TaskType → Bool
  | .startAuthorisation _ _ _, .authorise => true
  | .startAuthorisation _ _ _, .rejected => true
  | .authoriseDocuments _ _ _, .documentSigning => true
  | .documentsFailed _ _, .documentError => true
  | .retrySigning _ _, .documentSigning => true
  | .documentsSigned _ _, .chiefWait => true
  | .documentsSigned _ _, .chiefError => true
  | .requestVariation _ _ _ _, .process => true
  | .revoke _ _ _, .chiefError => true
  | .rejectLicence _ _, .chiefError => true
  | .resendLicence _, .chiefWait => true
  | .resendLicence _, .chiefRevokeWait => true
  | .revertLicence _, .process => true
  | _, _ => false

namespace CaseFile

def tally (file : CaseFile) (taskType : TaskType) : Nat :=
  file.tasks.countP (·.taskType == taskType)

variable {file : CaseFile}

section Tally

variable (file) (taskType : TaskType)

theorem tally_congr {other : CaseFile} (same : file.tasks = other.tasks) :
    file.tally taskType = other.tally taskType := by
  rw [tally, tally, same]

@[simp] theorem tally_put (application : Application) :
    (file.put application).tally taskType = file.tally taskType := rfl

@[simp] theorem tally_finish (id : Nat) (owner : Option Nat) (now : Instant) :
    (file.finish id owner now).tally taskType = file.tally taskType := by
  simp only [tally, CaseFile.finish, changeAt, List.countP_map]
  refine List.countP_congr fun task _ => ?_
  simp only [Function.comp]
  split <;> rfl

@[simp] theorem tally_finishAll (now : Instant) :
    (file.finishAll now).tally taskType = file.tally taskType := by
  simp only [tally, CaseFile.finishAll, List.countP_map]
  refine List.countP_congr fun task _ => ?_
  simp only [Function.comp]
  split <;> rfl

@[simp] theorem tally_opened (id processId : Nat) (opened : TaskType) (previous : Option Nat)
    (now : Instant) :
    (file.addTask (.opened id processId opened previous now)).tally taskType =
      file.tally taskType + if opened = taskType then 1 else 0 := by
  simp [tally, Task.opened]

end Tally

inductive Turn (file : CaseFile) (operation : Operation) (after : CaseFile) : Prop where
  | cleared (loads : ∀ taskType, after.load taskType = 0)
      (tally : ∀ taskType, after.tally taskType = file.tally taskType)
  | turned (ended opened : Option TaskType)
      (held : ∀ taskType, ended = some taskType → file.load taskType = 1)
      (loads : ∀ taskType, after.load taskType =
        (if ended = some taskType then 0 else file.load taskType) +
          if opened = some taskType then 1 else 0)
      (tally : ∀ taskType, after.tally taskType =
        file.tally taskType + if opened = some taskType then 1 else 0)
      (looked : ∀ taskType, opened = some taskType → operation.mayReopen taskType = false →
        ended = some taskType ∨ file.load taskType = 0)
      (blind : ∀ taskType, operation.mayReopen taskType = true → ended ≠ some taskType)

namespace Turn

variable {operation : Operation} {after : CaseFile}

theorem same (loads : ∀ taskType, after.load taskType = file.load taskType)
    (tally : ∀ taskType, after.tally taskType = file.tally taskType) :
    file.Turn operation after := by
  refine .turned none none ?_ ?_ ?_ ?_ ?_
  · exact fun _ ended => by cases ended
  · exact fun taskType => by simp [loads]
  · exact fun taskType => by simp [tally]
  · exact fun _ opened => by cases opened
  · exact fun _ _ ended => by cases ended

theorem replaced {ended opened : TaskType} (held : file.load ended = 1)
    (loads : ∀ taskType, after.load taskType =
      (if ended = taskType then 0 else file.load taskType) + if opened = taskType then 1 else 0)
    (tally : ∀ taskType, after.tally taskType =
      file.tally taskType + if opened = taskType then 1 else 0)
    (looked : operation.mayReopen opened = false → ended = opened ∨ file.load opened = 0)
    (blind : operation.mayReopen ended = false) : file.Turn operation after := by
  refine .turned (some ended) (some opened) ?_ ?_ ?_ ?_ ?_
  · rintro _ ⟨⟩
    exact held
  · simpa only [Option.some.injEq] using loads
  · simpa only [Option.some.injEq] using tally
  · rintro _ ⟨⟩ closed
    simpa only [Option.some.injEq] using looked closed
  · rintro _ may ⟨⟩
    rw [blind] at may
    cases may

theorem opened {opened : TaskType}
    (loads : ∀ taskType, after.load taskType =
      file.load taskType + if opened = taskType then 1 else 0)
    (tally : ∀ taskType, after.tally taskType =
      file.tally taskType + if opened = taskType then 1 else 0)
    (looked : operation.mayReopen opened = false → file.load opened = 0) :
    file.Turn operation after := by
  refine .turned none (some opened) ?_ ?_ ?_ ?_ ?_
  · exact fun _ ended => by cases ended
  · simpa only [Option.some.injEq, reduceCtorEq, if_false] using loads
  · simpa only [Option.some.injEq] using tally
  · rintro _ ⟨⟩ closed
    exact .inr (looked closed)
  · exact fun _ _ ended => by cases ended

theorem ended {ended : TaskType} (held : file.load ended = 1)
    (loads : ∀ taskType, after.load taskType =
      if ended = taskType then 0 else file.load taskType)
    (tally : ∀ taskType, after.tally taskType = file.tally taskType)
    (blind : operation.mayReopen ended = false) : file.Turn operation after := by
  refine .turned (some ended) none ?_ ?_ ?_ ?_ ?_
  · rintro _ ⟨⟩
    exact held
  · simpa only [Option.some.injEq, reduceCtorEq, if_false, Nat.add_zero] using loads
  · simpa only [reduceCtorEq, if_false, Nat.add_zero] using tally
  · exact fun _ opened => by cases opened
  · rintro _ may ⟨⟩
    rw [blind] at may
    cases may

theorem passed (ordered : file.Ordered) {task : Task} {ended opened : TaskType}
    (only : file.tasks.filter (Task.isOpen ended) = [task]) {owner previous : Option Nat}
    {now later : Instant} {new processId : Nat}
    (tasks : after.tasks = ((file.finish task.id owner now).addTask
      (.opened new processId opened previous later)).tasks)
    (looked : operation.mayReopen opened = false → ended = opened)
    (blind : operation.mayReopen ended = false) : file.Turn operation after := by
  refine .replaced (load_of_only only) (fun taskType => ?_) (fun taskType => ?_)
    (fun closed => .inl (looked closed)) blind
  · rw [load_congr tasks, load_opened, load_finish ordered only]
  · rw [tally_congr _ _ tasks, tally_opened, tally_finish]

theorem finished (ordered : file.Ordered) {task : Task} {ended : TaskType}
    (only : file.tasks.filter (Task.isOpen ended) = [task]) (owner : Option Nat) (now : Instant)
    (tasks : after.tasks = (file.finish task.id owner now).tasks)
    (blind : operation.mayReopen ended = false) : file.Turn operation after := by
  refine .ended (load_of_only only) (fun taskType => ?_) (fun taskType => ?_) blind
  · rw [load_congr tasks, load_finish ordered only]
  · rw [tally_congr _ _ tasks, tally_finish]

theorem added {new processId : Nat} {opened : TaskType} {previous : Option Nat} {now : Instant}
    (tasks : after.tasks = (file.addTask (.opened new processId opened previous now)).tasks)
    (looked : operation.mayReopen opened = false → file.load opened = 0) :
    file.Turn operation after := by
  refine .opened (fun taskType => ?_) (fun taskType => ?_) looked
  · rw [load_congr tasks, load_opened]
  · rw [tally_congr _ _ tasks, tally_opened]

theorem emptied {now : Instant} (tasks : after.tasks = (file.finishAll now).tasks) :
    file.Turn operation after := by
  refine .cleared (fun taskType => ?_) (fun taskType => ?_)
  · rw [load_congr tasks, load_finishAll]
  · rw [tally_congr _ _ tasks, tally_finishAll]

end Turn

theorem Turn.of_move (fit : file.TasksFit) (ordered : file.Ordered) {context : Context} {id : Nat}
    {operation : Operation} {after : CaseFile} (move : Move context id operation file after) :
    file.Turn operation after := by
  cases move with
  | edit => exact .same (fun _ => rfl) fun _ => rfl
  | startLicence => exact .same (fun _ => rfl) fun _ => rfl
  | editLicence => exact .same (fun _ => rfl) fun _ => rfl
  | @submit _ _ user _ _ _ _ _ _ only =>
    have rest := load_finish ordered only (some user.id) context.now .process
    rw [if_neg (by decide)] at rest
    -- The task to decide the case is open already if the submission answers an update request.
    by_cases free : file.load .process = 0
    · refine @Turn.replaced file _ _ .prepare .process (load_of_only only) (fun taskType => ?_)
        (fun taskType => ?_) (fun _ => .inr free) rfl
      · rw [load_put, ensured_of_free (rest.trans free), load_opened, load_finish ordered only]
      · rw [tally_put, ensured_of_free (rest.trans free), tally_opened, tally_finish]
    · rw [← rest] at free
      refine .finished ordered only (some user.id) context.now ?_ rfl
      rw [put_tasks, ensured_of_open free]
  | refuseVariation _ current => exact .finished ordered current.only _ _ rfl rfl
  | refuse _ current => exact .passed ordered current.only rfl (fun closed => by cases closed) rfl
  | approve _ current => exact .passed ordered current.only rfl (fun closed => by cases closed) rfl
  | authoriseDocuments _ current =>
    exact .passed ordered current.only rfl (fun closed => by cases closed) rfl
  | sendDocuments _ current =>
    refine .passed ordered current.only rfl (fun closed => ?_) rfl
    rcases followingTask_cases false _ with same | same <;> rw [same] at closed <;> cases closed
  | issueDocuments _ current =>
    refine .finished ordered current.only none context.now ?_ rfl
    rw [put_tasks, issue_tasks]
  | failSigning _ current =>
    exact .passed ordered current.only rfl (fun closed => by cases closed) rfl
  | retrySigning _ current =>
    exact .passed ordered current.only rfl (fun closed => by cases closed) rfl
  | acceptWithdrawal => exact .emptied rfl
  | rejectWithdrawal =>
    by_cases free : file.load .process = 0
    · refine .opened (fun taskType => ?_) (fun taskType => ?_) fun _ => free
      · rw [load_put, ensured_of_free free, load_opened]
      · rw [tally_put, ensured_of_free free, tally_opened]
    · refine .same (fun taskType => ?_) fun taskType => ?_
      · rw [load_put, ensured_of_open free]
      · rw [tally_put, ensured_of_open free]
  | stop => exact .emptied rfl
  | reopen _ stage =>
    exact .added rfl fun _ => fit.givenUp (isGivenUp_of_reopenable stage) .process
  | revoke => exact .same (fun _ => rfl) fun _ => rfl
  | revokeAtChief _ stage =>
    refine .added rfl fun closed => ?_
    -- Only a revoked case waits for its revocation, and this one is complete.
    rcases followingTask_cases true _ with same | same
    · rw [same] at closed
      cases closed
    · rw [same]
      by_cases free : file.load .chiefRevokeWait = 0
      · exact free
      · rw [fit.revoking free] at stage
        cases stage
  | requestVariation => exact .added rfl fun closed => by cases closed
  | addUpdateRequest _ current free =>
    exact .added rfl fun _ => fit.not_preparing current.status free
  | withdrawUpdateRequest _ _ _ _ only => exact .finished ordered only _ _ rfl rfl
  | approveLicence current =>
    refine .finished ordered current.only none context.now ?_ rfl
    rw [put_tasks, answer_tasks, issue_tasks]
  | approveRevocation current =>
    refine .finished ordered current.only none context.now ?_ rfl
    rw [put_tasks, answer_tasks]
  | rejectLicence current =>
    refine .passed ordered current.only (answer_tasks _ _) (fun closed => by cases closed) ?_
    unfold awaitedReply
    split <;> rfl
  | resendLicence current =>
    refine .passed ordered current.only rfl (fun closed => ?_) rfl
    -- A second failure puts one task to deal with it in the place of the other.
    rcases followingTask_cases _ _ with same | same
    · exact same.symm
    · rw [same] at closed
      split at closed <;> cases closed
  | revertLicence current =>
    exact .passed ordered current.only rfl (fun closed => by cases closed) rfl

end CaseFile

end Casework
