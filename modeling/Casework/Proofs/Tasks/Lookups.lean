import Casework.Proofs.CaseFile.Questions
import Casework.Proofs.CaseFile.Replace

set_option autoImplicit false

namespace Casework

open Calendar
open Table (changeAt)

namespace TaskTable

inductive Change where
  | create (processId : Nat) (taskType : TaskType) (previous : Option Nat) (now : Instant)
  | finish (id : Nat) (owner : Option Nat) (now : Instant)
  | finishAll (processId : Nat) (now : Instant)

def change (tasks : TaskTable) : Change → TaskTable
  | .create processId taskType previous now => tasks.create processId taskType previous now
  | .finish id owner now => tasks.finish id owner now
  | .finishAll processId now => tasks.finishAll processId now

def changed (tasks : TaskTable) (history : List Change) : TaskTable := history.foldl change tasks

def Change.ends (task : Task) : Change → Bool
  | .create _ _ _ _ => false
  | .finish id _ _ => id == task.id
  | .finishAll processId _ => processId == task.processId

structure Creation where
  task : Task
  later : List Change

def Creation.isEnded (creation : Creation) : Bool :=
  creation.later.any (Change.ends creation.task)

def Creation.isOf (processId : Nat) (taskType : TaskType) (creation : Creation) : Bool :=
  creation.task.processId == processId && creation.task.taskType == taskType

def creations (drawn : Nat) : List Change → List Creation
  | [] => []
  | .create processId taskType previous now :: later =>
    ⟨Task.opened (drawn + 1) processId taskType previous now, later⟩ :: creations (drawn + 1) later
  | .finish _ _ _ :: later => creations drawn later
  | .finishAll _ _ :: later => creations drawn later

/-- The tasks of a process and type that a history creates and does not end later. -/
def unended (drawn : Nat) (history : List Change) (processId : Nat) (taskType : TaskType) :
    List Task :=
  ((creations drawn history).filter fun creation =>
    creation.isOf processId taskType && !creation.isEnded).map (·.task)

section Changes

variable {tasks : TaskTable} {processId : Nat} {taskType : TaskType}

theorem activeOf_create (below : ∀ task ∈ tasks.rows.rows, task.id ≤ tasks.lastId) (id : Nat)
    (opened : TaskType) (previous : Option Nat) (now : Instant) :
    (tasks.create id opened previous now).activeOf processId taskType =
      tasks.activeOf processId taskType ++
        [Task.opened (tasks.lastId + 1) id opened previous now].filter fun task =>
          task.processId == processId && task.taskType == taskType := by
  rw [activeOf_eq_filter, activeOf_eq_filter, ofProcess_create below]
  by_cases mine : id = processId
  · rw [if_pos mine, List.filter_append]
    simp [Task.opened, Task.isOpen, mine, List.filter_cons]
  · rw [if_neg mine]
    simp [Task.opened, mine]

theorem filter_isOpen_changeAt (rows : List Task) (id : Nat) (owner : Option Nat) (now : Instant) :
    (changeAt id (·.ended owner now) rows).filter (Task.isOpen taskType) =
      (rows.filter (Task.isOpen taskType)).filter fun task => !(id == task.id) := by
  induction rows with
  | nil => rfl
  | cons head tail ih =>
    rw [Table.changeAt_cons, List.filter_cons, List.filter_cons, ih]
    by_cases same : head.id = id
    · have closed : Task.isOpen taskType (head.ended owner now) = false := rfl
      cases Task.isOpen taskType head <;> simp [Numbered.number, same, closed]
    · cases kept : Task.isOpen taskType head <;>
        simp [Numbered.number, same, kept, Ne.symm same]

theorem activeOf_finish (id : Nat) (owner : Option Nat) (now : Instant) :
    (tasks.finish id owner now).activeOf processId taskType =
      (tasks.activeOf processId taskType).filter fun task => !(id == task.id) := by
  rw [activeOf_eq_filter, activeOf_eq_filter, ofProcess_finish]
  exact filter_isOpen_changeAt _ id owner now

theorem processId_of_mem_activeOf {task : Task}
    (member : task ∈ tasks.activeOf processId taskType) :
    task.processId = processId := by
  rw [activeOf, active, ofProcess] at member
  simp only [List.mem_filter, beq_iff_eq] at member
  exact member.1.1.2

theorem activeOf_finishAll (id : Nat) (now : Instant) :
    (tasks.finishAll id now).activeOf processId taskType =
      (tasks.activeOf processId taskType).filter fun task => !(id == task.processId) := by
  by_cases mine : id = processId
  · have gone : (tasks.activeOf processId taskType).filter (fun task => !(id == task.processId)) =
        [] := List.filter_eq_nil_iff.2 fun task member => by
      simp [processId_of_mem_activeOf member, mine]
    rw [gone, activeOf_eq_filter, ofProcess_finishAll, if_pos mine, List.filter_eq_nil_iff]
    intro task member
    obtain ⟨earlier, -, rfl⟩ := List.mem_map.1 member
    cases active : earlier.isActive <;> simp [Task.isOpen, Task.ended, active]
  · have kept : (tasks.activeOf processId taskType).filter (fun task => !(id == task.processId)) =
        tasks.activeOf processId taskType := List.filter_eq_self.2 fun task member => by
      simp [processId_of_mem_activeOf member, mine]
    rw [kept, activeOf_eq_filter, activeOf_eq_filter, ofProcess_finishAll, if_neg mine]

theorem below_change (below : ∀ task ∈ tasks.rows.rows, task.id ≤ tasks.lastId) (step : Change) :
    ∀ task ∈ (tasks.change step).rows.rows, task.id ≤ (tasks.change step).lastId := by
  intro task member
  cases step with
  | create =>
    rcases Table.mem_rows_insert member with rfl | member
    · exact Nat.le_refl _
    · exact Nat.le_succ_of_le (below task member)
  | finish id owner now =>
    rw [change, rows_finish] at member
    obtain ⟨earlier, stored, rfl⟩ := Table.mem_changeAt.1 member
    split <;> exact below earlier stored
  | finishAll =>
    obtain ⟨earlier, stored, rfl⟩ := List.mem_map.1 member
    have same := below earlier stored
    split <;> exact same

theorem unended_create (drawn id : Nat) (opened : TaskType) (previous : Option Nat) (now : Instant)
    (later : List Change) :
    unended drawn (.create id opened previous now :: later) processId taskType =
      ([Task.opened (drawn + 1) id opened previous now].filter fun task =>
        task.processId == processId && task.taskType == taskType &&
          !later.any (Change.ends task)) ++
        unended (drawn + 1) later processId taskType := by
  simp only [unended, creations, List.filter_cons, List.filter_nil, Creation.isOf, Creation.isEnded]
  split <;> rfl

theorem activeOf_changed (below : ∀ task ∈ tasks.rows.rows, task.id ≤ tasks.lastId)
    (history : List Change) :
    (tasks.changed history).activeOf processId taskType =
      (tasks.activeOf processId taskType).filter (fun task => !history.any (Change.ends task)) ++
        unended tasks.lastId history processId taskType := by
  -- The table is left open: the rest of a history starts from the table after its first change.
  induction history generalizing tasks with
  | nil =>
    have kept : (tasks.activeOf processId taskType).filter
        (fun task => !([] : List Change).any (Change.ends task)) =
          tasks.activeOf processId taskType := List.filter_eq_self.2 fun _ _ => rfl
    rw [kept]
    exact (List.append_nil _).symm
  | cons step later ih =>
    have rest := ih (below_change below step)
    rw [changed, List.foldl_cons]
    refine rest.trans ?_
    cases step with
    | create id opened previous now =>
      rw [change, activeOf_create below, List.filter_append, List.append_assoc,
        List.filter_filter, unended_create]
      simp [Change.ends, create, Bool.and_comm]
    | finish id owner now =>
      rw [change, activeOf_finish, List.filter_filter]
      simp [Change.ends, finish, unended, creations, Bool.and_comm]
    | finishAll id now =>
      rw [change, activeOf_finishAll, List.filter_filter]
      simp [Change.ends, finishAll, unended, creations, Bool.and_comm]

theorem activeOf_after (history : List Change) (processId : Nat) (taskType : TaskType) :
    (empty.changed history).activeOf processId taskType = unended 0 history processId taskType :=
  activeOf_changed (fun _ member => absurd member List.not_mem_nil) history

end Changes

end TaskTable

namespace Standing

variable {standing : Standing} {tasks : TaskTable} {taskType : TaskType}

theorem checkTask_eq_error_iff {error : FlowError} :
    standing.checkTask tasks taskType = .error error ↔
      taskType ∉ tasks.activeTypes standing.id ∧ error = .task standing.process taskType 0 := by
  unfold checkTask
  split
  next listed => simp [listed]
  next missing => simp [missing, eq_comm]

theorem expectedTask_eq_error_iff {error : FlowError} :
    standing.expectedTask tasks taskType = .error error ↔
      (standing.isActive = false ∧ error = .inactive standing.id) ∨
        (standing.isActive = true ∧ (tasks.activeOf standing.id taskType).length ≠ 1 ∧
          error =
            .task standing.process taskType (tasks.activeOf standing.id taskType).length) := by
  rw [expectedTask]
  cases active : standing.isActive with
  | false => simp [checkActive, active, bind, Except.bind, eq_comm]
  | true =>
    simp only [checkActive, active, if_pos, bind, Except.bind, Bool.true_eq_false, false_and,
      false_or, true_and]
    rcases tasks.activeOf standing.id taskType with _ | ⟨task, _ | ⟨other, others⟩⟩
    · simp [eq_comm]
    · simp
    · simp [eq_comm]

theorem currentTask_eq_error_iff {expected : List CaseStatus} {error : FlowError} :
    standing.currentTask tasks expected taskType = .error error ↔
      (standing.isActive = false ∧ error = .inactive standing.id) ∨
        (standing.isActive = true ∧ standing.status ∉ expected ∧
          error = .wrongState standing.id standing.status) ∨
        (standing.isActive = true ∧ standing.status ∈ expected ∧
          (tasks.activeOf standing.id taskType).length ≠ 1 ∧
          error =
            .task standing.process taskType (tasks.activeOf standing.id taskType).length) := by
  rw [currentTask]
  cases active : standing.isActive with
  | false => simp [checkActive, active, bind, Except.bind, eq_comm]
  | true =>
    by_cases stage : standing.status ∈ expected
    · simp [checkActive, checkStatus, active, stage, bind, Except.bind, expectedTask_eq_error_iff]
    · simp [checkActive, checkStatus, active, stage, bind, Except.bind, eq_comm]

/-- The look-ups of a process answer as its active tasks of the type are `found`: with the only one,
or else with their number. -/
structure Sees (standing : Standing) (tasks : TaskTable) (taskType : TaskType) (found : List Task) :
    Prop where
  active : tasks.activeOf standing.id taskType = found
  listed : (tasks.activeTypes standing.id).count taskType = found.length
  held : tasks.hasActive standing.id taskType = true ↔ found.length ≠ 0
  checked : standing.checkTask tasks taskType = .ok () ↔ found.length ≠ 0
  unchecked : ∀ error, standing.checkTask tasks taskType = .error error ↔
    found.length = 0 ∧ error = .task standing.process taskType 0
  expected : ∀ task, standing.expectedTask tasks taskType = .ok task ↔
    standing.isActive = true ∧ found = [task]
  unexpected : ∀ error, standing.expectedTask tasks taskType = .error error ↔
    (standing.isActive = false ∧ error = .inactive standing.id) ∨
      (standing.isActive = true ∧ found.length ≠ 1 ∧
        error = .task standing.process taskType found.length)
  current : ∀ states task, standing.currentTask tasks states taskType = .ok task ↔
    standing.isActive = true ∧ standing.status ∈ states ∧ found = [task]
  -- A process that is given up is reported first, then a wrong status, and the tasks last.
  uncurrent : ∀ states error, standing.currentTask tasks states taskType = .error error ↔
    (standing.isActive = false ∧ error = .inactive standing.id) ∨
      (standing.isActive = true ∧ standing.status ∉ states ∧
        error = .wrongState standing.id standing.status) ∨
      (standing.isActive = true ∧ standing.status ∈ states ∧ found.length ≠ 1 ∧
        error = .task standing.process taskType found.length)

theorem sees_activeOf (standing : Standing) (tasks : TaskTable) (taskType : TaskType) :
    standing.Sees tasks taskType (tasks.activeOf standing.id taskType) where
  active := rfl
  listed := TaskTable.count_activeTypes
  held := TaskTable.hasActive_iff_mem.trans TaskTable.mem_activeTypes_iff_length
  checked := checkTask_eq_ok_iff.trans TaskTable.mem_activeTypes_iff_length
  unchecked error := by
    rw [checkTask_eq_error_iff, TaskTable.mem_activeTypes_iff_length, Decidable.not_not]
  expected _ := expectedTask_eq_ok_iff
  unexpected _ := expectedTask_eq_error_iff
  current _ _ := currentTask_eq_ok_iff
  uncurrent _ _ := currentTask_eq_error_iff

/-- Whatever was created and ended before, in whichever order, the look-ups of any process answer
from the tasks that were created for it and not ended since. -/
theorem sees_unended (history : List TaskTable.Change) (standing : Standing)
    (taskType : TaskType) :
    standing.Sees (TaskTable.empty.changed history) taskType
      (TaskTable.unended 0 history standing.id taskType) := by
  have seen := standing.sees_activeOf (TaskTable.empty.changed history) taskType
  rwa [TaskTable.activeOf_after] at seen

end Standing

end Casework
