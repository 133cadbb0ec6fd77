import Casework.Proofs.Document.Created
import Casework.Proofs.Packs.Life

set_option autoImplicit false

namespace Casework

open Calendar
open Table (changeAt)
open Numbered (number)

namespace Task

inductive Next (task : Task) : Task → Prop where
  | same : task.Next task
  | ended (active : task.isActive = true) (owner : Option Nat) (now : Instant) :
      task.Next (task.ended owner now)

/-- A task is active until it has a time at which it ended, and has no owner before. -/
structure Dated (task : Task) : Prop where
  active : task.isActive = true ↔ task.finished = none
  unowned : task.isActive = true → task.owner = none

/-- The other task is what may have become of the task: what it was opened with stays, and all of it
once it has ended. -/
structure Lasts (task other : Task) : Prop where
  id : other.id = task.id
  process : other.processId = task.processId
  taskType : other.taskType = task.taskType
  created : other.created = task.created
  previous : other.previous = task.previous
  settled : task.isActive = false → other = task

variable {task other third : Task}

theorem Lasts.refl (task : Task) : task.Lasts task :=
  ⟨rfl, rfl, rfl, rfl, rfl, fun _ => rfl⟩

theorem Lasts.trans (first : task.Lasts other) (second : other.Lasts third) :
    task.Lasts third where
  id := second.id.trans first.id
  process := second.process.trans first.process
  taskType := second.taskType.trans first.taskType
  created := second.created.trans first.created
  previous := second.previous.trans first.previous
  settled ended := by
    have same := first.settled ended
    subst same
    exact second.settled ended

theorem Next.lasts (next : task.Next other) : task.Lasts other := by
  cases next with
  | same => exact .refl task
  | ended active =>
    refine ⟨rfl, rfl, rfl, rfl, rfl, fun idle => ?_⟩
    rw [active] at idle
    cases idle

theorem Next.dated (next : task.Next other) (dated : task.Dated) : other.Dated := by
  cases next with
  | same => exact dated
  | ended => exact ⟨by simp [Task.ended], by simp [Task.ended]⟩

end Task

namespace CaseFile

variable {file after : CaseFile} {task : Task} {taskType : TaskType} {id new : Nat}
  {owner : Option Nat} {now : Instant} {added : List Task}

def Follows (file : CaseFile) (task : Task) : Prop :=
  ∀ id, task.previous = some id → id < task.id ∧ ∃ earlier ∈ file.tasks, earlier.id = id

structure Opens (file : CaseFile) (task : Task) : Prop where
  dated : task.Dated
  follows : file.Follows task

def Pursues (file after : CaseFile) : Prop :=
  ∃ (change : Task → Task) (added : List Task), after.tasks = file.tasks.map change ++ added ∧
    (∀ task ∈ file.tasks, task.Next (change task)) ∧ ∀ task ∈ added, file.Opens task

theorem opens_first (new id : Nat) (taskType : TaskType) (now : Instant) :
    file.Opens (.opened new id taskType none now) :=
  ⟨⟨by simp [Task.opened], fun _ => rfl⟩, by simp [Follows, Task.opened]⟩

theorem opens_after (fresh : ∀ task ∈ file.tasks, task.id < new) (member : task ∈ file.tasks)
    (id : Nat) (taskType : TaskType) (now : Instant) :
    file.Opens (.opened new id taskType (some task.id) now) := by
  refine ⟨⟨by simp [Task.opened], fun _ => rfl⟩, fun earlier named => ?_⟩
  have same : task.id = earlier := Option.some.inj named
  exact ⟨same ▸ fresh task member, task, member, same⟩

theorem ensureTask_tasks (file : CaseFile) (task : Task) :
    (file.ensureTask task).tasks = file.tasks ∨
      (file.ensureTask task).tasks = file.tasks ++ [task] := by
  unfold ensureTask
  split
  · exact .inr rfl
  · exact .inl rfl

theorem pursues_added (opens : ∀ task ∈ added, file.Opens task)
    (tasks : after.tasks = file.tasks ++ added) : file.Pursues after :=
  ⟨fun task => task, added, by rw [tasks, List.map_id'], fun _ _ => .same, opens⟩

theorem pursues_same (same : after.tasks = file.tasks) : file.Pursues after :=
  pursues_added (by simp) (same.trans (List.append_nil _).symm)

theorem pursues_opened (opens : file.Opens task) (tasks : after.tasks = file.tasks ++ [task]) :
    file.Pursues after :=
  pursues_added (by simpa using opens) tasks

theorem pursues_ended (ordered : file.Ordered)
    (only : file.tasks.filter (Task.isOpen taskType) = [task])
    (opens : ∀ task ∈ added, file.Opens task)
    (tasks : after.tasks = (file.finish task.id owner now).tasks ++ added) :
    file.Pursues after := by
  obtain ⟨member, isOpen⟩ := mem_of_only only
  have active : task.isActive = true := (Bool.and_eq_true_iff.1 isOpen).1
  refine ⟨fun row => if number row = task.id then row.ended owner now else row, added, tasks,
    fun row row_mem => ?_, opens⟩
  by_cases same : number row = task.id
  · let table : Table Task := ⟨file.tasks, ordered.tasks⟩
    cases table.eq_of_number_eq row_mem member same
    simpa only [same, if_true] using .ended active owner now
  · simpa only [if_neg same] using .same

theorem pursues_finished (ordered : file.Ordered)
    (only : file.tasks.filter (Task.isOpen taskType) = [task])
    (tasks : after.tasks = (file.finish task.id owner now).tasks) : file.Pursues after :=
  pursues_ended ordered only (by simp) (tasks.trans (List.append_nil _).symm)

theorem pursues_replaced (ordered : file.Ordered)
    (only : file.tasks.filter (Task.isOpen taskType) = [task])
    (fresh : ∀ task ∈ file.tasks, task.id < new) {next : TaskType} {opened : Instant}
    (tasks : after.tasks = (file.finish task.id owner now).tasks ++
      [.opened new id next (some task.id) opened]) : file.Pursues after := by
  have opens := opens_after fresh (mem_of_only only).1 id next opened
  exact pursues_ended ordered only (by simpa using opens) tasks

theorem pursues_cleared (tasks : after.tasks = (file.finishAll now).tasks) :
    file.Pursues after := by
  refine ⟨fun task => if task.isActive then task.ended none now else task, [], ?_,
    fun task _ => ?_, by simp⟩
  · rw [tasks, List.append_nil]
    rfl
  · by_cases active : task.isActive = true
    · simpa only [if_pos active] using .ended active none now
    · simpa only [if_neg active] using .same

end CaseFile

section Moves

open CaseFile

variable {context : Context} {id : Nat} {operation : Operation} {file after : CaseFile}

theorem Move.pursues (ordered : file.Ordered) (move : Move context id operation file after) :
    file.Pursues after := by
  cases move with
  | edit | startLicence | editLicence | revoke => exact pursues_same rfl
  | @submit _ _ user task new _ _ _ _ only _ _ fresh =>
    -- The caseworker's task may be open already.
    rcases ensureTask_tasks (file.finish task.id (some user.id) context.now)
      (.opened new id .process (some task.id) context.now) with same | tasks
    · exact pursues_finished ordered only same
    · exact pursues_replaced ordered only fresh tasks
  | refuseVariation _ current => exact pursues_finished ordered current.only rfl
  | refuse _ current _ _ _ _ fresh => exact pursues_replaced ordered current.only fresh rfl
  | approve _ current _ _ _ _ fresh => exact pursues_replaced ordered current.only fresh rfl
  | authoriseDocuments _ current fresh | failSigning _ current fresh
  | retrySigning _ current fresh => exact pursues_replaced ordered current.only fresh rfl
  | sendDocuments _ current _ _ fresh => exact pursues_replaced ordered current.only fresh rfl
  | issueDocuments _ current =>
    exact pursues_finished ordered current.only ((put_tasks _ _).trans (issue_tasks _ _ _ _ _))
  | acceptWithdrawal | stop => exact pursues_cleared rfl
  | @rejectWithdrawal _ _ _ _ new =>
    rcases ensureTask_tasks file (.opened new id .process none context.now) with same | tasks
    · exact pursues_same same
    · exact pursues_opened (opens_first _ _ _ _) tasks
  | reopen | requestVariation | revokeAtChief => exact pursues_opened (opens_first _ _ _ _) rfl
  | addUpdateRequest _ current _ fresh =>
    exact pursues_opened (opens_after fresh (mem_of_only current.only).1 _ _ _) rfl
  | withdrawUpdateRequest _ _ _ _ only => exact pursues_finished ordered only rfl
  | approveLicence current =>
    exact pursues_finished ordered current.only ((answer_tasks _ _).trans (issue_tasks _ _ _ _ _))
  | approveRevocation current => exact pursues_finished ordered current.only (answer_tasks _ _)
  | rejectLicence current fresh =>
    exact pursues_replaced ordered current.only fresh (answer_tasks _ _)
  | resendLicence current _ fresh => exact pursues_replaced ordered current.only fresh rfl
  | revertLicence current fresh => exact pursues_replaced ordered current.only fresh rfl

end Moves

namespace CaseFile

structure TasksLinked (file : CaseFile) : Prop where
  dated : ∀ task ∈ file.tasks, task.Dated
  follows : ∀ task ∈ file.tasks, file.Follows task

theorem Pursues.linked {file after : CaseFile} (pursues : file.Pursues after)
    (linked : file.TasksLinked) : after.TasksLinked := by
  obtain ⟨change, added, tasks, goes_on, opens⟩ := pursues
  have kept : ∀ task ∈ file.tasks, ∃ other ∈ after.tasks, other.id = task.id := by
    intro task member
    refine ⟨change task, ?_, (goes_on task member).lasts.id⟩
    rw [tasks]
    exact List.mem_append_left _ (List.mem_map_of_mem member)
  have follows : ∀ {task other : Task}, file.Follows task → other.previous = task.previous →
      other.id = task.id → after.Follows other := by
    intro task other before previous same number named
    obtain ⟨below, earlier, member, rfl⟩ := before number (previous.symm.trans named)
    exact ⟨same ▸ below, kept earlier member⟩
  constructor
  · intro task member
    rw [tasks, List.mem_append, List.mem_map] at member
    rcases member with ⟨was, was_mem, rfl⟩ | member
    · exact (goes_on was was_mem).dated (linked.dated was was_mem)
    · exact (opens task member).dated
  · intro task member
    rw [tasks, List.mem_append, List.mem_map] at member
    rcases member with ⟨was, was_mem, rfl⟩ | member
    · have lasts := (goes_on was was_mem).lasts
      exact follows (linked.follows was was_mem) lasts.previous lasts.id
    · exact follows (opens task member).follows rfl rfl

theorem tasks_linked (steps : List Step) {id : Nat} {file : CaseFile}
    (found : (System.initial.follow steps).store.fileOf id = some file) : file.TasksLinked := by
  refine file_invariant (fun _ _ file => file.TasksLinked) ?_ ?_ ?_ steps found
  · intro _ step id draft task pack
    have opens : (CaseFile.started (NewApplication.toApplication draft id step.setting.now) task
        pack step.setting.now).Opens (.opened task id .prepare none step.setting.now) :=
      opens_first _ _ _ _
    constructor <;> intro found member <;> rw [List.mem_singleton.1 member]
    · exact opens.dated
    · exact opens.follows
  · exact fun _ _ _ _ linked => linked
  · exact fun _ _ _ _ _ moves linked => (moves.move.pursues moves.ordered).linked linked

end CaseFile

namespace Store

theorem Sound.exists_case {store : Store} (sound : store.Sound) {task : Task}
    (stored : task ∈ store.tasks.rows.rows) :
    ∃ file, store.fileOf task.processId = some file ∧ task ∈ file.tasks := by
  have owned := (sound.tasks task stored).2
  rw [← fileOf_isSome_iff] at owned
  obtain ⟨file, found⟩ := Option.isSome_iff_exists.1 owned
  exact ⟨file, found, (mem_tasks_iff found).2 ⟨stored, rfl⟩⟩

end Store

namespace System

variable (steps : List Step) {task : Task}

theorem task_after (step : Step)
    (stored : task ∈ (initial.follow steps).store.tasks.rows.rows) :
    (initial.follow steps).Cancels step task.processId ∨
      ∃ next ∈ ((initial.follow steps).after step).store.tasks.rows.rows, task.Next next := by
  have sound := sound_follow steps
  obtain ⟨file, found, member⟩ := sound.exists_case stored
  rcases case_after sound step found with same | ⟨-, gone⟩ | ⟨after, moves⟩
  · exact .inr ⟨task, ((Store.mem_tasks_iff same).1 member).1, .same⟩
  · exact .inl (cancels_of_gone sound found gone)
  · obtain ⟨change, added, tasks, goes_on, -⟩ := moves.move.pursues moves.ordered
    have next_mem : change task ∈ after.tasks := by
      rw [tasks]
      exact List.mem_append_left _ (List.mem_map_of_mem member)
    exact .inr ⟨change task, ((Store.mem_tasks_iff moves.becomes).1 next_mem).1,
      goes_on task member⟩

/-- What has become of a task: it lasts, or it lasted until its case was cancelled, which was still
new, and from then on no task has its number. -/
def Preserves (steps later : List Step) (task : Task) : Prop :=
  (∃ kept ∈ (initial.follow (steps ++ later)).store.tasks.rows.rows, task.Lasts kept) ∨
    ∃ before step rest, later = before ++ step :: rest ∧
      (∃ kept ∈ (initial.follow (steps ++ before)).store.tasks.rows.rows, task.Lasts kept) ∧
      (initial.follow (steps ++ before)).Cancels step task.processId ∧
      ∀ further, (initial.follow (steps ++ before ++ step :: further)).store.tasks.find? task.id =
        none

theorem Cancels.find?_task {step : Step}
    (cancels : (initial.follow steps).Cancels step task.processId)
    (stored : task ∈ (initial.follow steps).store.tasks.rows.rows) :
    ((initial.follow steps).after step).store.tasks.find? task.id = none := by
  obtain ⟨takes, ⟨_, named⟩, -, -⟩ := cancels
  refine Option.eq_none_iff_forall_ne_some.2 fun found looked => ?_
  obtain ⟨member, same⟩ := Table.find?_eq_some_iff.1 looked
  rw [removes_of_cancels takes named] at member
  obtain ⟨member, foreign⟩ := List.mem_filter.1 member
  rw [Table.eq_of_number_eq member stored same] at foreign
  simp at foreign

theorem Cancels.gone_for_good {step : Step}
    (cancels : (initial.follow steps).Cancels step task.processId)
    (stored : task ∈ (initial.follow steps).store.tasks.rows.rows) (further : List Step) :
    (initial.follow (steps ++ step :: further)).store.tasks.find? task.id = none := by
  have gone := cancels.find?_task steps stored
  rw [← follow_append] at gone
  -- The number has been given out, so no other task takes it.
  have given := ((sound_follow steps).tasks task stored).1
  have counted := (extends_follow steps [step]).tasks.counter
  have extended := (extends_follow (steps ++ [step]) further).tasks
  rw [List.append_assoc] at extended
  exact extended.find?_eq_none (Nat.le_trans given counted) gone

theorem preserves_follow (later : List Step)
    (stored : task ∈ (initial.follow steps).store.tasks.rows.rows) :
    Preserves steps later task := by
  induction later using List.reverseRecOn with
  | nil =>
    rw [Preserves, List.append_nil]
    exact .inl ⟨task, stored, .refl task⟩
  | append_singleton later step ih =>
    rcases ih with ⟨kept, kept_mem, lasts⟩ | ⟨before, cancel, rest, rfl, gone⟩
    · rcases task_after (steps ++ later) step kept_mem with cancels | ⟨next, next_mem, goes_on⟩
      · have gone := cancels.gone_for_good (steps ++ later) kept_mem
        rw [lasts.process] at cancels
        rw [lasts.id] at gone
        exact .inr ⟨later, step, [], rfl, ⟨kept, kept_mem, lasts⟩, cancels, gone⟩
      · rw [← follow_append, List.append_assoc] at next_mem
        exact .inl ⟨next, next_mem, lasts.trans goes_on.lasts⟩
    · exact .inr ⟨before, cancel, rest ++ [step], by simp, gone⟩

end System

/-- The tasks of all cases are a history that only grows. A task is active exactly as long as it has
no time at which it ended, and has no owner before. What it was opened with never changes, nor does
anything once it has ended, and it goes only when its case is cancelled, which then is a new one. -/
theorem tasks_append_only (steps : List Step) {task : Task}
    (stored : task ∈ (System.initial.follow steps).store.tasks.rows.rows) :
    task.Dated ∧ ∀ later, System.Preserves steps later task := by
  obtain ⟨file, found, member⟩ := (System.sound_follow steps).exists_case stored
  exact ⟨(CaseFile.tasks_linked steps found).dated task member,
    fun later => System.preserves_follow steps later stored⟩

namespace Sample

def begun : List Step := (certificate.take 1).map (step false)

def handedIn : List Step := (certificate.drop 1).map (step false)

def cancelled : List Step := [step false (.cancel .exporting 1)]

theorem begun_stored :
    ∃ task ∈ (System.initial.follow begun).store.tasks.rows.rows, task.isActive = true ∧
      (∃ ended ∈ (System.initial.follow (begun ++ handedIn)).store.tasks.rows.rows,
        ended.id = task.id ∧ ended.isActive = false ∧ ended.owner = some user.id) ∧
      (System.initial.follow (begun ++ cancelled)).store.tasks.rows.rows = [] := by
  decide +kernel

end Sample

theorem begun_history :
    ∃ task ∈ (System.initial.follow Sample.begun).store.tasks.rows.rows, task.finished = none ∧
      (∃ ended ∈ (System.initial.follow (Sample.begun ++ Sample.handedIn)).store.tasks.rows.rows,
        task.Lasts ended ∧ ended.isActive = false ∧ ended.owner = some Sample.user.id) ∧
      (System.initial.follow Sample.begun).Cancels (Sample.step false (.cancel .exporting 1))
        task.processId := by
  obtain ⟨task, stored, active, ⟨ended, ended_mem, same, idle, owned⟩, emptied⟩ :=
    Sample.begun_stored
  obtain ⟨dated, preserved⟩ := tasks_append_only Sample.begun stored
  refine ⟨task, stored, dated.active.1 active, ⟨ended, ended_mem, ?_, idle, owned⟩, ?_⟩
  · rcases preserved Sample.handedIn with ⟨kept, kept_mem, lasts⟩ | ⟨_, _, rest, named, -, -, gone⟩
    · rwa [Table.eq_of_number_eq ended_mem kept_mem (same.trans lasts.id.symm)]
    · have absent := gone rest
      rw [List.append_assoc, ← named] at absent
      rw [TaskTable.find?, Table.find?_eq_some_iff.2 ⟨ended_mem, same⟩] at absent
      cases absent
  · rcases preserved Sample.cancelled with
      ⟨kept, kept_mem, -⟩ | ⟨before, _, _, named, -, cancels, -⟩
    · rw [emptied] at kept_mem
      cases kept_mem
    · cases before with
      | nil =>
        cases named
        rwa [List.append_nil] at cancels
      | cons head before => simp [Sample.cancelled] at named

end Casework
