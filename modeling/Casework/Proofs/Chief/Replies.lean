import Casework.Proofs.Chief.Waits

set_option autoImplicit false

namespace Casework

open Calendar
open Numbered (number)
open Table (changeAt)

structure ChiefRequest.Answered (request closed : ChiefRequest) (status : ChiefRequestStatus)
    (errors : List ChiefResponseError) (now : Instant) : Prop where
  status : closed.status = status
  answered : closed.answered = some now
  errors : closed.errors = request.errors ++ errors
  id : closed.id = request.id
  processId : closed.processId = request.processId
  caseReference : closed.caseReference = request.caseReference
  payload : closed.payload = request.payload
  sent : closed.sent = request.sent

structure Task.Ended (task ended : Task) (now : Instant) : Prop where
  inactive : ended.isActive = false
  finished : ended.finished = some now
  id : ended.id = task.id
  processId : ended.processId = task.processId
  taskType : ended.taskType = task.taskType
  created : ended.created = task.created
  previous : ended.previous = task.previous
  owner : ended.owner = task.owner

def Exchanged {α : Type} (rows later : List α) (row changed : α) : Prop :=
  ∃ before behind, rows = before ++ row :: behind ∧ later = before ++ changed :: behind

/-- A reply closes the newest request of a case that awaits one and ends the only task that waits
for it. All other requests and tasks stay as they are, and `opened` follow the ended task. -/
structure Store.Settles (before after : Store) (id : Nat) (status : ChiefRequestStatus)
    (errors : List ChiefResponseError) (now : Instant) (opened : List Task) : Prop where
  request : ∃ request ∈ before.requestsOf id, request.status = .processing ∧
    (∀ other ∈ before.requestsOf id, other.status = .processing → other.id ≤ request.id) ∧
    ∃ closed, request.Answered closed status errors now ∧
      Exchanged before.requests.rows after.requests.rows request closed
  task : ∃ application, before.applications.find? id = some application ∧
    ∃ task, before.tasks.activeOf id
        (if application.status = .revoked then .chiefRevokeWait else .chiefWait) = [task] ∧
      (∀ new ∈ opened, new.previous = some task.id) ∧
      ∃ ended rows, task.Ended ended now ∧ Exchanged before.tasks.rows.rows rows task ended ∧
        after.tasks.rows.rows = rows ++ opened

theorem Table.exchanged_changeAt {α : Type} [Numbered α] {table : Table α} {row : α}
    (member : row ∈ table.rows) (change : α → α) :
    Exchanged table.rows (changeAt (number row) change table.rows) row (change row) := by
  obtain ⟨before, behind, split⟩ := List.append_of_mem member
  have increasing := table.increasing
  rw [split] at increasing
  obtain ⟨-, after, passed⟩ := List.pairwise_append.1 increasing
  have earlier : ∀ other ∈ before, number other ≠ number row := fun other other_mem =>
    Nat.ne_of_lt (passed other other_mem row List.mem_cons_self)
  have later : ∀ other ∈ behind, number other ≠ number row := fun other other_mem =>
    Nat.ne_of_gt ((List.pairwise_cons.1 after).1 other other_mem)
  refine ⟨before, behind, split, ?_⟩
  rw [split, changeAt, List.map_append, List.map_cons, if_pos rfl]
  exact congrArg₂ (· ++ change row :: ·) (changeAt_of_apart earlier) (changeAt_of_apart later)

theorem TaskTable.rows_create_finish {tasks : TaskTable}
    (below : ∀ task ∈ tasks.rows.rows, task.id ≤ tasks.lastId) (ended : Nat) (owner : Option Nat)
    (now : Instant) (processId : Nat) (taskType : TaskType) (previous : Option Nat) :
    ((tasks.finish ended owner now).create processId taskType previous now).rows.rows =
      (tasks.finish ended owner now).rows.rows ++
        [tasks.newTask processId taskType previous now] := by
  refine Table.rows_insert_newest fun earlier member => ?_
  rw [rows_finish] at member
  obtain ⟨row, stored, rfl⟩ := Table.mem_changeAt.1 member
  have bound : row.id < tasks.lastId + 1 := Nat.lt_succ_of_le (below row stored)
  split <;> exact bound

theorem ChiefRequest.answered_completed (now : Instant) (request : ChiefRequest) :
    request.Answered (request.completed now) .success [] now :=
  ⟨rfl, rfl, (List.append_nil _).symm, rfl, rfl, rfl, rfl, rfl⟩

theorem ChiefRequest.answered_failed (errors : List ChiefResponseError) (now : Instant)
    (request : ChiefRequest) : request.Answered (request.failed errors now) .error errors now :=
  ⟨rfl, rfl, rfl, rfl, rfl, rfl, rfl, rfl⟩

namespace Store

variable {store : Store} {id : Nat}

theorem awaitedRequest_newest {request : ChiefRequest}
    (awaited : store.awaitedRequest id = some request) :
    request ∈ store.requestsOf id ∧ request.status = .processing ∧
      ∀ other ∈ store.requestsOf id, other.status = .processing → other.id ≤ request.id := by
  obtain ⟨member, processing⟩ := List.mem_filter.1 (List.mem_of_getLast? awaited)
  refine ⟨member, beq_iff_eq.1 processing, fun other other_mem waiting => ?_⟩
  obtain ⟨earlier, split⟩ := List.getLast?_eq_some_iff.1 awaited
  have increasing := (store.requests.increasing.filter (·.processId == id)).filter
    (·.status == .processing)
  have listed : other ∈ (store.requestsOf id).filter (·.status == .processing) :=
    List.mem_filter.2 ⟨other_mem, by simp [waiting]⟩
  rw [← requestsOf, split] at increasing
  rw [split] at listed
  rcases List.mem_append.1 listed with before | last
  · exact Nat.le_of_lt ((List.pairwise_append.1 increasing).2.2 other before request
      (List.mem_singleton_self request))
  · exact Nat.le_of_eq (congrArg ChiefRequest.id (List.mem_singleton.1 last))

theorem exists_awaited (covered : store.waits id ≤ store.awaiting id) {status : CaseStatus}
    {task : Task} (only : store.tasks.activeOf id (awaitedReply status).2 = [task]) :
    ∃ request, store.awaitedRequest id = some request := by
  have waiting : store.waits id ≠ 0 := by
    unfold awaitedReply at only
    split at only <;> simp [waits, only]
  have awaits : store.awaiting id ≠ 0 := by omega
  exact exists_last_of_countP awaits

theorem awaitedRequest_congr {other : Store} (same : other.requests = store.requests) :
    other.awaitedRequest id = store.awaitedRequest id := by
  rw [awaitedRequest, awaitedRequest, requestsOf, requestsOf, same]

theorem Settles.of_writes {before after : Store} {application : Application} {task : Task}
    {request : ChiefRequest} {close : ChiefRequest → ChiefRequest} {status : ChiefRequestStatus}
    {errors : List ChiefResponseError} {now : Instant} {opened : List Task}
    (found : before.applications.find? id = some application)
    (only : before.tasks.activeOf id (awaitedReply application.status).2 = [task])
    (awaited : before.awaitedRequest id = some request)
    (requests : after.requests = before.requests.modify request.id close)
    (answered : ∀ request : ChiefRequest, request.Answered (close request) status errors now)
    (follow : ∀ new ∈ opened, new.previous = some task.id)
    (tasks : after.tasks.rows.rows =
      (before.tasks.finish task.id none now).rows.rows ++ opened) :
    before.Settles after id status errors now opened := by
  obtain ⟨member, processing, newest⟩ := awaitedRequest_newest awaited
  refine ⟨⟨request, member, processing, newest, close request, answered request, ?_⟩, application,
    found, task, ?_, follow, task.ended none now, _, ?_, ?_, tasks⟩
  · rw [requests, Table.rows_modify _ _ fun request => (answered request).id]
    exact Table.exchanged_changeAt (List.mem_filter.1 member).1 close
  · unfold awaitedReply at only
    split at only
    next revoked => rwa [if_pos revoked]
    next unrevoked => rwa [if_neg unrevoked]
  · exact ⟨rfl, rfl, rfl, rfl, rfl, rfl, rfl, rfl⟩
  · have waiting : task ∈ before.tasks.activeOf id (awaitedReply application.status).2 := by
      rw [only]
      exact List.mem_singleton_self task
    rw [TaskTable.rows_finish]
    exact Table.exchanged_changeAt
      (List.mem_filter.1 (List.mem_filter.1 (List.mem_filter.1 waiting).1).1).1 _

end Store

namespace Work

variable {id : Nat} {context : Context} {desk after : Desk}

theorem finishWait_ran {application : Application} {task : Task}
    (found : desk.store.applications.find? id = some application)
    (ran : finishWait application context desk = (.ok task, after)) :
    desk.store.tasks.activeOf id (awaitedReply application.status).2 = [task] ∧
      after = { desk with
        store := { desk.store with
          tasks := desk.store.tasks.finish task.id none context.now } } := by
  have same : application.id = id := (Table.find?_eq_some_iff.1 found).2
  simp only [finishWait, bind_eq_ok_iff, currentTask_eq_ok_iff, finishTask_run, pure_run,
    Prod.mk.injEq, Except.ok.injEq, same, found, Option.some.injEq] at ran
  obtain ⟨_, _, ⟨⟨_, rfl, checked⟩, rfl⟩, _, _, ⟨-, rfl⟩, rfl, rfl⟩ := ran
  obtain ⟨-, -, only⟩ := Standing.currentTask_eq_ok_iff.1 checked
  exact ⟨same ▸ only, rfl⟩

theorem answerRequest_ran {answer : Nat → Work Unit} {value : Unit} {request : ChiefRequest}
    (ran : answerRequest id answer context desk = (.ok value, after))
    (awaited : desk.store.awaitedRequest id = some request) :
    answer request.id context desk = (.ok value, after) := by
  simp only [answerRequest, bind_eq_ok_iff, read_run, Prod.mk.injEq, Except.ok.injEq] at ran
  obtain ⟨_, _, ⟨rfl, rfl⟩, ran⟩ := ran
  rwa [awaited] at ran

theorem issueDraft_keeps {application : Application} {answer : Nat}
    (ran : issueDraft application context desk = (.ok answer, after)) :
    after.store.tasks = desk.store.tasks ∧ after.store.requests = desk.store.requests := by
  simp only [issueDraft, bind_eq_ok_iff, findDraft_eq_ok_iff, ask_eq_ok_iff, now_run,
    Prod.mk.injEq] at ran
  obtain ⟨draft, _, ⟨-, rfl⟩, earlier, _, ⟨-, rfl⟩, _, _, ⟨-, rfl⟩, ran⟩ := ran
  cases earlier with
  | none =>
    simp only [bind_eq_ok_iff, changePack_run, pure_run, Prod.mk.injEq] at ran
    obtain ⟨_, _, ⟨-, rfl⟩, -, rfl⟩ := ran
    exact ⟨rfl, rfl⟩
  | some pack =>
    simp only [bind_eq_ok_iff, changePack_run, pure_run, Prod.mk.injEq] at ran
    obtain ⟨_, _, ⟨-, rfl⟩, _, _, ⟨-, rfl⟩, -, rfl⟩ := ran
    exact ⟨rfl, rfl⟩

theorem approveLicence_settles (covered : desk.store.waits id ≤ desk.store.awaiting id)
    {answer : Unit} (ran : approveLicence id context desk = (.ok answer, after)) :
    desk.store.Settles after.store id .success [] context.now [] := by
  simp only [approveLicence, bind_eq_ok_iff, enter_eq_ok_iff, findApplication_eq_ok_iff] at ran
  obtain ⟨_, _, ⟨-, rfl⟩, application, _, ⟨found, rfl⟩, task, _, waited, ran⟩ := ran
  obtain ⟨only, rfl⟩ := finishWait_ran found waited
  obtain ⟨request, awaited⟩ := Store.exists_awaited covered only
  by_cases revoked : application.status = .revoked
  · simp only [revoked, if_pos, bind_eq_ok_iff] at ran
    obtain ⟨_, _, answered, saved⟩ := ran
    obtain ⟨-, rfl⟩ := save_eq_ok_iff.1 saved
    cases answerRequest_ran answered awaited
    exact .of_writes found only awaited rfl (ChiefRequest.answered_completed context.now)
      (fun _ none => absurd none List.not_mem_nil) (List.append_nil _).symm
  · simp only [revoked, if_false, bind_eq_ok_iff, now_run, Prod.mk.injEq, Except.ok.injEq] at ran
    obtain ⟨_, _, ⟨rfl, rfl⟩, _, between, issued, _, _, answered, saved⟩ := ran
    obtain ⟨-, rfl⟩ := save_eq_ok_iff.1 saved
    obtain ⟨tasks, requests⟩ := issueDraft_keeps issued
    -- What is issued does not change which request the reply answers.
    cases answerRequest_ran answered ((Store.awaitedRequest_congr requests).trans awaited)
    have closed : between.store.requests.modify request.id (·.completed context.now) =
        desk.store.requests.modify request.id (·.completed context.now) := by rw [requests]
    refine .of_writes found only awaited closed (ChiefRequest.answered_completed context.now)
      (fun _ none => absurd none List.not_mem_nil) ?_
    rw [List.append_nil]
    exact congrArg (·.rows.rows) tasks

theorem rejectLicence_settles (sound : desk.store.Sound)
    (covered : desk.store.waits id ≤ desk.store.awaiting id) {errors : List ChiefResponseError}
    {answer : Unit} (ran : rejectLicence id errors context desk = (.ok answer, after)) :
    ∃ opened : Task, opened.processId = id ∧ opened.taskType = .chiefError ∧
      opened.isActive = true ∧
      desk.store.Settles after.store id .error errors context.now [opened] := by
  simp only [rejectLicence, bind_eq_ok_iff, enter_eq_ok_iff, findApplication_eq_ok_iff,
    createTask_run, Prod.mk.injEq] at ran
  obtain ⟨_, _, ⟨-, rfl⟩, application, _, ⟨found, rfl⟩, task, _, waited, _, _, ⟨-, rfl⟩,
    answered⟩ := ran
  obtain ⟨only, rfl⟩ := finishWait_ran found waited
  obtain ⟨request, awaited⟩ := Store.exists_awaited covered only
  cases answerRequest_ran answered awaited
  refine ⟨_, rfl, rfl, rfl, .of_writes found only awaited rfl
    (ChiefRequest.answered_failed errors context.now) (fun new member => ?_)
    (TaskTable.rows_create_finish (fun row stored => (sound.tasks row stored).1) task.id none
      context.now id _ _)⟩
  rw [List.mem_singleton.1 member]
  rfl

end Work

namespace System

variable {system : System} {step : Step} {id : Nat}

theorem Takes.store_after (taken : system.Takes step) : ∃ answer desk,
    step.operation.work (step.setting.around system) ⟨system.store, system.accepted⟩ =
      (.ok answer, desk) ∧ (system.after step).store = desk.store := by
  obtain ⟨answer, desk, ran⟩ := taken.ran
  exact ⟨answer, desk, ran, by rw [after, perform_of_ok ran]⟩

theorem covered (steps : List Step) (id : Nat) :
    (initial.follow steps).store.waits id ≤ (initial.follow steps).store.awaiting id := by
  cases found : (initial.follow steps).store.fileOf id with
  | none =>
    have idle := (sound_follow steps).ofProcess_unstored found
    simp [Store.waits, TaskTable.activeOf, TaskTable.active, idle]
  | some file =>
    rw [Store.waits_eq found, Store.awaiting_eq found]
    exact CaseFile.covered steps found

def count (event : System → Step → Bool) (system : System) : List Step → Nat
  | [] => 0
  | step :: rest => (if event system step then 1 else 0) + (system.after step).count event rest

def isAnswered (id : Nat) (system : System) (step : Step) : Bool :=
  (system.perform step.setting step.operation).1.isOk && step.operation.role id == .reply

def isHandedOver (id : Nat) (system : System) (step : Step) : Bool :=
  (system.perform step.setting step.operation).1.isOk && step.operation.role id == .sending &&
    (system.after step).store.waits id == system.store.waits id + 1

theorem count_append (event : System → Step → Bool) (steps : List Step) (step : Step) :
    system.count event (steps ++ [step]) =
      system.count event steps + if event (system.follow steps) step then 1 else 0 := by
  induction steps generalizing system with
  | nil => exact Nat.add_comm _ _
  | cons first rest ih =>
    rw [List.cons_append, count, count, ih, Nat.add_assoc]
    rfl

theorem isOk_of_takes (taken : system.Takes step) :
    (system.perform step.setting step.operation).1.isOk = true := by
  obtain ⟨answer, taken⟩ := taken
  rw [taken]
  rfl

theorem Moves.counted {steps : List Step} {before after : CaseFile}
    (moves : (initial.follow steps).Moves step id before after) :
    before.awaiting + (if isHandedOver id (initial.follow steps) step then 1 else 0) =
      after.awaiting + if isAnswered id (initial.follow steps) step then 1 else 0 := by
  have succeeded := isOk_of_takes moves.takes
  rw [isHandedOver, isAnswered, succeeded, Store.waits_eq moves.found, Store.waits_eq moves.becomes]
  cases moves.exchange with
  | quiet role awaiting waits => rcases role with role | role <;> simp [role, awaiting, waits]
  | sent role awaiting waits => simp [role, awaiting, waits]
  | answered role awaiting waits => simp [role, awaiting]
  | givenUp role awaiting waits => simp [role, awaiting]

theorem unmoved (sound : system.store.Sound)
    (unmoved : ¬ ∃ before after, system.Moves step id before after) :
    isHandedOver id system step = false ∧ isAnswered id system step = false := by
  have bystander : (system.perform step.setting step.operation).1.isOk = true →
      step.operation.role id = .bystander := fun succeeded => by
    by_contra role
    exact unmoved ((takes_of_isOk succeeded).moves sound (Operation.subject_of_role role))
  rw [isHandedOver, isAnswered]
  cases succeeded : (system.perform step.setting step.operation).1.isOk with
  | false => simp
  | true => simp [bystander succeeded]

theorem handed_over_eq (steps : List Step) (id : Nat) :
    initial.count (isHandedOver id) steps = initial.count (isAnswered id) steps +
      ((initial.follow steps).store.fileOf id).elim 0 CaseFile.awaiting := by
  induction steps using List.reverseRecOn with
  | nil => rfl
  | append_singleton steps step ih =>
    rw [count_append, count_append, follow_append]
    by_cases moved : ∃ before after, (initial.follow steps).Moves step id before after
    · obtain ⟨before, after, moves⟩ := moved
      have counted := moves.counted
      rw [moves.found] at ih
      rw [moves.becomes]
      simp only [Option.elim_some] at ih ⊢
      omega
    · obtain ⟨unsent, unanswered⟩ := unmoved (sound_follow steps) moved
      rw [unsent, unanswered, ih]
      rcases file_after (sound_follow steps) step id with
        same | ⟨_, _, _, _, -, -, missing, created⟩ | ⟨file, stored, new, removed⟩ | moves
      · rw [same]
        rfl
      · rw [missing, created]
        rfl
      · rw [stored, removed]
        have unsent := ((CaseFile.staged steps stored).unsent new).1
        simp [unsent]
      · exact absurd moves moved

end System

/-- A reply that succeeds closes exactly the newest request of the case that awaits one and ends
exactly the one task that waits for it, and a case has had no more replies than sendings. -/
theorem replies_settle (steps : List Step) (id : Nat) :
    (∀ setting, (System.initial.follow steps).Takes ⟨setting, .approveLicence id⟩ →
      (System.initial.follow steps).store.Settles
        ((System.initial.follow steps).after ⟨setting, .approveLicence id⟩).store id .success []
        setting.now []) ∧
    (∀ setting errors, (System.initial.follow steps).Takes ⟨setting, .rejectLicence id errors⟩ →
      ∃ opened : Task, opened.processId = id ∧ opened.taskType = .chiefError ∧
        opened.isActive = true ∧
        (System.initial.follow steps).store.Settles
          ((System.initial.follow steps).after ⟨setting, .rejectLicence id errors⟩).store id
          .error errors setting.now [opened]) ∧
    System.initial.count (System.isAnswered id) steps ≤
      System.initial.count (System.isHandedOver id) steps := by
  have covered := System.covered steps id
  refine ⟨fun setting taken => ?_, fun setting errors taken => ?_, ?_⟩
  · obtain ⟨answer, desk, ran, same⟩ := taken.store_after
    obtain ⟨_, approved, -⟩ := Work.map_eq_ok_iff.1 ran
    rw [same]
    exact Work.approveLicence_settles covered approved
  · obtain ⟨answer, desk, ran, same⟩ := taken.store_after
    obtain ⟨_, rejected, -⟩ := Work.map_eq_ok_iff.1 ran
    rw [same]
    exact Work.rejectLicence_settles (System.sound_follow steps) covered rejected
  · rw [System.handed_over_eq]
    exact Nat.le_add_right _ _

namespace Sample

def waiting : List Step := handedOver.map (step false)

def accepting : Step := step false (.approveLicence 1)

def rejecting : Step := step false (.rejectLicence 1 [⟨"27", "unknown trader"⟩])

theorem waiting_approved : (System.initial.follow waiting).Takes accepting :=
  System.takes_of_isOk (by decide +kernel)

theorem waiting_rejected : (System.initial.follow waiting).Takes rejecting :=
  System.takes_of_isOk (by decide +kernel)

end Sample

theorem waiting_settled :
    (System.initial.follow Sample.waiting).store.Settles
        ((System.initial.follow Sample.waiting).after Sample.accepting).store 1 .success []
        Sample.accepting.setting.now [] ∧
      (∃ opened : Task, opened.processId = 1 ∧ opened.taskType = .chiefError ∧
        opened.isActive = true ∧
        (System.initial.follow Sample.waiting).store.Settles
          ((System.initial.follow Sample.waiting).after Sample.rejecting).store 1
          .error [⟨"27", "unknown trader"⟩] Sample.rejecting.setting.now [opened]) ∧
      System.initial.count (System.isHandedOver 1)
        (Sample.waiting ++ [Sample.accepting, Sample.accepting]) = 1 ∧
      System.initial.count (System.isAnswered 1)
        (Sample.waiting ++ [Sample.accepting, Sample.accepting]) ≤ 1 := by
  obtain ⟨approves, rejects, -⟩ := replies_settle Sample.waiting 1
  obtain ⟨-, -, bound⟩ := replies_settle (Sample.waiting ++ [Sample.accepting, Sample.accepting]) 1
  have once : System.initial.count (System.isHandedOver 1)
      (Sample.waiting ++ [Sample.accepting, Sample.accepting]) = 1 := by decide +kernel
  exact ⟨approves _ Sample.waiting_approved, rejects _ _ Sample.waiting_rejected, once,
    once ▸ bound⟩

end Casework
