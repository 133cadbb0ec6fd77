import Casework.Proofs.Case.Failures
import Casework.Proofs.Case.Stages
import Casework.Proofs.Packs.Lookups

set_option autoImplicit false

namespace Casework

open Calendar

namespace Work

variable {α β : Type} {context : Context} {desk : Desk}

def Succeeds (work : Work α) (context : Context) (desk : Desk) : Prop :=
  ∃ value after, work context desk = (.ok value, after)

theorem Succeeds.bind {first : Work α} {next : α → Work β}
    (before : first.Succeeds context desk)
    (rest : ∀ value between, first context desk = (.ok value, between) →
      (next value).Succeeds context between) : (first >>= next).Succeeds context desk := by
  obtain ⟨value, between, ran⟩ := before
  obtain ⟨answer, after, finished⟩ := rest value between ran
  exact ⟨answer, after, bind_eq_ok_iff.2 ⟨value, between, ran, finished⟩⟩

theorem then_ok {first : Work α} {next : α → Work β} {value : α} {between : Desk}
    (ran : first context desk = (.ok value, between))
    (rest : (next value).Succeeds context between) : (first >>= next).Succeeds context desk := by
  refine .bind ⟨value, between, ran⟩ fun _ _ same => ?_
  cases ran.symm.trans same
  exact rest

theorem then_required {condition : Bool} {failure : CaseError} {next : Unit → Work β}
    (holds : condition = true) (rest : (next ()).Succeeds context desk) :
    (require condition failure >>= next).Succeeds context desk :=
  have required : require condition failure context desk = (.ok (), desk) :=
    require_eq_ok_iff.2 ⟨holds, rfl⟩
  then_ok required rest

theorem then_checked {application : Application} {expected : List CaseStatus}
    {next : Unit → Work β} (stage : application.status ∈ expected)
    (rest : (next ()).Succeeds context desk) :
    ((checkFlow fun _ => application.standing.checkStatus expected) >>= next).Succeeds context
      desk :=
  have checked : application.standing.checkStatus expected = .ok () :=
    Standing.checkStatus_eq_ok_iff.2 stage
  then_ok (checkFlow_eq_ok_iff.2 ⟨checked, rfl⟩) rest

section Case

variable {start : Store} {id : Nat} {file : CaseFile}

theorem succeeds_saved (held : Replaces start id file desk.store) {application : Application}
    (same : application.id = id) : (saved application).Succeeds context desk := by
  have stored : desk.store.applications.contains application.id = true := by
    rw [same, held.stored]
  exact ⟨application, _, saved_eq_ok_iff.2 ⟨rfl, save_eq_ok_iff.2 ⟨stored, rfl⟩⟩⟩

theorem succeeds_firstDraft (application : Application) :
    (createDraft application false).Succeeds context desk := by
  unfold createDraft initialTerms
  split <;> exact ⟨_, _, rfl⟩

variable (found : desk.store.fileOf id = some file) (available : context.available = true)
include found available

theorem load_ok :
    load file.application.caseType id context desk = (.ok file.application, desk) :=
  load_eq_ok_iff.2 ⟨available, (Store.fileOf_eq_some_iff.1 found).1, rfl, rfl⟩

variable (sound : desk.store.Sound)
include sound

theorem succeeds_requestWithdrawal (stage : file.application.status ∈ openStates)
    (free : file.application.withdrawals.any (·.isOpen) = false) (user : User) {reason : String}
    (given : Text.isBlankText reason = false) :
    (requestWithdrawal file.application.caseType id user reason).Succeeds context desk := by
  refine then_required (by simp [given]) (then_ok (load_ok found available) ?_)
  refine then_checked stage (then_required (by simp [free]) (.bind ⟨_, _, rfl⟩ fun _ _ ran => ?_))
  exact succeeds_saved ((Replaces.refl sound found).nextRecord ran) (Store.id_of_fileOf found)

theorem succeeds_acceptance (fit : file.PacksFit) (stage : file.application.status ∈ openStates)
    (asked : file.application.withdrawals.any (·.isOpen) = true) (user : User)
    (answer : Option String) :
    (respondToWithdrawal file.application.caseType id user true answer).Succeeds context desk := by
  obtain ⟨draft, only⟩ := fit.exists_draft (CaseFile.hasDraft_of_open stage)
  refine then_ok (load_ok found available) (then_checked stage (then_required asked ?_))
  refine then_ok rfl (.bind ⟨_, _, rfl⟩ fun _ _ ran => ?_)
  -- All tasks have ended, but the draft is still the one that the case has.
  have ended := (Replaces.refl sound found).finishAllTasks ran
  obtain ⟨_, archived⟩ := archiveDraft_ok context ended only
  obtain ⟨_, -, kept⟩ := ended.archiveDraft archived
  refine then_ok archived (succeeds_saved kept ?_)
  rw [Application.withdraw]
  split <;> exact Store.id_of_fileOf found

theorem succeeds_reopen (stage : file.application.status ∈ [CaseStatus.stopped, .withdrawn]) :
    (reopen file.application.caseType id).Succeeds context desk := by
  have same := Store.id_of_fileOf found
  refine then_ok (load_ok found available) (then_checked stage ?_)
  refine .bind ⟨_, _, rfl⟩ fun _ _ ran => ?_
  obtain ⟨_, -, created⟩ := (Replaces.refl sound found).createTask ran
  refine .bind (succeeds_firstDraft _) fun _ _ ran => ?_
  obtain ⟨_, _, -, -, drafted⟩ := created.createDraft ran same
  exact succeeds_saved drafted same

end Case

end Work

theorem Store.activeTypes_of_idle {store : Store} {id : Nat} {file : CaseFile}
    (found : store.fileOf id = some file) (idle : ∀ taskType, file.load taskType = 0) :
    store.tasks.activeTypes id = [] :=
  List.eq_nil_iff_forall_not_mem.2 fun taskType listed =>
    (mem_activeTypes_iff found).1 listed (idle taskType)

theorem Store.activeTypes_of_single {store : Store} {id : Nat} {file : CaseFile}
    {single : TaskType} (found : store.fileOf id = some file)
    (loads : ∀ taskType, file.load taskType = if taskType = single then 1 else 0) :
    store.tasks.activeTypes id = [single] := by
  refine List.perm_singleton.1 (List.perm_iff_count.2 fun taskType => ?_)
  rw [count_activeTypes found, loads, List.count_singleton]
  exact if_congr (beq_iff_eq.trans eq_comm).symm rfl rfl

structure Store.Closed (store : Store) (id : Nat) (status : CaseStatus) : Prop where
  tasks : store.tasks.activeTypes id = []
  drafts : store.packCount id .draft = 0
  becomes : ∃ application, store.applications.find? id = some application ∧
    if status = .variationRequested then application.status = .completed
    else application.status = .withdrawn ∧ application.isActive = false

structure Store.Reopened (store : Store) (id : Nat) : Prop where
  tasks : store.tasks.activeTypes id = [.process]
  drafts : store.packCount id .draft = 1
  becomes : ∃ application, store.applications.find? id = some application ∧
    application.status = .submitted ∧ application.isActive = true ∧ application.owner = none

namespace CaseFile

variable {file after : CaseFile} {store : Store} {context : Context} {id : Nat}
  {caseType : CaseType}

theorem withdraw_becomes (application : Application) (now : Instant) :
    if application.status = .variationRequested then
      (application.withdraw now).status = .completed
    else (application.withdraw now).status = .withdrawn ∧
      (application.withdraw now).isActive = false := by
  unfold Application.withdraw
  split
  · rfl
  · exact ⟨rfl, rfl⟩

theorem closed_of_move {user : User} {answer : Option String}
    (move : Move context id (.respondToWithdrawal caseType id user true answer) file after)
    (found : store.fileOf id = some after) (fit : after.PacksFit) :
    store.Closed id file.application.status := by
  have stored := (Store.fileOf_eq_some_iff.1 found).1
  have drafts := fit.draft
  rw [← Store.packCount_eq found] at drafts
  cases move with
  | edit edit => cases edit
  | acceptWithdrawal =>
    have becomes := withdraw_becomes
      (file.application.answerWithdrawal user .accepted answer) context.now
    refine ⟨Store.activeTypes_of_idle found fun taskType => by simp, ?_, _, stored, becomes⟩
    rw [drafts]
    -- Neither a completed nor a withdrawn case has a draft.
    split at becomes
    next => rw [put_application, becomes]; rfl
    next => rw [put_application, becomes.1]; rfl

theorem reopened_of_move (tasks : file.TasksFit)
    (move : Move context id (.reopen caseType id) file after)
    (found : store.fileOf id = some after) (fit : after.PacksFit) : store.Reopened id := by
  have stored := (Store.fileOf_eq_some_iff.1 found).1
  have drafts := fit.draft
  rw [← Store.packCount_eq found] at drafts
  cases move with
  | edit edit => cases edit
  | reopen _ stage =>
    have idle := tasks.givenUp (isGivenUp_of_reopenable stage)
    refine ⟨Store.activeTypes_of_single found fun taskType => ?_, drafts, _, stored, rfl, rfl, rfl⟩
    simp [idle, eq_comm]

end CaseFile

theorem Move.withdrawal_asked {context : Context} {id : Nat} {caseType : CaseType} {user : User}
    {reason : String} {file after : CaseFile}
    (move : Move context id (.requestWithdrawal caseType id user reason) file after) :
    file.application.withdrawals.any (·.isOpen) = false ∧
      after.application.withdrawals.any (·.isOpen) = true ∧
      after.application.status = file.application.status ∧
      after.application.caseType = file.application.caseType := by
  cases move with
  | edit edit =>
    cases edit with
    | withdrawal _ _ free => exact ⟨free, by simp [Withdrawal.asked, Withdrawal.isOpen], rfl, rfl⟩

namespace System

variable {system : System} {step : Step} {id : Nat} {file : CaseFile}

def Closes (system : System) (step : Step) (id : Nat) (status : CaseStatus) : Prop :=
  system.Takes step ∧ (system.after step).store.Closed id status

def Reopens (system : System) (step : Step) (id : Nat) : Prop :=
  system.Takes step ∧ (system.after step).store.Reopened id

theorem performed_of_succeeds {α : Type} {work : Work α} {change : α → Answer}
    (succeeds : work.Succeeds (step.setting.around system) system.desk)
    (named : step.operation.work = change <$> work) :
    ∃ answer after, work (step.setting.around system) system.desk = (.ok answer, after) ∧
      step.operation.work (step.setting.around system) system.desk =
        (.ok (change answer), after) := by
  obtain ⟨answer, after, ran⟩ := succeeds
  refine ⟨answer, after, ran, ?_⟩
  rw [named]
  exact Work.map_eq_ok_iff.2 ⟨answer, ran, rfl⟩

theorem moves_of_succeeds {α : Type} {work : Work α} {change : α → Answer}
    (succeeds : work.Succeeds (step.setting.around system) system.desk)
    (named : step.operation.work = change <$> work)
    (moved : ∀ {answer after}, work (step.setting.around system) system.desk = (.ok answer, after) →
      Moved (step.setting.around system) id step.operation system.store after.store)
    (found : system.store.fileOf id = some file) : ∃ after, system.Moves step id file after := by
  obtain ⟨answer, after, ran, performed⟩ := performed_of_succeeds succeeds named
  obtain ⟨before, after, moves⟩ := moves_of_moved performed (moved ran)
  cases found.symm.trans moves.found
  exact ⟨after, moves⟩

theorem Moves.packs_fit {steps : List Step} {after : CaseFile}
    (moves : (initial.follow steps).Moves step id file after) : after.PacksFit := by
  have becomes := moves.becomes
  rw [← follow_append] at becomes
  exact CaseFile.packs_fit _ becomes

theorem available_follow (steps : List Step) (setting : Setting) :
    (setting.around (initial.follow steps)).available = true := by
  rw [Setting.around, isPoisoned_follow]
  rfl

section Run

variable (steps : List Step) (setting : Setting) (user : User)

variable (found : (initial.follow steps).store.fileOf id = some file)
include found

theorem moves_withdrawal (stage : file.application.status ∈ openStates)
    (free : file.application.withdrawals.any (·.isOpen) = false) {reason : String}
    (given : Text.isBlankText reason = false) :
    ∃ after, (initial.follow steps).Moves
      ⟨setting, .requestWithdrawal file.application.caseType id user reason⟩ id file after := by
  have sound := sound_follow steps
  refine moves_of_succeeds ?_ rfl (fun ran => Work.requestWithdrawal_moves sound ran) found
  exact Work.succeeds_requestWithdrawal found (available_follow steps setting) sound stage free user
    given

theorem closes (stage : file.application.status ∈ openStates)
    (asked : file.application.withdrawals.any (·.isOpen) = true) (answer : Option String) :
    (initial.follow steps).Closes
      ⟨setting, .respondToWithdrawal file.application.caseType id user true answer⟩ id
      file.application.status := by
  have sound := sound_follow steps
  have moved : ∃ after, (initial.follow steps).Moves
      ⟨setting, .respondToWithdrawal file.application.caseType id user true answer⟩ id file
      after := by
    refine moves_of_succeeds ?_ rfl (fun ran => Work.respondToWithdrawal_moves sound ran) found
    exact Work.succeeds_acceptance found (available_follow steps setting) sound
      (CaseFile.packs_fit steps found) stage asked user answer
  obtain ⟨after, moves⟩ := moved
  exact ⟨moves.takes, CaseFile.closed_of_move moves.move moves.becomes moves.packs_fit⟩

theorem reopens (stage : file.application.status ∈ [CaseStatus.stopped, .withdrawn]) :
    (initial.follow steps).Reopens ⟨setting, .reopen file.application.caseType id⟩ id := by
  have sound := sound_follow steps
  have moved : ∃ after, (initial.follow steps).Moves
      ⟨setting, .reopen file.application.caseType id⟩ id file after := by
    refine moves_of_succeeds ?_ rfl (fun ran => Work.reopen_moves sound ran) found
    exact Work.succeeds_reopen found (available_follow steps setting) sound stage
  obtain ⟨after, moves⟩ := moved
  exact ⟨moves.takes, CaseFile.reopened_of_move (CaseFile.tasks_fit steps found) moves.move
    moves.becomes moves.packs_fit⟩

theorem takes_withdrawal_iff (stage : file.application.status ∈ openStates) {reason : String}
    (given : Text.isBlankText reason = false) :
    (initial.follow steps).Takes
        ⟨setting, .requestWithdrawal file.application.caseType id user reason⟩ ↔
      file.application.withdrawals.any (·.isOpen) = false := by
  constructor
  · intro taken
    obtain ⟨_, _, ran⟩ := taken.ran
    obtain ⟨_, ran, -⟩ := Work.map_eq_ok_iff.1 ran
    obtain ⟨_, _, known, move, -⟩ := Work.requestWithdrawal_moves (sound_follow steps) ran
    cases found.symm.trans known
    exact move.withdrawal_asked.1
  · intro free
    obtain ⟨_, moves⟩ := moves_withdrawal steps setting user found stage free given
    exact moves.takes

theorem asked_after (stage : file.application.status ∈ openStates) {reason : String}
    (given : Text.isBlankText reason = false) :
    ∃ asked, ((initial.follow steps).after
        ⟨setting, .requestWithdrawal file.application.caseType id user reason⟩).store.fileOf id =
          some asked ∧
      asked.application.withdrawals.any (·.isOpen) = true ∧
      asked.application.status = file.application.status ∧
      asked.application.caseType = file.application.caseType := by
  cases open_before : file.application.withdrawals.any (·.isOpen) with
  | false =>
    obtain ⟨asked, moves⟩ := moves_withdrawal steps setting user found stage open_before given
    exact ⟨asked, moves.becomes, moves.move.withdrawal_asked.2⟩
  | true =>
    have refused := (takes_withdrawal_iff steps setting user found stage given).not.2
      (by simp [open_before])
    rcases after_cases (sound_follow steps) _ with ⟨-, same⟩ | ⟨taken, -⟩
    · exact ⟨file, by rw [same, found], open_before, rfl, rfl⟩
    · exact absurd taken refused

end Run

end System

/-- A case that is worked on can always be closed, and one that was given up can be opened again. A
withdrawal can be asked for unless one is open already, and once it is accepted no task is active
and there is no draft. A case that is reopened has the one task and the draft that it needs. -/
theorem closes_and_reopens {system : System} (reached : Reachable system) {id : Nat}
    {application : Application} (stored : system.store.applications.find? id = some application) :
    (application.status ∈ [CaseStatus.submitted, .processing, .variationRequested] →
      ∀ setting user reason, Text.isBlankText reason = false →
        (system.Takes ⟨setting, .requestWithdrawal application.caseType id user reason⟩ ↔
          application.withdrawals.any (·.isOpen) = false) ∧
        ∀ later other answer,
          (system.after ⟨setting, .requestWithdrawal application.caseType id user reason⟩).Closes
            ⟨later, .respondToWithdrawal application.caseType id other true answer⟩ id
            application.status) ∧
    (application.status ∈ [CaseStatus.stopped, .withdrawn] →
      ∀ setting, system.Reopens ⟨setting, .reopen application.caseType id⟩ id) := by
  obtain ⟨steps, rfl⟩ := reachable_iff.1 reached
  obtain ⟨file, found, rfl⟩ := Store.exists_fileOf stored
  refine ⟨fun stage setting user reason given => ⟨?_, fun later other answer => ?_⟩,
    fun stage setting => ?_⟩
  · exact System.takes_withdrawal_iff steps setting user found stage given
  · obtain ⟨asked, becomes, isOpen, status, kind⟩ :=
      System.asked_after steps setting user found stage given
    rw [← System.follow_append] at becomes ⊢
    rw [← status] at stage
    have closes := System.closes _ later other becomes stage isOpen answer
    rwa [status, kind] at closes
  · exact System.reopens steps setting found stage

namespace Sample

def authorising : List Step := certificate.map (step false)

def withdrawal : List Step :=
  [.requestWithdrawal .exporting 1 user "changed plans",
    .respondToWithdrawal .exporting 1 user true none].map (step false)

theorem authorising_stored :
    ∃ application ∈ (System.initial.follow authorising).store.applications.rows,
      application.id = 1 ∧ application.caseType = .exporting ∧
        application.status = .processing := by
  decide +kernel

theorem withdrawn_stored :
    ∃ application ∈ (System.initial.follow (authorising ++ withdrawal)).store.applications.rows,
      application.id = 1 ∧ application.caseType = .exporting ∧
        application.status = .withdrawn := by
  decide +kernel

end Sample

theorem withdrawn_reopens :
    ((System.initial.follow Sample.authorising).after
        (Sample.step false (.requestWithdrawal .exporting 1 Sample.user "changed plans"))).Closes
      (Sample.step false (.respondToWithdrawal .exporting 1 Sample.user true none)) 1 .processing ∧
    (System.initial.follow (Sample.authorising ++ Sample.withdrawal)).Reopens
      (Sample.step false (.reopen .exporting 1)) 1 := by
  obtain ⟨before, stored, number, kind, stage⟩ := Sample.authorising_stored
  obtain ⟨after, kept, same, still, withdrawn⟩ := Sample.withdrawn_stored
  obtain ⟨closes, -⟩ := closes_and_reopens (reachable_iff.2 ⟨Sample.authorising, rfl⟩)
    (Table.find?_eq_some_iff.2 ⟨stored, number⟩)
  obtain ⟨-, reopens⟩ := closes_and_reopens
    (reachable_iff.2 ⟨Sample.authorising ++ Sample.withdrawal, rfl⟩)
    (Table.find?_eq_some_iff.2 ⟨kept, same⟩)
  rw [kind, stage] at closes
  rw [still, withdrawn] at reopens
  exact ⟨(closes (by decide) _ _ _ (by decide)).2 _ _ _, reopens (by decide) _⟩

end Casework
