import Casework.Proofs.Case.Complete
import Casework.Proofs.Packs.Life

set_option autoImplicit false

namespace Casework

open Calendar

def stageTasks : List TaskType :=
  [.process, .authorise, .documentSigning, .documentError, .chiefWait, .chiefError]

section Moves

open CaseFile

variable {context : Context} {id : Nat} {operation : Operation} {file after : CaseFile}

theorem Edit.status_or_process {application : Application}
    (edit : Edit context id operation file application) :
    application.status = file.application.status ∨
      (file.load .process ≠ 0 ∧ application.status ≠ .inProgress) := by
  rcases edit.status_cases with same | ⟨before, stage⟩
  · exact .inl same
  · have old := (not_givenUp_of_open stage).2.1
    cases edit with
    | takeOwnership _ current => exact .inr ⟨current.held, old⟩
    | releaseOwnership _ current => exact .inr ⟨current.held, old⟩
    | decision => exact .inl (by unfold Application.withDecision; split <;> rfl)
    | _ => exact .inl rfl

theorem Move.new_kept (move : Move context id operation file after)
    (new : after.application.status = .inProgress) :
    file.application.status = .inProgress ∧ after.tasks = file.tasks ∧
      after.requests = file.requests := by
  obtain ⟨old, -⟩ := move.of_inProgress new
  refine ⟨old, ?_⟩
  rcases Operation.enters_cases (move.enters_of_new old) with ⟨_, _, rfl⟩ | ⟨_, _, rfl⟩
  · cases move with
    | edit => exact ⟨rfl, rfl⟩
  · cases move with
    | edit edit => cases edit
    | submit =>
      simp only [put_application, Application.afterSubmission] at new
      split at new
      next => cases new
      next => split at new <;> cases new

theorem CaseFile.exists_later (steps later : List Step) {id : Nat} {file : CaseFile}
    (found : (System.initial.follow steps).store.fileOf id = some file)
    (old : file.application.status ≠ .inProgress) :
    ∃ last, (System.initial.follow (steps ++ later)).store.fileOf id = some last := by
  obtain ⟨last, kept, -⟩ := file_persists (·.application.status ≠ .inProgress)
    (fun _ _ _ old => old) (fun _ _ _ _ moves old new => old (moves.move.new_kept new).1)
    steps later found old
  exact ⟨last, kept⟩

theorem Edit.not_givenUp {application : Application}
    (edit : Edit context id operation file application) :
    file.application.status.isGivenUp = false := by
  cases edit with
  | goods _ editing => exact (not_givenUp_of_editing editing).1
  | takeOwnership _ current =>
    have stage := current.status
    simp only [List.mem_cons, List.not_mem_nil, or_false] at stage
    rcases stage with stage | stage <;> rw [stage] <;> rfl
  | releaseOwnership _ current => exact (not_givenUp_of_open current.status).1
  | reassign _ _ stage => exact (not_givenUp_of_processing stage).1
  | withdrawal _ stage | informationResponse _ stage | startUpdate _ stage =>
    exact (not_givenUp_of_open stage).1
  | checklist _ current | decision _ current | informationRequest _ current
  | informationClosed _ current | closeUpdate _ current | email _ current
  | emailClosed _ current => exact (not_givenUp_of_processing current.status).1

theorem Move.reopens (move : Move context id operation file after)
    (up : file.application.status.isGivenUp = true) :
    ∃ caseType, operation = .reopen caseType id := by
  have never : ∀ {goal : Prop}, file.application.status.isGivenUp = false → goal := by
    intro goal working
    rw [up] at working
    cases working
  cases move with
  | edit edit => exact never edit.not_givenUp
  | reopen => exact ⟨_, rfl⟩
  | submit _ editing => exact never (not_givenUp_of_editing editing).1
  | startLicence _ current =>
    have stage := current.status
    simp only [List.mem_cons, List.not_mem_nil, or_false] at stage
    rcases stage with stage | stage <;> exact never (by rw [stage]; rfl)
  | stop _ current => exact never (not_givenUp_of_open current.status).1
  | acceptWithdrawal _ stage | rejectWithdrawal _ stage =>
    exact never (not_givenUp_of_open stage).1
  | revoke _ stage | revokeAtChief _ stage | requestVariation _ stage =>
    exact never (by rw [stage]; rfl)
  | editLicence _ _ current => exact never (not_givenUp_of_processing current.status).1
  | refuseVariation _ current | refuse _ current | approve _ current
  | authoriseDocuments _ current | sendDocuments _ current | issueDocuments _ current
  | failSigning _ current | retrySigning _ current | addUpdateRequest _ current
  | withdrawUpdateRequest _ current =>
    exact never (not_givenUp_of_processing current.status).1
  | approveLicence current | revertLicence current =>
    exact never (not_givenUp_of_processing current.status).1
  | approveRevocation current =>
    exact never (by rw [List.mem_singleton.1 current.status]; rfl)
  | rejectLicence current =>
    have stage := current.status
    unfold awaitedReply at stage
    split at stage
    · exact never (by rw [List.mem_singleton.1 stage]; rfl)
    · exact never (not_givenUp_of_processing stage).1
  | resendLicence current =>
    have stage := current.status
    split at stage
    · exact never (by rw [List.mem_singleton.1 stage]; rfl)
    · exact never (not_givenUp_of_processing stage).1

end Moves

namespace CaseFile

/-- A new case only has its applicant's task, a submitted one has a task for a caseworker, and one
that is being worked on is at some stage. -/
structure Staged (file : CaseFile) : Prop where
  new : file.application.status = .inProgress →
    (∀ taskType, file.load taskType = if taskType = .prepare then 1 else 0) ∧ file.requests = []
  submitted : file.application.status = .submitted → file.load .process ≠ 0
  working : file.application.status ∈ processingStates →
    ∃ taskType ∈ stageTasks, file.load taskType ≠ 0

variable {file after : CaseFile}

namespace Staged

theorem started (application : Application) (task pack : Nat) (now : Instant)
    (new : application.status = .inProgress) :
    (CaseFile.started application task pack now).Staged := by
  refine ⟨fun _ => ⟨load_started _ _ _ _, rfl⟩, fun submitted => ?_, fun working => ?_⟩
  · rw [CaseFile.started, new] at submitted
    cases submitted
  · rw [CaseFile.started, new] at working
    simp [processingStates] at working

theorem ofProcess (old : after.application.status ≠ .inProgress)
    (held : after.load .process ≠ 0) : after.Staged :=
  ⟨fun new => absurd new old, fun _ => held, fun _ => ⟨.process, by decide, held⟩⟩

theorem ofTask (stage : after.application.status ∉ [CaseStatus.inProgress, .submitted])
    (taskType : TaskType) (listed : taskType ∈ stageTasks) (held : after.load taskType ≠ 0) :
    after.Staged := by
  simp only [List.mem_cons, List.not_mem_nil, or_false, not_or] at stage
  exact ⟨fun new => absurd new stage.1, fun submitted => absurd submitted stage.2,
    fun _ => ⟨taskType, listed, held⟩⟩

theorem ofClosed (closed : after.application.status ≠ .inProgress ∧
    after.application.status ∉ openStates) : after.Staged := by
  refine ⟨fun new => absurd new closed.1, fun submitted => ?_, fun working => ?_⟩
  · exact absurd (by rw [submitted]; decide) closed.2
  · exact absurd (List.mem_cons_of_mem _ working) closed.2

theorem carry (staged : file.Staged)
    (same : after.application.status = file.application.status) (tasks : after.tasks = file.tasks)
    (requests : after.requests = file.requests) : after.Staged := by
  have loads := fun taskType => load_congr tasks taskType
  refine ⟨fun new => ?_, fun submitted => ?_, fun working => ?_⟩
  · simp only [loads, requests]
    exact staged.new (same.symm.trans new)
  · rw [loads]
    exact staged.submitted (same.symm.trans submitted)
  · simp only [loads]
    exact staged.working (same ▸ working)

end Staged

theorem unstarted_of_processing {status : CaseStatus} (stage : status ∈ processingStates) :
    status ∉ [CaseStatus.inProgress, .submitted] := by
  simp only [processingStates, List.mem_cons, List.not_mem_nil, or_false] at stage
  rcases stage with rfl | rfl <;> decide

theorem Staged.send {base : CaseFile} {context : Context} {application : Application}
    {requestId taskId : Nat} {previous : Option Nat}
    (stage : base.application.status ∉ [CaseStatus.inProgress, .submitted]) :
    (base.send context application false requestId taskId previous).Staged := by
  refine .ofTask stage (Work.followingTask false (base.outcome context application false)) ?_ ?_
  · rcases followingTask_cases false (base.outcome context application false) with same | same
    · rw [same]
      decide
    · rw [same]
      decide
  · simp

theorem Staged.edit (staged : file.Staged) {context : Context} {id : Nat} {operation : Operation}
    {application : Application} (edit : Edit context id operation file application) :
    (file.put application).Staged := by
  rcases edit.status_or_process with same | ⟨held, old⟩
  · exact staged.carry same rfl rfl
  · exact .ofProcess old held

theorem Staged.move (staged : file.Staged) (ordered : file.Ordered) {context : Context} {id : Nat}
    {operation : Operation} {after : CaseFile} (move : Move context id operation file after) :
    after.Staged := by
  -- Only a case whose goods were edited is still new.
  have old := fun new => (move.new_kept new).1
  cases move with
  | edit edit => exact staged.edit edit
  | startLicence _ current =>
    refine .ofProcess (fun new => ?_) current.held
    have stage := current.status
    simp [old new] at stage
  | editLicence _ _ current =>
    exact .ofTask (unstarted_of_processing current.status) .process (by decide) current.held
  -- A submission opens the task of the caseworker unless it is open already.
  | submit =>
    refine .ofProcess ?_ (by simp)
    simp only [put_application, Application.afterSubmission]
    split
    · simp
    · split <;> simp
  | refuseVariation => exact .ofClosed (by simp [Application.rejectVariation, openStates])
  | refuse => exact .ofClosed (by simp [openStates])
  | approve _ current =>
    refine .ofTask ?_ .authorise (by decide) (by simp)
    simp only [put_application, Application.authorising]
    split
    next varied => simp [varied]
    next => simp
  | authoriseDocuments _ current =>
    exact .ofTask (unstarted_of_processing current.status) .documentSigning (by decide)
      (by simp)
  | sendDocuments _ current => exact .send (unstarted_of_processing current.status)
  | issueDocuments => exact .ofClosed (by simp [Application.complete, openStates])
  | failSigning _ current =>
    exact .ofTask (unstarted_of_processing current.status) .documentError (by decide)
      (by simp)
  | retrySigning _ current =>
    exact .ofTask (unstarted_of_processing current.status) .documentSigning (by decide)
      (by simp)
  | acceptWithdrawal =>
    refine .ofClosed ?_
    simp only [put_application, Application.withdraw]
    split <;> simp [openStates]
  | rejectWithdrawal _ stage => exact .ofProcess (not_givenUp_of_open stage).2.1 (by simp)
  | stop => exact .ofClosed (by simp [openStates])
  | reopen => exact .ofProcess (by simp) (by simp)
  | revoke => exact .ofClosed (by simp [openStates])
  | revokeAtChief => exact .ofClosed (by simp [openStates])
  | requestVariation _ _ opened =>
    subst opened
    exact .ofProcess (by simp [Application.varied]) (by simp)
  -- The caseworker keeps the task while the applicant is asked for an update.
  | addUpdateRequest _ current =>
    refine .ofTask (unstarted_of_processing current.status) .process (by decide) ?_
    simpa using current.held
  | withdrawUpdateRequest _ current _ _ only =>
    refine .ofTask (unstarted_of_processing current.status) .process (by decide) ?_
    simpa [load_finish ordered only] using current.held
  | approveLicence => exact .ofClosed (by simp [Application.complete, openStates])
  | approveRevocation current =>
    exact .ofClosed (by simp [List.mem_singleton.1 current.status, openStates])
  | rejectLicence current =>
    have stage := current.status
    refine .ofTask ?_ .chiefError (by decide) (by simp)
    rw [answer_application]
    unfold awaitedReply at stage
    split at stage
    · simp [List.mem_singleton.1 stage]
    · exact unstarted_of_processing stage
  | resendLicence current =>
    have stage := current.status
    split at stage
    next revoked => exact .ofClosed (by simp [revoked, openStates])
    next unrevoked =>
      rw [beq_eq_false_iff_ne.2 unrevoked]
      exact .send (unstarted_of_processing stage)
  | revertLicence current =>
    exact .ofTask (unstarted_of_processing current.status) .process (by decide)
      (by simp)

theorem staged (steps : List Step) {id : Nat} {file : CaseFile}
    (found : (System.initial.follow steps).store.fileOf id = some file) : file.Staged := by
  refine file_invariant (fun _ _ file => file.Staged) ?_ ?_ ?_ steps found
  · exact fun _ step _ _ _ _ => .started _ _ _ _ rfl
  · exact fun _ _ _ _ staged => staged
  · exact fun _ _ _ _ _ moves staged => staged.move moves.ordered moves.move

end CaseFile

theorem Store.count_activeTypes {store : Store} {id : Nat} {file : CaseFile}
    (found : store.fileOf id = some file) (taskType : TaskType) :
    (store.tasks.activeTypes id).count taskType = file.load taskType := by
  rw [TaskTable.count_activeTypes, activeOf_eq found, CaseFile.load_eq_length]

theorem System.given_up_kept {system : System} (sound : system.store.Sound) {step : Step} {id : Nat}
    {file : CaseFile} (found : system.store.fileOf id = some file)
    (up : file.application.status.isGivenUp = true)
    (apart : ∀ caseType, step.operation ≠ .reopen caseType id) :
    (system.after step).store.fileOf id = some file := by
  rcases case_after sound step found with same | ⟨new, -⟩ | ⟨after, moves⟩
  · exact same
  · rw [new] at up
    cases up
  · obtain ⟨caseType, reopened⟩ := moves.move.reopens up
    exact absurd reopened (apart caseType)

/-- A case is always somewhere: a new one only has the task of its applicant, a submitted one has a
task for a caseworker, one that is worked on has a task of some stage, and one that was given up
has no task and none of its records changes before it is reopened. -/
theorem case_at_stage {system : System} (reached : Reachable system) {id : Nat}
    {application : Application} (stored : system.store.applications.find? id = some application) :
    (application.status = .inProgress → system.store.tasks.activeTypes id = [.prepare]) ∧
    (application.status = .submitted → system.store.tasks.hasActive id .process = true) ∧
    (application.status ∈ [CaseStatus.processing, .variationRequested] →
      ∃ taskType ∈ [TaskType.process, .authorise, .documentSigning, .documentError, .chiefWait,
        .chiefError], system.store.tasks.hasActive id taskType = true) ∧
    (application.status ∈ [CaseStatus.stopped, .withdrawn] →
      system.store.tasks.activeTypes id = [] ∧
      ∀ step : Step, (∀ caseType, step.operation ≠ .reopen caseType id) →
        (system.after step).store.fileOf id = system.store.fileOf id) := by
  obtain ⟨steps, rfl⟩ := reachable_iff.1 reached
  obtain ⟨file, found, rfl⟩ := Store.exists_fileOf stored
  have staged := CaseFile.staged steps found
  refine ⟨fun new => ?_, fun submitted => ?_, fun working => ?_, fun up => ?_⟩
  · refine List.perm_singleton.1 (List.perm_iff_count.2 fun taskType => ?_)
    rw [Store.count_activeTypes found, (staged.new new).1]
    cases taskType <;> rfl
  · exact (Store.hasActive_iff found).2 (staged.submitted submitted)
  · obtain ⟨taskType, listed, held⟩ := staged.working working
    exact ⟨taskType, listed, (Store.hasActive_iff found).2 held⟩
  · have givenUp := CaseFile.isGivenUp_of_reopenable up
    refine ⟨List.eq_nil_iff_forall_not_mem.2 fun taskType listed => ?_, fun step apart => ?_⟩
    · exact (Store.mem_activeTypes_iff found).1 listed
        ((CaseFile.tasks_fit steps found).givenUp givenUp taskType)
    · rw [found]
      exact System.given_up_kept (System.sound_follow steps) found givenUp apart

namespace Sample

def stopped : List Step :=
  (certificate ++ refusedWithdrawal .exporting ++ [Operation.stop .exporting 1]).map (step false)

theorem stopped_stored :
    ∃ application ∈ (System.initial.follow stopped).store.applications.rows,
      application.id = 1 ∧ application.status = .stopped := by
  decide +kernel

end Sample

theorem stopped_at_rest :
    (System.initial.follow Sample.stopped).store.tasks.activeTypes 1 = [] ∧
      ((System.initial.follow Sample.stopped).after
        (Sample.step false (.submit .exporting 1 Sample.user))).store.fileOf 1 =
          (System.initial.follow Sample.stopped).store.fileOf 1 := by
  obtain ⟨application, stored, number, stopped⟩ := Sample.stopped_stored
  obtain ⟨-, -, -, rests⟩ := case_at_stage (reachable_iff.2 ⟨Sample.stopped, rfl⟩)
    (Table.find?_eq_some_iff.2 ⟨stored, number⟩)
  obtain ⟨idle, kept⟩ := rests (by rw [stopped]; decide)
  exact ⟨idle, kept _ fun _ reopened => by cases reopened⟩

end Casework
