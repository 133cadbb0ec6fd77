import Casework.Proofs.CaseFile.Counts
import Casework.Proofs.CaseFile.Run

set_option autoImplicit false

namespace Casework

open Calendar

def UpdateRequest.isOutstanding (request : UpdateRequest) : Bool :=
  request.status == .opened || request.status == .inProgress

def Application.isUpdating (application : Application) : Bool :=
  application.updateRequests.any UpdateRequest.isOutstanding

def CaseStatus.isGivenUp : CaseStatus → Bool
  | .stopped | .withdrawn => true
  | .inProgress | .submitted | .processing | .completed | .revoked | .variationRequested => false

theorem changeFirst_of_find? {α : Type} {wanted : α → Bool} (change : α → α) {entries : List α}
    {entry : α} (found : entries.find? wanted = some entry) :
    ∃ earlier later, entries = earlier ++ entry :: later ∧
      changeFirst wanted change entries = earlier ++ change entry :: later := by
  induction entries with
  | nil => cases found
  | cons head tail ih =>
    rw [List.find?_cons] at found
    cases picked : wanted head with
    | true =>
      rw [picked] at found
      cases found
      exact ⟨[], tail, rfl, by rw [changeFirst, if_pos picked, List.nil_append]⟩
    | false =>
      rw [picked] at found
      obtain ⟨earlier, later, rfl, changed⟩ := ih found
      refine ⟨head :: earlier, later, rfl, ?_⟩
      rw [changeFirst, if_neg (Bool.not_eq_true _ ▸ picked), changed, List.cons_append]

theorem any_changeFirst {α : Type} {wanted asked : α → Bool} {change : α → α} {entries : List α}
    {entry : α} (found : entries.find? wanted = some entry)
    (same : asked (change entry) = true ∨ asked entry = false)
    (held : entries.any asked = true) : (changeFirst wanted change entries).any asked = true := by
  obtain ⟨earlier, later, rfl, changed⟩ := changeFirst_of_find? change found
  rw [changed]
  simp only [List.any_append, List.any_cons, Bool.or_eq_true] at held ⊢
  rcases held with before | here | after
  · exact .inl before
  · rcases same with kept | other
    · exact .inr (.inl kept)
    · rw [other] at here
      cases here
  · exact .inr (.inr after)

theorem Edit.isUpdating {context : Context} {id : Nat} {operation : Operation} {file : CaseFile}
    {application : Application} (edit : Edit context id operation file application)
    (updating : file.application.isUpdating = true) : application.isUpdating = true := by
  cases edit with
  -- A request that the applicant takes up is still outstanding.
  | startUpdate _ _ found opened => exact any_changeFirst found (.inl rfl) updating
  | closeUpdate _ _ found responded =>
    -- The request that is closed has been answered, so it was not the outstanding one.
    refine any_changeFirst found (.inr ?_) updating
    simp [UpdateRequest.isOutstanding, responded]
  | decision =>
    unfold Application.withDecision
    split <;> exact updating
  | _ => exact updating

namespace CaseFile

structure TasksFit (file : CaseFile) : Prop where
  givenUp : file.application.status.isGivenUp = true → ∀ taskType, file.load taskType = 0
  preparing : file.load .prepare ≤ 1
  asked : file.load .prepare ≠ 0 →
    file.application.status = .inProgress ∨ file.application.isUpdating = true
  revoking : file.load .chiefRevokeWait ≠ 0 → file.application.status = .revoked

variable {file : CaseFile}

theorem load_started (application : Application) (task pack : Nat) (now : Instant)
    (taskType : TaskType) : (CaseFile.started application task pack now).load taskType =
      if taskType = .prepare then 1 else 0 := by
  cases taskType <;> rfl

theorem TasksFit.started (application : Application) (task pack : Nat) (now : Instant)
    (new : application.status = .inProgress) :
    (CaseFile.started application task pack now).TasksFit := by
  refine ⟨fun up => ?_, ?_, fun _ => .inl new, fun open_wait => ?_⟩
  · rw [CaseFile.started, new] at up
    cases up
  · rw [load_started]
    exact Nat.le_refl 1
  · rw [load_started] at open_wait
    exact absurd rfl open_wait

theorem isGivenUp_of_reopenable {status : CaseStatus}
    (stage : status ∈ [CaseStatus.stopped, .withdrawn]) : status.isGivenUp = true := by
  simp only [List.mem_cons, List.not_mem_nil, or_false] at stage
  rcases stage with rfl | rfl <;> rfl

theorem TasksFit.proceed (fit : file.TasksFit) {after : CaseFile}
    (working : after.application.status.isGivenUp = false)
    (preparing : after.load .prepare ≤ file.load .prepare)
    (started : after.load .prepare ≠ 0 → file.application.status = .inProgress →
      after.application.status = .inProgress)
    (updating : after.load .prepare ≠ 0 → file.application.isUpdating = true →
      after.application.isUpdating = true)
    (revoking : after.load .chiefRevokeWait ≠ 0 → after.application.status = .revoked) :
    after.TasksFit := by
  refine ⟨fun up => ?_, Nat.le_trans preparing fit.preparing, fun active => ?_, revoking⟩
  · rw [working] at up
    cases up
  · have before : file.load .prepare ≠ 0 := by omega
    rcases fit.asked before with new | asked
    · exact .inl (started active new)
    · exact .inr (updating active asked)

theorem not_givenUp_of_open {status : CaseStatus} (stage : status ∈ openStates) :
    status.isGivenUp = false ∧ status ≠ .inProgress ∧ status ≠ .revoked := by
  simp only [openStates, List.mem_cons, List.not_mem_nil, or_false] at stage
  rcases stage with rfl | rfl | rfl <;> decide

theorem not_givenUp_of_processing {status : CaseStatus} (stage : status ∈ processingStates) :
    status.isGivenUp = false ∧ status ≠ .inProgress ∧ status ≠ .revoked :=
  not_givenUp_of_open (List.mem_cons_of_mem _ stage)

theorem TasksFit.advance (fit : file.TasksFit) {after : CaseFile}
    (same : after.application = file.application)
    (working : file.application.status.isGivenUp = false)
    (preparing : after.load .prepare ≤ file.load .prepare)
    (revoking : after.load .chiefRevokeWait ≤ file.load .chiefRevokeWait) : after.TasksFit := by
  refine fit.proceed ?_ preparing ?_ ?_ ?_
  · rw [same]
    exact working
  · exact fun _ new => by rw [same]; exact new
  · exact fun _ asked => by rw [same]; exact asked
  · intro active
    rw [same]
    exact fit.revoking (by omega)

theorem TasksFit.edit (fit : file.TasksFit) {context : Context} {id : Nat} {operation : Operation}
    {application : Application} (edit : Edit context id operation file application) :
    (file.put application).TasksFit := by
  rcases edit.status_cases with same | ⟨before, stage⟩
  · refine ⟨fun up => fit.givenUp ?_, fit.preparing, fun active => ?_, fun active => ?_⟩
    · rw [← same]
      exact up
    · rcases fit.asked active with new | asked
      · exact .inl (same.trans new)
      · exact .inr (edit.isUpdating asked)
    · exact same.trans (fit.revoking active)
  · obtain ⟨-, old, unrevoked⟩ := not_givenUp_of_open before
    obtain ⟨working, -, -⟩ := not_givenUp_of_open stage
    refine fit.proceed working (Nat.le_refl _) ?_ ?_ ?_
    · exact fun _ new => absurd new old
    · exact fun _ asked => edit.isUpdating asked
    · exact fun active => absurd (fit.revoking active) unrevoked

theorem TasksFit.progress (fit : file.TasksFit) {after : CaseFile}
    (stage : file.application.status ∈ openStates)
    (working : after.application.status.isGivenUp = false)
    (preparing : after.load .prepare ≤ file.load .prepare)
    (updating : file.application.isUpdating = true → after.application.isUpdating = true)
    (revoking : after.load .chiefRevokeWait ≤ file.load .chiefRevokeWait) : after.TasksFit := by
  obtain ⟨-, old, unrevoked⟩ := not_givenUp_of_open stage
  refine fit.proceed working preparing ?_ ?_ ?_
  · exact fun _ new => absurd new old
  · exact fun _ asked => updating asked
  · exact fun waiting => absurd (fit.revoking (by omega)) unrevoked

theorem TasksFit.cleared {after : CaseFile} (loads : ∀ taskType, after.load taskType = 0) :
    after.TasksFit := by
  refine ⟨fun _ => loads, ?_, fun active => ?_, fun active => ?_⟩
  · rw [loads]
    exact Nat.zero_le 1
  · exact absurd (loads _) active
  · exact absurd (loads _) active

theorem followingTask_cases (revoke : Bool) (outcome : Except ChiefError (Option LicencePayload)) :
    Work.followingTask revoke outcome = .chiefError ∨
      Work.followingTask revoke outcome = if revoke then .chiefRevokeWait else .chiefWait := by
  cases outcome with
  | ok _ => exact .inr rfl
  | error _ => exact .inl rfl

theorem load_send_kept {context : Context} {application : Application} {revoke : Bool}
    {requestId taskId : Nat} {previous : Option Nat} {taskType : TaskType}
    (apart : taskType ≠ .chiefError)
    (other : taskType ≠ if revoke then .chiefRevokeWait else .chiefWait) :
    (file.send context application revoke requestId taskId previous).load taskType =
      file.load taskType := by
  rw [load_send, if_neg, Nat.add_zero]
  rintro rfl
  rcases followingTask_cases revoke (file.outcome context application revoke) with same | same
  · exact apart same
  · exact other same

theorem afterSubmission_status (application : Application) (user : User) (reference : String)
    (now : Instant) :
    (application.afterSubmission user reference now).status.isGivenUp = false := by
  unfold Application.afterSubmission
  dsimp only
  split
  · rfl
  · split <;> rfl

theorem isUpdating_of_current {application : Application}
    (free : application.currentUpdateRequests = []) : application.isUpdating = false := by
  refine List.any_eq_false.2 fun request member outstanding => ?_
  have absent := List.filter_eq_nil_iff.1 free request member
  simp only [UpdateRequest.isOutstanding, Bool.or_eq_true, beq_iff_eq] at outstanding
  rcases outstanding with opened | started
  · rw [opened] at absent
    exact absent rfl
  · rw [started] at absent
    exact absent rfl

theorem not_givenUp_of_editing (editing : file.Editing) :
    file.application.status.isGivenUp = false ∧ file.application.status ≠ .revoked := by
  have stage := editing.status_mem
  simp only [List.mem_cons, List.not_mem_nil, or_false] at stage
  rcases stage with stage | stage | stage | stage <;> rw [stage] <;> decide

theorem TasksFit.submit (fit : file.TasksFit) (editing : file.Editing) {after : CaseFile}
    (working : after.application.status.isGivenUp = false) (prepared : after.load .prepare = 0)
    (revoking : after.load .chiefRevokeWait = file.load .chiefRevokeWait) : after.TasksFit := by
  refine fit.proceed working (by omega) ?_ ?_ ?_
  · exact fun active => absurd prepared active
  · exact fun active => absurd prepared active
  · intro waiting
    rw [revoking] at waiting
    exact absurd (fit.revoking waiting) (not_givenUp_of_editing editing).2

theorem TasksFit.revoke (fit : file.TasksFit) {after : CaseFile}
    (stage : file.application.status = .completed)
    (revoked : after.application.status = .revoked)
    (updates : after.application.updateRequests = file.application.updateRequests)
    (preparing : after.load .prepare = file.load .prepare) : after.TasksFit := by
  refine fit.proceed ?_ (by omega) ?_ ?_ ?_
  · rw [revoked]
    rfl
  · intro _ new
    rw [stage] at new
    cases new
  · intro _ asked
    unfold Application.isUpdating
    rwa [updates]
  · exact fun _ => revoked

theorem TasksFit.not_preparing (fit : file.TasksFit)
    (stage : file.application.status ∈ processingStates)
    (free : file.application.currentUpdateRequests = []) : file.load .prepare = 0 := by
  by_cases none_open : file.load .prepare = 0
  · exact none_open
  · rcases fit.asked none_open with new | updating
    · exact absurd new (not_givenUp_of_processing stage).2.1
    · rw [isUpdating_of_current free] at updating
      cases updating

theorem TasksFit.askForUpdate (fit : file.TasksFit) {after : CaseFile}
    (stage : file.application.status ∈ processingStates)
    (free : file.application.currentUpdateRequests = [])
    (working : after.application.status = file.application.status)
    (asked : after.application.isUpdating = true)
    (preparing : after.load .prepare = file.load .prepare + 1)
    (revoking : after.load .chiefRevokeWait = file.load .chiefRevokeWait) : after.TasksFit := by
  obtain ⟨working_before, -, unrevoked⟩ := not_givenUp_of_processing stage
  have idle := fit.not_preparing stage free
  refine ⟨fun up => ?_, by omega, fun _ => .inr asked, fun waiting => ?_⟩
  · rw [working, working_before] at up
    cases up
  · rw [revoking] at waiting
    exact absurd (fit.revoking waiting) unrevoked

theorem TasksFit.reopen (fit : file.TasksFit) {after : CaseFile}
    (stage : file.application.status.isGivenUp = true)
    (working : after.application.status.isGivenUp = false)
    (preparing : after.load .prepare = file.load .prepare)
    (revoking : after.load .chiefRevokeWait = file.load .chiefRevokeWait) : after.TasksFit := by
  have idle := fit.givenUp stage .prepare
  have unsent := fit.givenUp stage .chiefRevokeWait
  refine fit.proceed working (by omega) ?_ ?_ ?_
  · exact fun active => absurd (preparing.trans idle) active
  · exact fun active => absurd (preparing.trans idle) active
  · exact fun waiting => absurd (revoking.trans unsent) waiting

theorem TasksFit.vary (fit : file.TasksFit) {after : CaseFile}
    (stage : file.application.status = .completed)
    (varied : after.application.status = .variationRequested)
    (updates : after.application.updateRequests = file.application.updateRequests)
    (preparing : after.load .prepare = file.load .prepare)
    (revoking : after.load .chiefRevokeWait = file.load .chiefRevokeWait) : after.TasksFit := by
  refine fit.proceed ?_ (by omega) ?_ ?_ ?_
  · rw [varied]
    rfl
  · intro _ new
    rw [stage] at new
    cases new
  · intro _ asked
    unfold Application.isUpdating
    rwa [updates]
  · intro waiting
    rw [revoking] at waiting
    rw [fit.revoking waiting] at stage
    cases stage

theorem TasksFit.move (fit : file.TasksFit) (ordered : file.Ordered) {context : Context} {id : Nat}
    {operation : Operation} {after : CaseFile} (move : Move context id operation file after) :
    after.TasksFit := by
  cases move with
  | edit edit => exact fit.edit edit
  | startLicence _ current =>
    have stage := current.status
    simp only [List.mem_cons, List.not_mem_nil, or_false] at stage
    refine fit.progress ?_ ?_ (Nat.le_refl _) (fun asked => asked) (Nat.le_refl _)
    · rcases stage with stage | stage <;> simp [stage, openStates]
    · rcases stage with stage | stage <;> simp [Application.taken, stage, CaseStatus.isGivenUp]
  | editLicence _ _ current =>
    exact fit.advance rfl (not_givenUp_of_processing current.status).1 (Nat.le_refl _)
      (Nat.le_refl _)
  | @submit _ _ user _ _ reference _ editing _ only =>
    refine fit.submit editing (afterSubmission_status file.application user reference context.now)
      ?_ ?_
    · simp [load_finish ordered only]
    · simp [load_finish ordered only]
  | refuseVariation _ current _ _ _ _ =>
    refine fit.progress (List.mem_cons_of_mem _ current.status) rfl ?_ (fun asked => asked) ?_
    · simp [load_finish ordered current.only]
    · simp [load_finish ordered current.only]
  | refuse _ current =>
    refine fit.progress (List.mem_cons_of_mem _ current.status) rfl ?_ (fun asked => asked) ?_
    · simp [load_finish ordered current.only]
    · simp [load_finish ordered current.only]
  | approve _ current =>
    refine fit.progress (List.mem_cons_of_mem _ current.status) ?_ ?_ (fun asked => asked) ?_
    · simp only [put_application, Application.authorising]
      split
      next varied =>
        rw [varied]
        rfl
      next => rfl
    · simp [load_finish ordered current.only]
    · simp [load_finish ordered current.only]
  | authoriseDocuments _ current =>
    refine fit.advance rfl (not_givenUp_of_processing current.status).1 ?_ ?_
    · simp [load_finish ordered current.only]
    · simp [load_finish ordered current.only]
  | sendDocuments _ current =>
    refine fit.advance rfl (not_givenUp_of_processing current.status).1 ?_ ?_
    · rw [load_send_kept (by decide) (by decide), load_finish ordered current.only]
      simp
    · rw [load_send_kept (by decide) (by decide), load_finish ordered current.only]
      simp
  | issueDocuments _ current =>
    refine fit.progress (List.mem_cons_of_mem _ current.status) rfl ?_ (fun asked => asked) ?_
    · simp [load_finish ordered current.only]
    · simp [load_finish ordered current.only]
  | failSigning _ current =>
    refine fit.advance rfl (not_givenUp_of_processing current.status).1 ?_ ?_
    · simp [load_finish ordered current.only]
    · simp [load_finish ordered current.only]
  | retrySigning _ current =>
    refine fit.advance rfl (not_givenUp_of_processing current.status).1 ?_ ?_
    · simp [load_finish ordered current.only]
    · simp [load_finish ordered current.only]
  -- Neither a withdrawn nor a stopped case keeps a task.
  | acceptWithdrawal => exact .cleared (by simp)
  | rejectWithdrawal _ stage =>
    refine fit.progress stage (not_givenUp_of_open stage).1 ?_ (fun asked => asked) ?_
    · simp
    · simp
  | stop => exact .cleared (by simp)
  | reopen _ stage =>
    refine fit.reopen (isGivenUp_of_reopenable stage) rfl ?_ ?_
    · simp
    · simp
  | revoke _ stage => exact fit.revoke stage rfl rfl rfl
  | revokeAtChief _ stage =>
    refine fit.revoke stage rfl rfl ?_
    rw [load_put, load_send_kept (by decide) (by decide), load_changePack]
  | requestVariation _ stage opened =>
    subst opened
    refine fit.vary stage rfl rfl ?_ ?_
    · simp
    · simp
  | addUpdateRequest _ current free =>
    refine fit.askForUpdate current.status free rfl ?_ ?_ ?_
    · simp [Application.isUpdating, UpdateRequest.isOutstanding]
    · simp
    · simp
  | withdrawUpdateRequest _ current _ _ only =>
    have prepared := load_finish ordered only none context.now
    obtain ⟨working, old, unrevoked⟩ := not_givenUp_of_processing current.status
    refine fit.proceed working ?_ ?_ ?_ ?_
    · simp [prepared]
    · exact fun _ new => absurd new old
    · intro active
      simp [prepared] at active
    · intro waiting
      simp only [load_put, prepared, reduceCtorEq, if_false] at waiting
      exact absurd (fit.revoking waiting) unrevoked
  | approveLicence current =>
    refine fit.progress (List.mem_cons_of_mem _ current.status) rfl ?_ (fun asked => asked) ?_
    · simp [load_finish ordered current.only]
    · simp [load_finish ordered current.only]
  | approveRevocation current =>
    have revoked := List.mem_singleton.1 current.status
    refine fit.advance rfl (by rw [revoked]; rfl) ?_ ?_
    · simp [load_finish ordered current.only]
    · simp [load_finish ordered current.only]
  | rejectLicence current =>
    refine fit.advance (by rw [answer_application]; rfl) ?_ ?_ ?_
    · have stage := current.status
      unfold awaitedReply at stage
      split at stage
      · rw [List.mem_singleton.1 stage]
        rfl
      · exact (not_givenUp_of_processing stage).1
    · simp only [load_answer, load_opened, load_finish ordered current.only]
      unfold awaitedReply
      split <;> simp
    · simp only [load_answer, load_opened, load_finish ordered current.only]
      unfold awaitedReply
      split <;> simp
  | resendLicence current =>
    have stage := current.status
    split at stage
    next revoked =>
      -- The revocation of a licence is sent again, and the wait for it opens again.
      refine fit.proceed ?_ ?_ (fun _ new => new) (fun _ asked => asked) (fun _ => revoked)
      · rw [send_application, finish_application, revoked]
        rfl
      · rw [load_send_kept (by decide) (by simp [revoked]), load_finish ordered current.only]
        simp
    next unrevoked =>
      refine fit.advance rfl (not_givenUp_of_processing stage).1 ?_ ?_
      · rw [load_send_kept (by decide) (by simp [unrevoked]), load_finish ordered current.only]
        simp
      · rw [load_send_kept (by decide) (by simp [unrevoked]), load_finish ordered current.only]
        simp
  | revertLicence current =>
    refine fit.advance rfl (not_givenUp_of_processing current.status).1 ?_ ?_
    · simp [load_finish ordered current.only]
    · simp [load_finish ordered current.only]

theorem tasks_fit (steps : List Step) {id : Nat} {file : CaseFile}
    (found : (System.initial.follow steps).store.fileOf id = some file) : file.TasksFit := by
  refine file_invariant (fun _ _ file => file.TasksFit) ?_ ?_ ?_ steps found
  · exact fun _ step _ _ _ _ => .started _ _ _ _ rfl
  · exact fun _ _ _ _ fit => fit
  · exact fun _ _ _ _ _ moves fit => fit.move moves.ordered moves.move

end CaseFile

end Casework
