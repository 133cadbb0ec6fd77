import Casework.Proofs.Case.Particulars

set_option autoImplicit false

namespace Casework

open Calendar

/-- Where a case can go next from its status, if it does not stay there. -/
def CaseStatus.next : CaseStatus → List CaseStatus
  | .inProgress => [.submitted]
  | .submitted => [.processing, .stopped, .withdrawn]
  | .processing => [.submitted, .completed, .stopped, .withdrawn]
  | .variationRequested => [.completed, .stopped]
  | .completed => [.variationRequested, .revoked]
  | .stopped => [.submitted]
  | .withdrawn => [.submitted]
  | .revoked => []

def CaseStatus.Reaches (before after : CaseStatus) : Prop :=
  after = before ∨ after ∈ before.next

instance (before after : CaseStatus) : Decidable (before.Reaches after) :=
  inferInstanceAs (Decidable (_ ∨ _))

def Operation.stages : Operation → List CaseStatus
  | .edit _ _ _ | .submit _ _ _ => [.inProgress, .submitted, .processing, .variationRequested]
  | .cancel _ _ => [.inProgress]
  | .takeOwnership _ _ _ => [.submitted, .variationRequested]
  | .releaseOwnership _ _ | .requestWithdrawal _ _ _ _ | .respondToWithdrawal _ _ _ _ _
  | .stop _ _ | .respondToInformationRequest _ _ _ | .startUpdate _ _ _ => openStates
  | .reassign _ _ _ | .completeChecklist _ _ _ | .editLicence _ _ _ | .decide _ _ _
  | .startAuthorisation _ _ _ | .authoriseDocuments _ _ _ | .documentsSigned _ _
  | .documentsFailed _ _ | .retrySigning _ _ | .addInformationRequest _ _ _
  | .closeInformationRequest _ _ _ | .addUpdateRequest _ _ _ | .closeUpdateRequest _ _ _
  | .addEmail _ _ _ | .closeEmail _ _ _ | .revertLicence _ => processingStates
  | .reopen _ _ => [.stopped, .withdrawn]
  | .revoke _ _ _ | .requestVariation _ _ _ _ => [.completed]
  | .approveLicence _ | .rejectLicence _ _ | .resendLicence _ => .revoked :: processingStates
  | .create _ _ | .get _ _ | .view _ _ | .pendingLicences | .failedLicences | .search _ _
  | .spreadsheet _ => []

namespace CaseStatus

theorem completes : ∀ status ∈ processingStates, status.Reaches .completed := by decide

theorem stops : ∀ status ∈ openStates, status.Reaches .stopped := by decide

theorem reopens : ∀ status ∈ [stopped, withdrawn], status.Reaches .submitted := by decide

theorem revokes : completed.Reaches .revoked := by decide

theorem varies : completed.Reaches .variationRequested := by decide

end CaseStatus

namespace Operation

variable {operation : Operation}

theorem of_completed (stage : CaseStatus.completed ∈ operation.stages) :
    (∃ caseType id input, operation = .revoke caseType id input) ∨
      ∃ caseType id user whatVaried, operation = .requestVariation caseType id user whatVaried := by
  cases operation <;> simp_all [stages, openStates, processingStates]

theorem of_revoked (stage : CaseStatus.revoked ∈ operation.stages) :
    (∃ id, operation = .approveLicence id) ∨ (∃ id errors, operation = .rejectLicence id errors) ∨
      ∃ id, operation = .resendLicence id := by
  cases operation <;> simp_all [stages, openStates, processingStates]

end Operation

section Moves

open CaseFile

variable {context : Context} {id : Nat} {operation : Operation} {file after : CaseFile}

theorem Edit.stage {application : Application}
    (edit : Edit context id operation file application) :
    file.application.status ∈ operation.stages := by
  cases edit with
  | goods _ editing => exact editing.status_mem
  | takeOwnership _ current | releaseOwnership _ current => exact current.status
  | reassign _ _ stage => exact stage
  | withdrawal _ stage | informationResponse _ stage | startUpdate _ stage => exact stage
  | checklist _ current | decision _ current | informationRequest _ current
  | informationClosed _ current | closeUpdate _ current | email _ current
  | emailClosed _ current => exact current.status

theorem Move.stage (move : Move context id operation file after) :
    file.application.status ∈ operation.stages := by
  cases move with
  | edit edit => exact edit.stage
  | startLicence _ current => exact current.status
  | editLicence _ _ current => exact current.status
  | submit _ editing => exact editing.status_mem
  | refuseVariation _ current | refuse _ current | approve _ current
  | authoriseDocuments _ current | sendDocuments _ current | issueDocuments _ current
  | failSigning _ current | retrySigning _ current | stop _ current | addUpdateRequest _ current
  | withdrawUpdateRequest _ current => exact current.status
  | acceptWithdrawal _ stage | rejectWithdrawal _ stage | reopen _ stage => exact stage
  | revoke _ stage | revokeAtChief _ stage | requestVariation _ stage =>
    exact List.mem_singleton.2 stage
  | approveLicence current => exact List.mem_cons_of_mem _ current.status
  | approveRevocation current =>
    exact List.mem_cons.2 (.inl (List.mem_singleton.1 current.status))
  -- What is replied to a revocation, and sent again, finds the case revoked.
  | rejectLicence current =>
    have stage := current.status
    unfold awaitedReply at stage
    split at stage
    · exact List.mem_cons.2 (.inl (List.mem_singleton.1 stage))
    · exact List.mem_cons_of_mem _ stage
  | resendLicence current =>
    have stage := current.status
    split at stage
    · exact List.mem_cons.2 (.inl (List.mem_singleton.1 stage))
    · exact List.mem_cons_of_mem _ stage
  | revertLicence current => exact current.status

namespace Application

variable {application : Application}

theorem reaches_taken (stage : application.status ∈ [CaseStatus.submitted, .variationRequested])
    (user : User) : application.status.Reaches (application.taken user).status := by
  simp only [List.mem_cons, List.not_mem_nil, or_false] at stage
  rcases stage with stage | stage <;>
    simp [taken, stage, CaseStatus.Reaches, CaseStatus.next]

theorem reaches_released (stage : application.status ∈ openStates) :
    application.status.Reaches application.released.status := by
  simp only [openStates, List.mem_cons, List.not_mem_nil, or_false] at stage
  rcases stage with stage | stage | stage <;>
    simp [released, stage, CaseStatus.Reaches, CaseStatus.next]

theorem reaches_authorising (stage : application.status ∈ processingStates)
    (licenceNumber : Option Nat) :
    application.status.Reaches (application.authorising licenceNumber).status := by
  simp only [processingStates, List.mem_cons, List.not_mem_nil, or_false] at stage
  rcases stage with stage | stage <;> simp [authorising, stage, CaseStatus.Reaches]

theorem reaches_withdraw (stage : application.status ∈ openStates) (now : Instant) :
    application.status.Reaches (application.withdraw now).status := by
  simp only [openStates, List.mem_cons, List.not_mem_nil, or_false] at stage
  rcases stage with stage | stage | stage <;>
    simp [withdraw, stage, CaseStatus.Reaches, CaseStatus.next]

end Application

-- What a submission makes of the status is read off the owner, which a case has exactly while it is
-- processed.
theorem CaseFile.FactsFit.reaches_submission (facts : file.FactsFit) (editing : file.Editing)
    (user : User) (reference : String) (now : Instant) :
    file.application.status.Reaches
      (file.application.afterSubmission user reference now).status := by
  have stage := editing.status_mem
  simp only [List.mem_cons, List.not_mem_nil, or_false] at stage
  simp only [Application.afterSubmission, CaseStatus.Reaches]
  rcases stage with new | submitted | processing | varied
  · have unowned := (facts.new new).1.owner
    simp [new, unowned, CaseStatus.next]
  · simp [submitted, facts.owner.untaken submitted]
  · simp [processing, facts.owner.taken processing]
  · simp [varied]

theorem Edit.reaches {application : Application}
    (edit : Edit context id operation file application) :
    file.application.status.Reaches application.status := by
  cases edit with
  | takeOwnership _ current => exact Application.reaches_taken current.status _
  | releaseOwnership _ current => exact Application.reaches_released current.status
  | decision => exact .inl (by unfold Application.withDecision; split <;> rfl)
  | _ => exact .inl rfl

theorem Move.reaches (facts : file.FactsFit) (move : Move context id operation file after) :
    file.application.status.Reaches after.application.status := by
  cases move with
  | edit edit => exact edit.reaches
  | startLicence _ current => exact Application.reaches_taken current.status _
  | submit _ editing => exact facts.reaches_submission editing _ _ _
  | refuseVariation _ current | refuse _ current | issueDocuments _ current =>
    exact CaseStatus.completes _ current.status
  | approveLicence current => exact CaseStatus.completes _ current.status
  | approve _ current => exact Application.reaches_authorising current.status _
  | @acceptWithdrawal _ _ user answer _ _ stage =>
    have asked : (file.application.answerWithdrawal user .accepted answer).status ∈ openStates :=
      stage
    exact Application.reaches_withdraw asked context.now
  | stop _ current => exact CaseStatus.stops _ current.status
  | reopen _ stage => exact CaseStatus.reopens _ stage
  | revoke _ stage | revokeAtChief _ stage =>
    rw [stage]
    exact CaseStatus.revokes
  | requestVariation _ stage opened =>
    rw [stage, opened]
    exact CaseStatus.varies
  | rejectLicence => exact .inl (by rw [answer_application]; rfl)
  | _ => exact .inl rfl

theorem Move.of_revoked (move : Move context id operation file after)
    (revoked : file.application.status = .revoked) :
    after.application = file.application ∧ after.packs = file.packs ∧
      after.documents = file.documents := by
  have stage := move.stage
  rw [revoked] at stage
  rcases Operation.of_revoked stage with ⟨_, rfl⟩ | ⟨_, _, rfl⟩ | ⟨_, rfl⟩
  · cases move with
    | edit edit => cases edit
    | approveLicence current =>
      have working := current.status
      simp [revoked, processingStates] at working
    | approveRevocation =>
      exact ⟨rfl, answer_packs _ _, answer_documents _ _⟩
  · cases move with
    | edit edit => cases edit
    | rejectLicence =>
      exact ⟨answer_application _ _, answer_packs _ _, answer_documents _ _⟩
  · cases move with
    | edit edit => cases edit
    | resendLicence => exact ⟨rfl, rfl, rfl⟩

end Moves

namespace CaseFile

variable {file after : CaseFile}

theorem packCount_revoke (ordered : file.Ordered) {pack : Pack}
    (only : file.packs.filter (Pack.isIn .active) = [pack]) (reason : Option String)
    (emailSent : Bool) :
    (file.changePack pack.id (·.revoke reason emailSent)).packCount .active = 0 := by
  obtain ⟨member, isActive⟩ := mem_of_only only
  have becomes : (pack.revoke reason emailSent).status = .revoked := rfl
  have moved := packCount_restatus ordered member isActive (·.revoke reason emailSent) becomes
    .active
  have counted := packCount_of_only only
  simp only [reduceCtorEq, if_pos, if_false] at moved
  omega

def Unissued (file : CaseFile) : Prop :=
  file.application.status = .revoked → file.packCount .active = 0

theorem Unissued.move (unissued : file.Unissued) (facts : file.FactsFit) (ordered : file.Ordered)
    {context : Context} {id : Nat} {operation : Operation}
    (move : Move context id operation file after) : after.Unissued := by
  intro revoked
  by_cases before : file.application.status = .revoked
  · rw [packCount_congr (move.of_revoked before).2.1]
    exact unissued before
  · have complete : file.application.status = .completed := by
      rcases move.reaches facts with same | follows
      · exact absurd (same.symm.trans revoked) before
      · rw [revoked] at follows
        cases status : file.application.status <;> simp [status, CaseStatus.next] at follows ⊢
    have stage := move.stage
    rw [complete] at stage
    rcases Operation.of_completed stage with ⟨_, _, _, rfl⟩ | ⟨_, _, _, _, rfl⟩
    · cases move with
      | edit edit => cases edit
      | revoke _ _ only => exact packCount_revoke ordered only _ _
      | revokeAtChief _ _ only => exact packCount_revoke ordered only _ _
    · cases move with
      | edit edit => cases edit
      | requestVariation _ _ opened =>
        subst opened
        cases revoked

theorem unissued (steps : List Step) {id : Nat} {file : CaseFile}
    (found : (System.initial.follow steps).store.fileOf id = some file) : file.Unissued := by
  refine file_history (fun _ _ file => file.Unissued) ?_ ?_ ?_ steps found
  · intro _ step id draft task pack _ _ revoked
    cases revoked
  · exact fun _ _ _ _ _ _ unissued => unissued
  · intro steps step id before after moves unissued
    exact unissued.move (facts_fit steps moves.found) moves.ordered moves.move

end CaseFile

structure Store.Rests (store later : Store) (id : Nat) : Prop where
  application : later.applications.find? id = store.applications.find? id
  packs : later.packsOf id = store.packsOf id
  documents : ∀ pack ∈ store.packsOf id, later.documentsOf pack.id = store.documentsOf pack.id
  idle : ∀ pack ∈ store.packsOf id, pack.status ≠ .draft ∧ pack.status ≠ .active

namespace System

theorem follow_follow (system : System) (steps later : List Step) :
    (system.follow steps).follow later = system.follow (steps ++ later) :=
  List.foldl_append.symm

variable (steps : List Step) {id : Nat} {file : CaseFile}

theorem reaches_after (step : Step)
    (found : (initial.follow steps).store.fileOf id = some file) :
    (file.application.status = .inProgress ∧
        ((initial.follow steps).after step).store.fileOf id = none) ∨
      ∃ after, ((initial.follow steps).after step).store.fileOf id = some after ∧
        file.application.status.Reaches after.application.status := by
  rcases case_after (sound_follow steps) step found with same | removed | ⟨after, moves⟩
  · exact .inr ⟨file, same, .inl rfl⟩
  · exact .inl removed
  · exact .inr ⟨after, moves.becomes, moves.move.reaches (CaseFile.facts_fit steps found)⟩

theorem rests_follow (later : List Step)
    (found : (initial.follow steps).store.fileOf id = some file)
    (revoked : file.application.status = .revoked) :
    (initial.follow steps).store.Rests (initial.follow (steps ++ later)).store id := by
  obtain ⟨last, stands, application, packs, documents⟩ := file_persists
    (fun other => other.application = file.application ∧ other.packs = file.packs ∧
      other.documents = file.documents)
    (fun _ other _ same new => by rw [same.1, revoked] at new; cases new)
    (fun _ _ before after moves same => by
      obtain ⟨application, packs, documents⟩ := moves.move.of_revoked (same.1 ▸ revoked)
      exact ⟨application.trans same.1, packs.trans same.2.1, documents.trans same.2.2⟩)
    steps later found ⟨rfl, rfl, rfl⟩
  have before := Store.fileOf_eq_some_iff.1 found
  have after := Store.fileOf_eq_some_iff.1 stands
  refine ⟨?_, ?_, fun pack listed => ?_, fun pack listed => ?_⟩
  · rw [after.1, before.1, application]
  · rw [after.2.2.1, before.2.2.1, packs]
  · rw [before.2.2.1] at listed
    rw [Store.documentsOf_eq stands (packs ▸ listed), Store.documentsOf_eq found listed, documents]
  · rw [before.2.2.1] at listed
    have drafts := (CaseFile.packs_fit steps found).draft
    have actives := CaseFile.unissued steps found revoked
    rw [revoked] at drafts
    exact ⟨fun draft => by simpa [Pack.isIn, draft] using List.countP_eq_zero.1 drafts pack listed,
      fun active => by simpa [Pack.isIn, active] using List.countP_eq_zero.1 actives pack listed⟩

end System

/-- The status of a case only moves along the ways that there are, and a case is removed only while
it is new. Once its licence was revoked a case stays as it is, and nothing is issued on it. -/
theorem status_moves_on {system : System} (reached : Reachable system) {id : Nat}
    {application : Application} (stored : system.store.applications.find? id = some application) :
    (∀ step : Step,
      (application.status = .inProgress ∧
          (system.after step).store.applications.find? id = none) ∨
        ∃ next, (system.after step).store.applications.find? id = some next ∧
          (next.status = application.status ∨ next.status ∈ application.status.next)) ∧
    (application.status = .revoked → ∀ later : List Step,
      system.store.Rests (system.follow later).store id) := by
  obtain ⟨steps, rfl⟩ := reachable_iff.1 reached
  obtain ⟨file, found, rfl⟩ := Store.exists_fileOf stored
  refine ⟨fun step => ?_, fun revoked later => ?_⟩
  · rcases System.reaches_after steps step found with ⟨new, gone⟩ | ⟨after, stands, reaches⟩
    · rw [Store.fileOf, Option.map_eq_none_iff] at gone
      exact .inl ⟨new, gone⟩
    · exact .inr ⟨after.application, (Store.fileOf_eq_some_iff.1 stands).1, reaches⟩
  · rw [System.follow_follow]
    exact System.rests_follow steps later found revoked

namespace Sample

theorem revoked_stored :
    ∃ application ∈ (System.initial.follow (issued ++ replaced)).store.applications.rows,
      application.id = 1 ∧ application.status = .revoked := by
  decide +kernel

def furtherAttempts : List Step :=
  [.requestVariation .exporting 1 user "new address", .documentsSigned .exporting 1,
    .approveLicence 1, .reopen .exporting 1, .cancel .exporting 1].map (step false)

end Sample

theorem revoked_rests :
    (System.initial.follow (Sample.issued ++ Sample.replaced)).store.Rests
      ((System.initial.follow (Sample.issued ++ Sample.replaced)).follow
        Sample.furtherAttempts).store 1 := by
  obtain ⟨application, stored, number, revoked⟩ := Sample.revoked_stored
  obtain ⟨-, rests⟩ := status_moves_on (reachable_iff.2 ⟨Sample.issued ++ Sample.replaced, rfl⟩)
    (Table.find?_eq_some_iff.2 ⟨stored, number⟩)
  exact rests revoked Sample.furtherAttempts

end Casework
