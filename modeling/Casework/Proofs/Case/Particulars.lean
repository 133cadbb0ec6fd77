import Casework.Proofs.Case.Stages

set_option autoImplicit false

namespace Casework

open Calendar

namespace Application

structure HandedIn (application : Application) : Prop where
  reference : application.reference.isSome = true
  submitted : application.submitted.isSome = true
  submittedBy : application.submittedBy.isSome = true

structure Untouched (application : Application) : Prop where
  reference : application.reference = none
  submitted : application.submitted = none
  submittedBy : application.submittedBy = none
  owner : application.owner = none
  decision : application.decision = none
  variationDecision : application.variationDecision = none

def ActivityFits (application : Application) : Prop :=
  application.isActive = false ↔ application.status = .withdrawn

structure OwnerFits (application : Application) : Prop where
  untaken : application.status = .submitted → application.owner = none
  taken : application.status = .processing → application.owner.isSome = true

variable {application : Application}

theorem ActivityFits.ofActive (active : application.isActive = true)
    (standing : application.status ≠ .withdrawn) : application.ActivityFits := by
  refine ⟨fun inactive => ?_, fun withdrawn => absurd withdrawn standing⟩
  rw [active] at inactive
  cases inactive

theorem ActivityFits.active (fits : application.ActivityFits)
    (standing : application.status.isGivenUp = false) : application.isActive = true := by
  rw [← Bool.not_eq_false]
  intro inactive
  rw [fits.1 inactive] at standing
  cases standing

theorem ActivityFits.taken (active : application.isActive = true)
    (stage : application.status ∈ [CaseStatus.submitted, .variationRequested]) (user : User) :
    (application.taken user).ActivityFits := by
  refine .ofActive active ?_
  simp only [List.mem_cons, List.not_mem_nil, or_false] at stage
  rcases stage with stage | stage <;> simp [Application.taken, stage]

theorem OwnerFits.ofSettled (first : application.status ≠ .submitted)
    (second : application.status ≠ .processing) : application.OwnerFits :=
  ⟨fun untaken => absurd untaken first, fun taken => absurd taken second⟩

theorem ownerFits_taken (application : Application) (user : User) :
    (application.taken user).OwnerFits := by
  refine ⟨fun untaken => ?_, fun _ => rfl⟩
  simp only [taken] at untaken
  split at untaken
  next => cases untaken
  next other => exact absurd untaken other

theorem ownerFits_afterSubmission (application : Application) (user : User) (reference : String)
    (now : Instant) : (application.afterSubmission user reference now).OwnerFits := by
  -- Whether the case is taken up again is read off its owner.
  simp only [afterSubmission]
  by_cases varied : application.status = .variationRequested
  · exact .ofSettled (by simp [varied]) (by simp [varied])
  · cases owned : application.owner with
    | none => exact ⟨fun _ => rfl, fun taken => by simp [varied] at taken⟩
    | some owner => exact ⟨fun untaken => by simp [varied] at untaken, fun _ => rfl⟩

end Application

section Moves

open CaseFile

variable {context : Context} {id : Nat} {operation : Operation} {file after : CaseFile}

theorem Edit.suits {application : Application}
    (suits : file.application.goods.suits file.application.processType = true)
    (edit : Edit context id operation file application) :
    application.goods.suits application.processType = true := by
  cases edit with
  | goods _ _ suited => exact suited
  | decision => unfold Application.withDecision; split <;> exact suits
  | _ => exact suits

theorem Move.suits (suits : file.application.goods.suits file.application.processType = true)
    (move : Move context id operation file after) :
    after.application.goods.suits after.application.processType = true := by
  cases move with
  | edit edit => exact edit.suits suits
  | acceptWithdrawal =>
    simp only [put_application, Application.withdraw]
    split <;> exact suits
  | requestVariation _ _ opened =>
    subst opened
    exact suits
  | rejectLicence =>
    rw [answer_application]
    exact suits
  | _ => exact suits

theorem Edit.activityFits {application : Application} (fits : file.application.ActivityFits)
    (edit : Edit context id operation file application) : application.ActivityFits := by
  cases edit with
  | takeOwnership _ current => exact .taken current.active current.status _
  | releaseOwnership _ current =>
    refine .ofActive current.active ?_
    simp only [Application.released]
    split
    next varied => simp [varied]
    next => simp
  | decision => unfold Application.withDecision; split <;> exact fits
  | _ => exact fits

theorem Move.activityFits (fits : file.application.ActivityFits)
    (move : Move context id operation file after) : after.application.ActivityFits := by
  -- Only reopening changes a case that was given up, and every other case is active.
  have active : (∀ caseType, operation ≠ .reopen caseType id) →
      file.application.isActive = true := by
    intro apart
    refine fits.active (Bool.not_eq_true _ ▸ fun up => ?_)
    obtain ⟨caseType, reopened⟩ := move.reopens up
    exact apart caseType reopened
  cases move with
  | edit edit => exact edit.activityFits fits
  | startLicence _ current => exact .taken current.active current.status _
  | submit _ _ live =>
    refine .ofActive live ?_
    simp only [put_application, Application.afterSubmission]
    split
    · simp
    · split <;> simp
  | refuseVariation _ current =>
    exact .ofActive current.active (by simp [Application.rejectVariation])
  | refuse _ current => exact .ofActive current.active (by simp)
  | approve _ current =>
    refine .ofActive current.active ?_
    simp only [put_application, Application.authorising]
    split
    next varied => simp [varied]
    next => simp
  | issueDocuments _ current => exact .ofActive current.active (by simp [Application.complete])
  | acceptWithdrawal =>
    simp only [put_application, Application.withdraw]
    split
    · exact .ofActive (active fun _ same => by cases same) (by simp)
    · exact ⟨fun _ => rfl, fun _ => rfl⟩
  | stop _ current => exact .ofActive current.active (by simp)
  | reopen => exact .ofActive rfl (by simp)
  | revoke => exact .ofActive (active fun _ same => by cases same) (by simp)
  | revokeAtChief => exact .ofActive (active fun _ same => by cases same) (by simp)
  | requestVariation _ _ opened =>
    subst opened
    exact .ofActive (active fun _ same => by cases same) (by simp [Application.varied])
  | approveLicence current => exact .ofActive current.active (by simp [Application.complete])
  | rejectLicence =>
    rw [answer_application]
    exact fits
  | _ => exact fits

theorem Edit.ownerFits {application : Application} (fits : file.application.OwnerFits)
    (edit : Edit context id operation file application) : application.OwnerFits := by
  cases edit with
  | takeOwnership => exact Application.ownerFits_taken _ _
  | releaseOwnership _ current =>
    refine ⟨fun _ => rfl, fun taken => ?_⟩
    simp only [Application.released] at taken
    split at taken
    next varied => rw [varied] at taken; cases taken
    next => cases taken
  | reassign _ _ stage =>
    refine ⟨fun untaken => ?_, fun _ => rfl⟩
    rw [show file.application.status = .submitted from untaken] at stage
    simp [processingStates] at stage
  | decision => unfold Application.withDecision; split <;> exact ⟨fits.untaken, fits.taken⟩
  | _ => exact ⟨fits.untaken, fits.taken⟩

theorem Move.ownerFits (fits : file.application.OwnerFits)
    (move : Move context id operation file after) : after.application.OwnerFits := by
  cases move with
  | edit edit => exact edit.ownerFits fits
  | startLicence => exact Application.ownerFits_taken _ _
  | submit => exact Application.ownerFits_afterSubmission _ _ _ _
  | approve _ current =>
    -- A case that is authorised has been taken, so it is only its stage that is set again.
    have stage := current.status
    simp only [processingStates, List.mem_cons, List.not_mem_nil, or_false] at stage
    rcases stage with stage | stage
    · exact ⟨fun untaken => by simp [Application.authorising, stage] at untaken,
        fun _ => fits.taken stage⟩
    · exact .ofSettled (by simp [Application.authorising, stage])
        (by simp [Application.authorising, stage])
  | acceptWithdrawal =>
    simp only [put_application, Application.withdraw]
    split <;> exact .ofSettled (by simp) (by simp)
  | reopen => exact ⟨fun _ => rfl, fun taken => by cases taken⟩
  | requestVariation _ _ opened =>
    subst opened
    exact .ofSettled (by simp [Application.varied]) (by simp [Application.varied])
  | rejectLicence =>
    rw [answer_application]
    exact fits
  | refuseVariation | refuse | issueDocuments | stop | revoke | revokeAtChief | approveLicence =>
    exact .ofSettled (by simp [Application.rejectVariation, Application.complete])
      (by simp [Application.rejectVariation, Application.complete])
  | _ => exact ⟨fits.untaken, fits.taken⟩

theorem Edit.handedIn {application : Application} (handed : file.application.HandedIn)
    (edit : Edit context id operation file application) : application.HandedIn := by
  obtain ⟨reference, submitted, submittedBy⟩ := handed
  cases edit with
  | decision =>
    unfold Application.withDecision
    split <;> exact ⟨reference, submitted, submittedBy⟩
  | _ => exact ⟨reference, submitted, submittedBy⟩

theorem Move.handedIn (handed : file.application.HandedIn)
    (move : Move context id operation file after) : after.application.HandedIn := by
  obtain ⟨reference, submitted, submittedBy⟩ := handed
  cases move with
  | edit edit => exact edit.handedIn ⟨reference, submitted, submittedBy⟩
  | submit => exact ⟨rfl, rfl, rfl⟩
  | acceptWithdrawal =>
    simp only [put_application, Application.withdraw]
    split <;> exact ⟨reference, submitted, submittedBy⟩
  | requestVariation _ _ opened =>
    subst opened
    exact ⟨rfl, submitted, submittedBy⟩
  | rejectLicence =>
    rw [answer_application]
    exact ⟨reference, submitted, submittedBy⟩
  | _ => exact ⟨reference, submitted, submittedBy⟩

theorem Move.of_new (move : Move context id operation file after)
    (new : file.application.status = .inProgress) :
    (after.application.status ≠ .inProgress ∧ after.application.HandedIn) ∨
      ∃ goods, after = file.put { file.application with goods } := by
  rcases Operation.enters_cases (move.enters_of_new new) with ⟨_, _, rfl⟩ | ⟨_, _, rfl⟩
  · cases move with
    | edit edit =>
      cases edit with
      | goods => exact .inr ⟨_, rfl⟩
  · cases move with
    | edit edit => cases edit
    | submit =>
      refine .inl ⟨?_, rfl, rfl, rfl⟩
      simp only [put_application, Application.afterSubmission]
      split
      · simp
      · split <;> simp

end Moves

namespace CaseFile

/-- What is recorded of the case fits its status. -/
structure FactsFit (file : CaseFile) : Prop where
  activity : file.application.ActivityFits
  owner : file.application.OwnerFits
  new : file.application.status = .inProgress →
    file.application.Untouched ∧ file.documents = [] ∧ file.requests = []
  handedIn : file.application.status ≠ .inProgress → file.application.HandedIn

theorem FactsFit.move {file after : CaseFile} (facts : file.FactsFit) {context : Context}
    {id : Nat} {operation : Operation} (move : Move context id operation file after) :
    after.FactsFit := by
  refine ⟨move.activityFits facts.activity, move.ownerFits facts.owner, fun new => ?_,
    fun old => ?_⟩
  · have before := (move.new_kept new).1
    obtain ⟨untouched, documents, requests⟩ := facts.new before
    rcases move.of_new before with ⟨old, -⟩ | ⟨goods, rfl⟩
    · exact absurd new old
    · exact ⟨⟨untouched.reference, untouched.submitted, untouched.submittedBy, untouched.owner,
        untouched.decision, untouched.variationDecision⟩, documents, requests⟩
  · by_cases new : file.application.status = .inProgress
    · rcases move.of_new new with ⟨-, handed⟩ | ⟨goods, rfl⟩
      · exact handed
      · exact absurd new old
    · exact move.handedIn (facts.handedIn new)

theorem facts_fit (steps : List Step) {id : Nat} {file : CaseFile}
    (found : (System.initial.follow steps).store.fileOf id = some file) : file.FactsFit := by
  refine file_invariant (fun _ _ file => file.FactsFit) ?_ ?_ ?_ steps found
  · intro _ step id draft task pack
    refine ⟨.ofActive rfl (by simp [started, NewApplication.toApplication]),
      .ofSettled (by simp [started, NewApplication.toApplication])
        (by simp [started, NewApplication.toApplication]), fun _ => ?_, fun old => absurd rfl old⟩
    exact ⟨⟨rfl, rfl, rfl, rfl, rfl, rfl⟩, rfl, rfl⟩
  · exact fun _ _ _ _ facts => facts
  · exact fun _ _ _ _ _ moves facts => facts.move moves.move

theorem suits (steps : List Step) {id : Nat} {file : CaseFile}
    (found : (System.initial.follow steps).store.fileOf id = some file) :
    file.application.goods.suits file.application.processType = true := by
  induction steps using List.reverseRecOn generalizing file with
  | nil => cases found
  | append_singleton steps step ih =>
    rw [System.follow_append] at found
    rcases System.case_before (System.sound_follow steps) step found with
      same | ⟨_, _, _, _, -, suited, -, rfl⟩ | ⟨_, moves⟩
    · exact ih same
    · exact suited
    · exact moves.move.suits (ih moves.found)

end CaseFile

/-- The goods of a case are of its kind, and it is inactive exactly when it was withdrawn. A new
case has nothing but its goods, and every other one was handed in; it has no owner while it waits
for a caseworker and one when it is processed. -/
theorem case_recorded {system : System} (reached : Reachable system) {application : Application}
    (stored : application ∈ system.store.applications.rows) :
    application.goods.suits application.processType = true ∧
    (application.isActive = false ↔ application.status = .withdrawn) ∧
    (application.status = .inProgress →
      application.Untouched ∧
      (∀ pack ∈ system.store.packsOf application.id, system.store.documentsOf pack.id = []) ∧
      system.store.requestsOf application.id = []) ∧
    (application.status ≠ .inProgress → application.HandedIn) ∧
    (application.status = .submitted → application.owner = none) ∧
    (application.status = .processing → application.owner.isSome = true) := by
  obtain ⟨steps, rfl⟩ := reachable_iff.1 reached
  obtain ⟨file, found, rfl⟩ := Store.exists_fileOf (Table.find?_eq_some_iff.2 ⟨stored, rfl⟩)
  have facts := CaseFile.facts_fit steps found
  obtain ⟨-, -, packs, -, requests⟩ := Store.fileOf_eq_some_iff.1 found
  refine ⟨CaseFile.suits steps found, facts.activity, fun new => ?_, facts.handedIn,
    facts.owner.untaken, facts.owner.taken⟩
  obtain ⟨untouched, undocumented, unsent⟩ := facts.new new
  refine ⟨untouched, fun pack listed => ?_, requests.trans unsent⟩
  rw [Store.documentsOf_eq found (packs ▸ listed), undocumented]
  rfl

namespace Sample

def twoCases : List Step :=
  (certificate.take 3 ++ licence.take 1).map (step false)

theorem twoCases_stored :
    (∃ application ∈ (System.initial.follow twoCases).store.applications.rows,
      application.id = 1 ∧ application.status = .processing) ∧
    ∃ application ∈ (System.initial.follow twoCases).store.applications.rows,
      application.id = 2 ∧ application.status = .inProgress := by
  decide +kernel

end Sample

theorem twoCases_recorded :
    ∃ first ∈ (System.initial.follow Sample.twoCases).store.applications.rows,
      ∃ second ∈ (System.initial.follow Sample.twoCases).store.applications.rows,
        first.HandedIn ∧ first.owner.isSome = true ∧ second.Untouched := by
  obtain ⟨⟨first, taken, -, processed⟩, second, started, -, new⟩ := Sample.twoCases_stored
  have reached : Reachable (System.initial.follow Sample.twoCases) :=
    reachable_iff.2 ⟨Sample.twoCases, rfl⟩
  obtain ⟨-, -, -, handed, -, owned⟩ := case_recorded reached taken
  obtain ⟨-, -, untouched, -⟩ := case_recorded reached started
  exact ⟨first, taken, second, started, handed (by simp [processed]), owned processed,
    (untouched new).1⟩

end Casework
