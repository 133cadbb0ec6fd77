import Casework.Proofs.CaseFile.Counts
import Casework.Proofs.CaseFile.Run

set_option autoImplicit false

namespace Casework

def Operation.enters (id : Nat) : Operation → Bool
  | .edit _ other _ | .submit _ other _ => other == id
  | _ => false

theorem Operation.enters_cases {id : Nat} {operation : Operation}
    (entered : operation.enters id = true) :
    (∃ caseType goods, operation = .edit caseType id goods) ∨
      ∃ caseType user, operation = .submit caseType id user := by
  cases operation with
  | edit caseType other goods =>
    rw [beq_iff_eq.1 entered]
    exact .inl ⟨caseType, goods, rfl⟩
  | submit caseType other user =>
    rw [beq_iff_eq.1 entered]
    exact .inr ⟨caseType, user, rfl⟩
  | _ => cases entered

section Moves

open CaseFile

variable {context : Context} {id : Nat} {operation : Operation} {file after : CaseFile}

theorem Edit.enters_of_new {application : Application}
    (edit : Edit context id operation file application)
    (new : file.application.status = .inProgress) : operation.enters id = true := by
  cases edit with
  | goods => exact beq_self_eq_true id
  | takeOwnership _ current | releaseOwnership _ current | checklist _ current
  | decision _ current | informationRequest _ current | informationClosed _ current
  | closeUpdate _ current | email _ current | emailClosed _ current =>
    have stage := current.status
    simp [new, openStates, processingStates] at stage
  | reassign _ _ stage | withdrawal _ stage | informationResponse _ stage | startUpdate _ stage =>
    simp [new, openStates, processingStates] at stage

theorem Move.enters_of_new (move : Move context id operation file after)
    (new : file.application.status = .inProgress) : operation.enters id = true := by
  cases move with
  | edit edit => exact edit.enters_of_new new
  | submit => exact beq_self_eq_true id
  | startLicence _ current | refuseVariation _ current | refuse _ current | approve _ current
  | authoriseDocuments _ current | sendDocuments _ current | issueDocuments _ current
  | failSigning _ current | retrySigning _ current | stop _ current | addUpdateRequest _ current
  | withdrawUpdateRequest _ current =>
    have stage := current.status
    simp [new, openStates, processingStates] at stage
  | editLicence _ _ current =>
    have stage := current.status
    simp [new, processingStates] at stage
  | approveLicence current | approveRevocation current | rejectLicence current
  | resendLicence current | revertLicence current =>
    have stage := current.status
    simp [new, awaitedReply, processingStates] at stage
  | acceptWithdrawal _ stage | rejectWithdrawal _ stage | reopen _ stage | revoke _ stage
  | revokeAtChief _ stage | requestVariation _ stage =>
    simp [new, openStates] at stage

theorem Edit.details_eq {application : Application}
    (edit : Edit context id operation file application) (unentered : operation.enters id = false) :
    application.submissionErrors = file.application.submissionErrors := by
  cases edit with
  | goods => simp [Operation.enters] at unentered
  | decision =>
    unfold Application.withDecision
    split <;> rfl
  | _ => rfl

theorem Move.details_eq (move : Move context id operation file after)
    (unentered : operation.enters id = false) :
    after.application.submissionErrors = file.application.submissionErrors := by
  cases move with
  | edit edit => exact edit.details_eq unentered
  | submit => simp [Operation.enters] at unentered
  | acceptWithdrawal =>
    simp only [put_application, Application.withdraw]
    split <;> rfl
  | requestVariation _ _ opened =>
    subst opened
    rfl
  | rejectLicence => rw [answer_application]; rfl
  | _ => rfl

theorem Move.complete {caseType : CaseType} {user : User}
    (move : Move context id (.submit caseType id user) file after) :
    after.application.submissionErrors.isEmpty = true := by
  cases move with
  | edit edit => cases edit
  | submit _ _ _ _ complete => exact complete

theorem Move.entered {caseType : CaseType} {goods : Goods}
    (move : Move context id (.edit caseType id goods) file after) :
    after.application = { file.application with goods } := by
  cases move with
  | edit edit =>
    cases edit with
    | goods => rfl

end Moves

namespace System

variable {system : System} {step : Step} {id : Nat}

def Enters (system : System) (step : Step) (id : Nat) : Prop :=
  system.Takes step ∧ step.operation.enters id = true

def LeavesOut (system : System) (step : Step) (id : Nat) : Prop :=
  system.Takes step ∧ ∃ caseType goods application,
    step.operation = .edit caseType id goods ∧
    system.store.applications.find? id = some application ∧ application.status ≠ .inProgress ∧
    { application with goods }.submissionErrors.isEmpty = false

theorem Enters.moves (sound : system.store.Sound) (enters : system.Enters step id) :
    ∃ before after, system.Moves step id before after := by
  obtain ⟨taken, entered⟩ := enters
  refine taken.moves sound ?_
  rcases Operation.enters_cases entered with ⟨_, _, named⟩ | ⟨_, _, named⟩ <;> rw [named] <;> rfl

theorem LeavesOut.enters (leaves : system.LeavesOut step id) : system.Enters step id := by
  obtain ⟨taken, caseType, goods, application, named, -⟩ := leaves
  refine ⟨taken, ?_⟩
  rw [named]
  exact beq_self_eq_true id

theorem Moves.incomplete_iff {before after : CaseFile} (moves : system.Moves step id before after)
    (enters : system.Enters step id) (old : after.application.status ≠ .inProgress) :
    after.application.submissionErrors.isEmpty = false ↔ system.LeavesOut step id := by
  have move := moves.move
  rcases Operation.enters_cases enters.2 with ⟨caseType, goods, named⟩ | ⟨caseType, user, named⟩
  · rw [named] at move
    rw [move.entered] at old ⊢
    constructor
    · exact fun incomplete => ⟨enters.1, caseType, goods, _, named, moves.stored, old, incomplete⟩
    · rintro ⟨-, _, _, _, same, found, -, incomplete⟩
      cases named.symm.trans same
      cases moves.stored.symm.trans found
      exact incomplete
  -- What is handed in is complete, and handing in is no edit.
  · rw [named] at move
    rw [move.complete]
    constructor
    · exact fun incomplete => by cases incomplete
    · rintro ⟨-, _, _, _, same, -⟩
      cases named.symm.trans same

end System

theorem CaseFile.incomplete_iff (steps : List Step) {id : Nat} {file : CaseFile}
    (found : (System.initial.follow steps).store.fileOf id = some file)
    (old : file.application.status ≠ .inProgress) :
    file.application.submissionErrors.isEmpty = false ↔
      Since steps (System.LeavesOut · · id) (System.Enters · · id) := by
  induction steps using List.reverseRecOn generalizing file with
  | nil => cases found
  | append_singleton steps step ih =>
    have sound := System.sound_follow steps
    rw [since_append_iff]
    rw [System.follow_append] at found
    by_cases enters : (System.initial.follow steps).Enters step id
    · obtain ⟨before, after, moves⟩ := enters.moves sound
      cases moves.becomes.symm.trans found
      rw [moves.incomplete_iff enters old, or_iff_left fun lasting => lasting.2 enters]
    · rw [or_iff_right fun leaves => enters leaves.enters, and_iff_left enters]
      rcases System.case_before sound step found with
        same | ⟨_, _, _, _, -, -, -, rfl⟩ | ⟨before, moves⟩
      · exact ih same old
      · exact absurd rfl old
      · have unentered : step.operation.enters id = false := by
          simpa using fun entered => enters ⟨moves.takes, entered⟩
        have earlier : before.application.status ≠ .inProgress := fun new => by
          simp [moves.move.enters_of_new new] at unentered
        rw [moves.move.details_eq unentered]
        exact ih moves.found earlier

/-- A case that is authorised lacks details if and only if it was edited so after it had been
submitted, and its applicant has neither edited it again nor handed it in since. -/
theorem authorised_incomplete_iff (steps : List Step) (setting : Setting) (caseType : CaseType)
    (id : Nat) (user : User) {application : Application}
    (taken : (System.initial.follow steps).Takes
      ⟨setting, .startAuthorisation caseType id user⟩)
    (stored : (System.initial.follow steps).store.applications.find? id = some application) :
    application.submissionErrors.isEmpty = false ↔
      Since steps (System.LeavesOut · · id) (System.Enters · · id) := by
  obtain ⟨file, found, rfl⟩ := Store.exists_fileOf stored
  obtain ⟨answer, desk, ran⟩ := taken.ran
  obtain ⟨_, authorised, -⟩ := Work.map_eq_ok_iff.1 ran
  have moved := Work.startAuthorisation_moves (System.sound_follow steps) authorised
  obtain ⟨before, after, moves⟩ := System.moves_of_moved ran moved
  cases found.symm.trans moves.found
  -- The case is not new, since its applicant cannot authorise it.
  refine CaseFile.incomplete_iff steps found fun new => ?_
  cases moves.move.enters_of_new new

namespace Sample

def unfinished : List Step :=
  let submitted : List Operation := certificate.take 3
  let updated : List Operation :=
    [.addUpdateRequest .exporting 1 "Add a country",
      .startUpdate .exporting 1 1,
      .edit .exporting 1 (.certified ⟨[], [], []⟩)]
  (submitted ++ updated ++ (approval .exporting).take 2).map (step false)

def authorisation : Step := step false (.startAuthorisation .exporting 1 user)

theorem unfinished_taken : (System.initial.follow unfinished).Takes authorisation :=
  System.takes_of_isOk (by decide +kernel)

theorem unfinished_stored : ∃ application,
    (System.initial.follow unfinished).store.applications.find? 1 = some application ∧
      application.currentDecision = some .approve ∧
        application.submissionErrors.isEmpty = false := by
  have stored : ((System.initial.follow unfinished).store.applications.find? 1).any
      (fun application => application.currentDecision == some .approve &&
        !application.submissionErrors.isEmpty) = true := by
    decide +kernel
  simpa [Option.any_eq_true] using stored

end Sample

theorem unfinished_incomplete :
    ∃ application,
      (System.initial.follow Sample.unfinished).store.applications.find? 1 = some application ∧
        application.submissionErrors.isEmpty = false ∧
          Since Sample.unfinished (System.LeavesOut · · 1) (System.Enters · · 1) := by
  obtain ⟨application, stored, -, incomplete⟩ := Sample.unfinished_stored
  exact ⟨application, stored, incomplete, (authorised_incomplete_iff Sample.unfinished _ _ 1 _
    Sample.unfinished_taken stored).1 incomplete⟩

/-- Authorisation does not look at what the application lacks. -/
theorem authorised_incomplete :
    ¬ ∀ system, Reachable system → ∀ setting caseType id user application,
      system.Takes ⟨setting, .startAuthorisation caseType id user⟩ →
        system.store.applications.find? id = some application →
          application.currentDecision = some .approve →
            application.submissionErrors.isEmpty = true := by
  intro complete
  obtain ⟨application, stored, approved, incomplete⟩ := Sample.unfinished_stored
  have lacks_nothing := complete _ (reachable_iff.2 ⟨Sample.unfinished, rfl⟩) _ _ _ _ application
    Sample.unfinished_taken stored approved
  rw [incomplete] at lacks_nothing
  cases lacks_nothing

end Casework
