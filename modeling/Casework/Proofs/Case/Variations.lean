import Casework.Proofs.CaseFile.Counts
import Casework.Proofs.CaseFile.Run

set_option autoImplicit false

namespace Casework

open Calendar

section ChangeFirst

variable {α : Type} {wanted : α → Bool} {change : α → α}

theorem countP_changeFirst_ended (ends : ∀ entry, wanted (change entry) = false)
    (entries : List α) :
    (changeFirst wanted change entries).countP wanted = entries.countP wanted - 1 := by
  induction entries with
  | nil => rfl
  | cons head tail ih =>
    unfold changeFirst
    split
    next picked => simp [picked, ends]
    next passed => simp [passed, ih]

theorem countP_changeFirst_kept (keeps : ∀ entry, wanted (change entry) = wanted entry)
    (entries : List α) :
    (changeFirst wanted change entries).countP wanted = entries.countP wanted := by
  induction entries with
  | nil => rfl
  | cons head tail ih =>
    unfold changeFirst
    split
    next picked => simp [picked, keeps]
    next passed => simp [passed, ih]

end ChangeFirst

namespace Application

variable {application : Application}

def openVariations (application : Application) : Nat :=
  application.variations.countP VariationRequest.isOpen

def VariationsFit (application : Application) : Prop :=
  application.openVariations = if application.status = .variationRequested then 1 else 0

def RefusesVariation (application : Application) : Prop :=
  application.isImport = false ∧ application.status = .variationRequested ∧
    application.currentDecision = some .refuse

theorem openVariations_close {outcome : VariationStatus} (closes : outcome ≠ .opened)
    (now : Instant) :
    (application.closeOpenVariation outcome now).openVariations =
      application.openVariations - 1 := by
  refine countP_changeFirst_ended (fun _ => ?_) application.variations
  simpa [VariationRequest.isOpen] using closes

namespace VariationsFit

variable {after : Application}

theorem carry (fit : application.VariationsFit)
    (variations : after.variations = application.variations)
    (status : after.status = .variationRequested ↔ application.status = .variationRequested) :
    after.VariationsFit := by
  unfold VariationsFit at fit ⊢
  rw [openVariations, variations, ← openVariations, fit]
  simp only [status]

theorem ended (fit : application.VariationsFit) (status : after.status ≠ .variationRequested)
    (ended : after.openVariations = application.openVariations - 1) : after.VariationsFit := by
  rw [VariationsFit, if_neg status, ended, fit]
  split <;> rfl

theorem complete (fit : application.VariationsFit) {outcome : VariationStatus}
    (closes : outcome ≠ .opened) (now : Instant) :
    (application.complete outcome now).VariationsFit :=
  fit.ended nofun (openVariations_close closes now)

theorem reject (fit : application.VariationsFit) (now : Instant) :
    (application.rejectVariation now).VariationsFit := by
  refine fit.ended nofun ((openVariations_close (by decide) now).trans (congrArg (· - 1) ?_))
  -- The reason that is recorded first leaves the variation open.
  refine countP_changeFirst_kept ?_ application.variations
  exact fun _ => rfl

theorem withdraw (fit : application.VariationsFit) (now : Instant) :
    (application.withdraw now).VariationsFit := by
  unfold Application.withdraw
  split
  next => exact fit.ended nofun (openVariations_close (by decide) now)
  next unvaried => exact fit.carry rfl (by simp [unvaried])

theorem vary (fit : application.VariationsFit) (idle : application.status ≠ .variationRequested)
    (record : Nat) (user : User) (whatVaried : String) (now : Instant) :
    (application.varied (.asked record user whatVaried now)).VariationsFit := by
  rw [VariationsFit, if_neg idle, openVariations] at fit
  simp [VariationsFit, openVariations, varied, fit, VariationRequest.asked, VariationRequest.isOpen]

end VariationsFit

section Status

variable (user : User) (reference : String) (now : Instant) (licenceNumber : Option Nat)

theorem taken_varied_iff : (application.taken user).status = .variationRequested ↔
    application.status = .variationRequested := by
  simp only [taken]
  split
  next submitted => simp [submitted]
  next => rfl

theorem released_varied_iff : application.released.status = .variationRequested ↔
    application.status = .variationRequested := by
  simp only [released]
  split
  next => rfl
  next unvaried => simp [unvaried]

theorem authorising_varied_iff :
    (application.authorising licenceNumber).status = .variationRequested ↔
      application.status = .variationRequested := by
  simp only [authorising]
  split
  next => rfl
  next unvaried => simp [unvaried]

theorem afterSubmission_varied_iff :
    (application.afterSubmission user reference now).status = .variationRequested ↔
      application.status = .variationRequested := by
  simp only [afterSubmission]
  split
  next varied => simp [varied]
  next unvaried => split <;> simp [unvaried]

end Status

end Application

open Application

theorem Edit.variationsFit {context : Context} {id : Nat} {operation : Operation} {file : CaseFile}
    {application : Application} (edit : Edit context id operation file application)
    (fit : file.application.VariationsFit) : application.VariationsFit := by
  cases edit with
  | takeOwnership => exact fit.carry rfl (taken_varied_iff _)
  | releaseOwnership => exact fit.carry rfl released_varied_iff
  | decision =>
    unfold Application.withDecision
    split <;> exact fit
  | _ => exact fit

namespace CaseFile

variable {file after : CaseFile}

theorem variationsFit_move (fit : file.application.VariationsFit) {context : Context} {id : Nat}
    {operation : Operation} (move : Move context id operation file after)
    (apart : ∀ caseType user, operation = .startAuthorisation caseType id user →
      ¬ file.application.RefusesVariation) : after.application.VariationsFit := by
  cases move with
  | edit edit => exact edit.variationsFit fit
  | startLicence => exact fit.carry rfl (taken_varied_iff _)
  | editLicence | addUpdateRequest | withdrawUpdateRequest | rejectWithdrawal => exact fit
  | authoriseDocuments | sendDocuments | failSigning | retrySigning | resendLicence
  | revertLicence => exact fit
  | submit => exact fit.carry rfl (afterSubmission_varied_iff _ _ _)
  | refuseVariation => exact fit.reject context.now
  | refuse _ _ decided _ varied =>
    -- Only a variation of a certificate is refused as if it were the case itself.
    refine fit.carry rfl ⟨nofun, fun requested => absurd ⟨?_, requested, decided⟩ (apart _ _ rfl)⟩
    simpa [Application.isImportVariation, requested] using varied
  | approve => exact fit.carry rfl (authorising_varied_iff _)
  | issueDocuments =>
    refine fit.complete ?_ context.now
    split <;> decide
  | acceptWithdrawal =>
    refine VariationsFit.withdraw ?_ context.now
    exact fit
  | stop => exact fit.ended nofun (openVariations_close (by decide) context.now)
  | reopen _ stage =>
    refine fit.carry rfl ⟨nofun, fun requested => ?_⟩
    simp [requested] at stage
  | revoke _ stage | revokeAtChief _ stage =>
    refine fit.carry rfl ⟨nofun, fun requested => ?_⟩
    cases requested.symm.trans stage
  | requestVariation _ stage opened =>
    subst opened
    exact (fit.vary (by simp [stage]) _ _ _ _).carry rfl Iff.rfl
  | approveLicence => exact fit.complete (by decide) context.now
  | approveRevocation => exact fit
  | rejectLicence =>
    rw [answer_application]
    exact fit

theorem not_variationsFit_of_refusal (fit : file.application.VariationsFit)
    (refuses : file.application.RefusesVariation) {context : Context} {id : Nat}
    {caseType : CaseType} {user : User}
    (move : Move context id (.startAuthorisation caseType id user) file after) :
    ¬ after.application.VariationsFit := by
  obtain ⟨exported, requested, refused⟩ := refuses
  have one : file.application.openVariations = 1 := fit.trans (if_pos requested)
  cases move with
  | edit edit => cases edit
  | refuseVariation _ _ _ _ varied => simp [Application.isImportVariation, exported] at varied
  | refuse =>
    intro closed
    have none_open : file.application.openVariations = 0 := closed
    omega
  | approve _ _ decided => cases refused.symm.trans decided

end CaseFile

structure System.RefusesVariation (system : System) (step : Step) (id : Nat) : Prop where
  takes : system.Takes step
  asked : ∃ caseType user, step.operation = .startAuthorisation caseType id user
  varied : ∃ application, system.store.applications.find? id = some application ∧
    application.RefusesVariation

namespace System

variable {system : System} {step : Step} {id : Nat}

theorem RefusesVariation.moves (sound : system.store.Sound)
    (refuses : system.RefusesVariation step id) :
    ∃ before after, system.Moves step id before after := by
  obtain ⟨taken, ⟨caseType, user, asked⟩, -⟩ := refuses
  exact taken.moves sound (by rw [asked]; rfl)

theorem RefusesVariation.unfit {steps : List Step}
    (refuses : (initial.follow steps).RefusesVariation step id)
    (fit : ∀ application, (initial.follow steps).store.applications.find? id = some application →
      application.VariationsFit) :
    ∃ application, (initial.follow (steps ++ [step])).store.applications.find? id =
      some application ∧ ¬ application.VariationsFit := by
  obtain ⟨before, after, moves⟩ := refuses.moves (sound_follow steps)
  obtain ⟨-, ⟨caseType, user, asked⟩, application, stored, refused⟩ := refuses
  cases stored.symm.trans moves.stored
  have move := moves.move
  rw [asked] at move
  rw [follow_append]
  exact ⟨after.application, moves.stored_after,
    CaseFile.not_variationsFit_of_refusal (fit _ stored) refused move⟩

end System

theorem CaseFile.variationsFit (steps : List Step) {id : Nat} {file : CaseFile}
    (found : (System.initial.follow steps).store.fileOf id = some file)
    (kept : ¬ Earlier steps (System.RefusesVariation · · id)) : file.application.VariationsFit := by
  refine file_invariant (fun steps id file => ¬ Earlier steps (System.RefusesVariation · · id) →
    file.application.VariationsFit) ?_ ?_ ?_ steps found kept
  · exact fun _ _ _ _ _ _ _ => rfl
  · exact fun _ step _ _ fit kept => fit fun earlier => kept (earlier.more [step])
  · intro steps step id before after moves fit kept
    refine variationsFit_move (fit fun earlier => kept (earlier.more [step])) moves.move ?_
    intro caseType user asked refuses
    exact kept (earlier_last
      ⟨moves.takes, ⟨caseType, user, asked⟩, before.application, moves.stored, refuses⟩)

/-- In all runs a case has just one open variation while one is requested and none otherwise, as
long as no variation of a certificate is refused, and no longer than that. -/
theorem variations_fit_iff (steps : List Step) (id : Nat) :
    (∀ before, before <+: steps → ∀ application,
      (System.initial.follow before).store.applications.find? id = some application →
      application.openVariations = if application.status = .variationRequested then 1 else 0) ↔
    ¬ Earlier steps (System.RefusesVariation · · id) := by
  constructor
  · rintro fit ⟨before, step, rest, rfl, refuses⟩
    obtain ⟨application, stored, unfit⟩ := refuses.unfit (fit before (List.prefix_append _ _))
    exact unfit (fit (before ++ [step]) ⟨rest, by simp⟩ application stored)
  · rintro kept before ⟨rest, rfl⟩ application stored
    obtain ⟨file, found, rfl⟩ := Store.exists_fileOf stored
    exact CaseFile.variationsFit before found fun earlier => kept (earlier.more rest)

/-- Not every completed case has its variations closed: that of a certificate stays open when it is
refused. -/
theorem refused_variation_open :
    ¬ ∀ system, Reachable system → ∀ application ∈ system.store.applications.rows,
      application.openVariations = if application.status = .variationRequested then 1 else 0 := by
  intro fit
  let operations : List Operation := Sample.certificate ++
    [.authoriseDocuments .exporting 1 Sample.user, .documentsSigned .exporting 1,
      .requestVariation .exporting 1 Sample.user "country",
      .takeOwnership .exporting 1 Sample.user,
      .decide .exporting 1 ⟨.refuse, some "not eligible"⟩,
      .startAuthorisation .exporting 1 Sample.user]
  have closed := fit _ (reachable_iff.2 ⟨operations.map (Sample.step false), rfl⟩)
  revert closed
  decide +kernel

end Casework
