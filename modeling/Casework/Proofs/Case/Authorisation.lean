import Casework.Case.Completeness

set_option autoImplicit false

namespace Casework

namespace FieldErrors

variable {errors : FieldErrors} {field message : String}

@[simp] theorem isEmpty_add : (errors.add field message).isEmpty = false := by
  obtain ⟨entries⟩ := errors
  cases entries with
  | nil => rfl
  | cons entry entries =>
    simp only [add, addTo, isEmpty]
    split
    · rfl
    · split <;> rfl

@[simp] theorem isEmpty_addIf_iff {wrong : Bool} :
    (errors.addIf wrong field message).isEmpty = true ↔ errors.isEmpty = true ∧ wrong = false := by
  cases wrong <;> simp [addIf]

@[simp] theorem isEmpty_require_iff {α : Type} {value : Option α} :
    (errors.require field value).isEmpty = true ↔
      errors.isEmpty = true ∧ value.isSome = true := by
  simp [require]

end FieldErrors

namespace Application

variable {application : Application} {errors : FieldErrors}

theorem decisionErrors_isEmpty (none_found : (application.decisionErrors errors).isEmpty = true) :
    application.currentDecision.isSome = true ∧ errors.isEmpty = true := by
  rw [decisionErrors] at none_found
  split at none_found
  next => simp at none_found
  next decided =>
    rw [FieldErrors.isEmpty_addIf_iff] at none_found
    simp [decided, none_found.1]
  next decided => simp [decided, none_found]

theorem draftErrors_isEmpty {draft : Except PackError Pack}
    (none_found : (application.draftErrors draft errors).isEmpty = true) :
    errors.isEmpty = true ∧ ∃ pack, draft = .ok pack ∧ pack.startDate.isSome = true ∧
      pack.endDate.isSome = true ∧
        ∃ paperOnly, pack.paperOnly = some paperOnly ∧
          application.terms.supports paperOnly = true := by
  cases draft with
  | error failure => simp [draftErrors] at none_found
  | ok pack =>
    cases medium : pack.paperOnly with
    | none => simp [draftErrors, medium] at none_found
    | some paperOnly =>
      simp only [draftErrors, medium, FieldErrors.isEmpty_addIf_iff,
        FieldErrors.isEmpty_require_iff, Bool.not_eq_false'] at none_found
      obtain ⟨⟨⟨clean, starts⟩, ends⟩, supported⟩ := none_found
      exact ⟨clean, pack, rfl, starts, ends, paperOnly, medium, supported⟩

theorem approved_of_decided (decided : application.currentDecision.isSome = true)
    (kept : application.currentDecision ≠ some .refuse) :
    application.currentDecision = some .approve := by
  obtain ⟨decision, taken⟩ := Option.isSome_iff_exists.1 decided
  cases decision with
  | approve => exact taken
  | refuse => exact absurd taken kept

theorem authorisationErrors_isEmpty {store : Store}
    (none_found : (application.authorisationErrors store).isEmpty = true) :
    application.currentDecision.isSome = true ∧ application.hasOpenUpdateRequests = false ∧
      (application.isImport = true → application.currentDecision = some .approve →
        ∃ pack, store.draftPack application.id = .ok pack ∧ pack.startDate.isSome = true ∧
          pack.endDate.isSome = true ∧
            ∃ paperOnly, pack.paperOnly = some paperOnly ∧
              application.terms.supports paperOnly = true) := by
  rw [authorisationErrors] at none_found
  split at none_found
  next =>
    obtain ⟨clean, draft⟩ := draftErrors_isEmpty none_found
    simp only [FieldErrors.isEmpty_addIf_iff] at clean
    obtain ⟨⟨⟨⟨decision, -⟩, -⟩, updates⟩, -⟩ := clean
    exact ⟨(decisionErrors_isEmpty decision).1, updates, fun _ _ => draft⟩
  next unapproved =>
    simp only [FieldErrors.isEmpty_addIf_iff] at none_found
    obtain ⟨⟨⟨⟨decision, -⟩, -⟩, updates⟩, -⟩ := none_found
    refine ⟨(decisionErrors_isEmpty decision).1, updates, fun imported approved => ?_⟩
    simp [imported, approved] at unapproved

end Application

end Casework
