import Casework.Proofs.Case.Failures
import Casework.Proofs.Work.Blind

set_option autoImplicit false

namespace Casework

open Calendar

section Moves

variable {context : Context} {id other : Nat} {operation : Operation} {file after : CaseFile}

theorem Edit.case_eq {application : Application}
    (edit : Edit context id operation file application) (addressed : operation.case? = some other) :
    id = other := by
  cases edit
  case reassign caseType ids owner member kind stage =>
    match ids, addressed with
    | [_], rfl => exact List.mem_singleton.1 member
  all_goals exact Option.some.inj addressed

theorem Move.case_eq (move : Move context id operation file after)
    (addressed : operation.case? = some other) : id = other := by
  cases move
  case edit edit => exact edit.case_eq addressed
  all_goals exact Option.some.inj addressed

end Moves

namespace System

variable {system twin : System} {id : Nat}

theorem others_kept (sound : system.store.Sound) (step : Step)
    (addressed : step.operation.case? = some id) {other : Nat} (apart : other ≠ id) :
    (system.after step).store.fileOf other = system.store.fileOf other := by
  rcases after_cases sound step with ⟨-, same⟩ | ⟨-, changes⟩
  · rw [same]
  · have change := changes.files other
    generalize system.store.fileOf other = before at change ⊢
    generalize (system.after step).store.fileOf other = final at change ⊢
    cases change with
    | same => rfl
    | started named =>
      rw [named] at addressed
      cases addressed
    | removed named =>
      rw [named] at addressed
      exact absurd (Option.some.inj addressed) apart
    | moved move => exact absurd (move.case_eq addressed) apart

/-- The systems have the same records of the case, and give out the same numbers. -/
structure Agree (system twin : System) (id : Nat) : Prop where
  file : system.store.fileOf id = twin.store.fileOf id
  numbering : system.store.numbering = twin.store.numbering

/-- The operation comes to the same in both systems, as far as its case goes. -/
structure Coincides (system twin : System) (setting : Setting) (operation : Operation) (id : Nat) :
    Prop where
  answer : (system.perform setting operation).1 = (twin.perform setting operation).1
  agree : (system.perform setting operation).2.Agree (twin.perform setting operation).2 id
  delivered : ∃ delivered,
    (system.perform setting operation).2.accepted = system.accepted ++ delivered ∧
      (twin.perform setting operation).2.accepted = twin.accepted ++ delivered

theorem coincides (setting : Setting) {operation : Operation}
    (addressed : operation.case? = some id) (sound : system.store.Sound)
    (twin_sound : twin.store.Sound) (locked : system.isPoisoned = twin.isPoisoned) {file : CaseFile}
    (found : system.store.fileOf id = some file) (twin_found : twin.store.fileOf id = some file)
    (numbered : system.store.numbering = twin.store.numbering) :
    system.Coincides twin setting operation id := by
  have around : setting.around twin = setting.around system := by
    rw [Setting.around, Setting.around, locked]
  obtain ⟨answer, after, delivered, runs, alone, covers, -⟩ :=
    Operation.blind_work addressed (setting.around system) _ (Store.covers_of_fileOf found)
  obtain ⟨twin_answer, twin_after, twin_delivered, twin_runs, twin_alone, twin_covers, -⟩ :=
    Operation.blind_work addressed (setting.around system) _ (Store.covers_of_fileOf twin_found)
  -- Without the other cases the two stores are one.
  have left := alone []
  rw [Store.solo_eq sound twin_sound found twin_found numbered, twin_alone []] at left
  simp only [List.nil_append, Prod.mk.injEq, Desk.mk.injEq] at left
  obtain ⟨rfl, same, rfl⟩ := left
  have performed := runs system.accepted
  have twin_performed := twin_runs twin.accepted
  rw [← around] at twin_performed
  cases twin_answer with
  | error error =>
    refine ⟨?_, ?_, twin_delivered, ?_⟩
    · rw [perform_of_error performed, perform_of_error twin_performed]
    · rw [perform_of_error performed, perform_of_error twin_performed]
      exact ⟨found.trans twin_found.symm, numbered⟩
    · rw [perform_of_error performed, perform_of_error twin_performed]
      exact ⟨rfl, rfl⟩
  | ok value =>
    have files : after.fileOf id = twin_after.fileOf id := by
      rw [← covers.fileOf_solo, ← same, twin_covers.fileOf_solo]
    have numbers := congrArg Store.numbering same.symm
    refine ⟨?_, ?_, twin_delivered, ?_⟩
    · rw [perform_of_ok performed, perform_of_ok twin_performed]
    · rw [perform_of_ok performed, perform_of_ok twin_performed]
      exact ⟨files, numbers⟩
    · rw [perform_of_ok performed, perform_of_ok twin_performed]
      exact ⟨rfl, rfl⟩

end System

/-- An operation on one case leaves all records of every other case as they are. What it answers,
what it makes of its case and what it hands to the register is the same in every state in which the
case has the same records and new records get the same numbers, whatever other cases there are. -/
theorem cases_apart {system : System} (reached : Reachable system) (setting : Setting)
    {operation : Operation} {id : Nat} (addressed : operation.case? = some id)
    (stored : system.store.applications.contains id = true) :
    (∀ other, other ≠ id →
      (system.perform setting operation).2.store.fileOf other = system.store.fileOf other) ∧
    ∀ twin, Reachable twin → system.Agree twin id →
      system.Coincides twin setting operation id := by
  obtain ⟨steps, rfl⟩ := reachable_iff.1 reached
  refine ⟨fun other apart => ?_, ?_⟩
  · exact System.others_kept (System.sound_follow steps) ⟨setting, operation⟩ addressed apart
  · rintro twin twin_reached ⟨same, numbered⟩
    obtain ⟨twin_steps, rfl⟩ := reachable_iff.1 twin_reached
    rw [← Store.fileOf_isSome_iff] at stored
    obtain ⟨file, found⟩ := Option.isSome_iff_exists.1 stored
    refine System.coincides setting addressed (System.sound_follow steps)
      (System.sound_follow twin_steps) ?_ found (same.symm.trans found) numbered
    rw [System.isPoisoned_follow, System.isPoisoned_follow]

namespace Sample

def besideLicence : List Step := (certificate.take 1 ++ licence.take 1).map (step false)

def besideCertificate : List Step := (certificate.take 1 ++ certificate.take 1).map (step false)

def submission : Step := step false (.submit .exporting 1 user)

theorem beside_agree :
    (System.initial.follow besideLicence).Agree (System.initial.follow besideCertificate) 1 :=
  ⟨rfl, rfl⟩

theorem beside_differ :
    (System.initial.follow besideLicence).store.applications.contains 1 = true ∧
      (System.initial.follow besideLicence).Takes submission ∧
      ((System.initial.follow besideLicence).store.applications.find? 2).map (·.processType) ≠
        ((System.initial.follow besideCertificate).store.applications.find? 2).map
          (·.processType) :=
  ⟨by decide +kernel, System.takes_of_isOk (by decide +kernel), by decide +kernel⟩

end Sample

theorem submission_apart :
    (System.initial.follow Sample.besideLicence).Takes Sample.submission ∧
      ((System.initial.follow Sample.besideLicence).after Sample.submission).store.fileOf 2 =
        (System.initial.follow Sample.besideLicence).store.fileOf 2 ∧
      ((System.initial.follow Sample.besideLicence).after Sample.submission).store.fileOf 1 =
        ((System.initial.follow Sample.besideCertificate).after Sample.submission).store.fileOf 1 ∧
      ((System.initial.follow Sample.besideLicence).store.applications.find? 2).map
          (·.processType) ≠
        ((System.initial.follow Sample.besideCertificate).store.applications.find? 2).map
          (·.processType) := by
  obtain ⟨stored, taken, differ⟩ := Sample.beside_differ
  obtain ⟨kept, twins⟩ := cases_apart (reachable_iff.2 ⟨Sample.besideLicence, rfl⟩)
    Sample.submission.setting (rfl : Sample.submission.operation.case? = some 1) stored
  have coincides := twins _ (reachable_iff.2 ⟨Sample.besideCertificate, rfl⟩) Sample.beside_agree
  exact ⟨taken, kept 2 (by decide), coincides.agree.file, differ⟩

end Casework
