import Casework.Proofs.Packs.Life

set_option autoImplicit false

namespace Casework

section Moves

open CaseFile

variable {context : Context} {id : Nat} {operation : Operation} {file after : CaseFile}

theorem Edit.keeps_decisions {application : Application}
    (edit : Edit context id operation file application)
    (undecided : ∀ caseType input, operation ≠ .decide caseType id input) :
    application.decision = file.application.decision ∧
      application.variationDecision = file.application.variationDecision := by
  cases edit with
  | decision => exact absurd rfl (undecided _ _)
  | _ => exact ⟨rfl, rfl⟩

theorem Move.keeps_decisions (move : Move context id operation file after)
    (undecided : ∀ caseType input, operation ≠ .decide caseType id input) :
    after.application.decision = file.application.decision ∧
      (after.application.variationDecision = file.application.variationDecision ∨
        after.application.variationDecision = none) := by
  cases move with
  | edit edit => exact ⟨(edit.keeps_decisions undecided).1, .inl (edit.keeps_decisions undecided).2⟩
  | acceptWithdrawal =>
    simp only [put_application, Application.withdraw]
    split <;> exact ⟨rfl, .inl rfl⟩
  | requestVariation _ _ opened =>
    subst opened
    exact ⟨rfl, .inr rfl⟩
  | rejectLicence =>
    rw [answer_application]
    exact ⟨rfl, .inl rfl⟩
  | _ => exact ⟨rfl, .inl rfl⟩

theorem Move.varied {caseType : CaseType} {user : User} {whatVaried : String}
    (move : Move context id (.requestVariation caseType id user whatVaried) file after) :
    after.application.status = .variationRequested ∧
      after.application.decision = file.application.decision ∧
      after.application.variationDecision = none := by
  cases move with
  | edit edit => cases edit
  | requestVariation _ _ opened =>
    subst opened
    exact ⟨rfl, rfl, rfl⟩

theorem Move.decided {caseType : CaseType} {user : User}
    (move : Move context id (.startAuthorisation caseType id user) file after) :
    file.application.currentDecision.isSome = true := by
  cases move with
  | edit edit => cases edit
  | refuseVariation _ _ decided | refuse _ _ decided | approve _ _ decided =>
    rw [decided]
    rfl

end Moves

namespace System

def Decides (system : System) (step : Step) (id : Nat) : Prop :=
  system.Takes step ∧ ∃ caseType input, step.operation = .decide caseType id input

def Varies (system : System) (step : Step) (id : Nat) : Prop :=
  system.Takes step ∧
    ∃ caseType user whatVaried, step.operation = .requestVariation caseType id user whatVaried

structure Undecided (old : Option Decision) (file : CaseFile) : Prop where
  started : file.application.status ≠ .inProgress
  decision : file.application.decision = old
  variation : file.application.variationDecision = none

variable {steps : List Step} {step : Step} {id : Nat}

theorem Varies.undecided (varies : (initial.follow steps).Varies step id) :
    ∃ before after, (initial.follow steps).store.fileOf id = some before ∧
      (initial.follow (steps ++ [step])).store.fileOf id = some after ∧
      Undecided before.application.decision after := by
  obtain ⟨taken, caseType, user, whatVaried, asked⟩ := varies
  obtain ⟨before, after, moves⟩ := taken.moves (sound_follow steps) (by rw [asked]; rfl)
  have move := moves.move
  rw [asked] at move
  obtain ⟨stage, decision, variation⟩ := move.varied
  rw [follow_append]
  exact ⟨before, after, moves.found, moves.becomes, by simp [stage], decision, variation⟩

theorem Moves.undecided {before after : CaseFile} {old : Option Decision}
    (moves : (initial.follow steps).Moves step id before after) (undecided : Undecided old before) :
    (initial.follow steps).Decides step id ∨ Undecided old after := by
  by_cases decides : (initial.follow steps).Decides step id
  · exact .inl decides
  · obtain ⟨decision, variation⟩ := moves.move.keeps_decisions fun caseType input asked =>
      decides ⟨moves.takes, caseType, input, asked⟩
    refine .inr ⟨fun new => undecided.started (moves.move.of_inProgress new).1,
      decision.trans undecided.decision, ?_⟩
    rcases variation with same | cleared
    · exact same.trans undecided.variation
    · exact cleared

end System

/-- A variation is authorised on a decision made since it was requested, unless it is that of a
certificate: then the decision can be the one that stood before. -/
theorem variation_decided (before between : List Step) (varying : Step) (setting : Setting)
    (caseType : CaseType) (id : Nat) (user : User) {application : Application}
    (varies : (System.initial.follow before).Varies varying id)
    (taken : (System.initial.follow (before ++ varying :: between)).Takes
      ⟨setting, .startAuthorisation caseType id user⟩)
    (stored : (System.initial.follow (before ++ varying :: between)).store.applications.find? id =
      some application)
    (stage : application.status = .variationRequested) :
    (∃ first deciding rest, between = first ++ deciding :: rest ∧
      (System.initial.follow (before ++ varying :: first)).Decides deciding id) ∨
      (application.isImport = false ∧ ∃ old,
        (System.initial.follow before).store.applications.find? id = some old ∧
          application.currentDecision = old.decision) := by
  obtain ⟨old, file, found, varied, undecided⟩ := varies.undecided
  rw [List.append_cons] at taken stored
  rcases file_lasts (System.Undecided old.application.decision) (System.Decides · · id)
      (fun _ _ _ undecided => undecided.started) (fun _ _ _ _ moves => moves.undecided)
      (before ++ [varying]) between varied undecided with
    ⟨first, deciding, rest, shape, decides⟩ | ⟨last, known, undecided⟩
  · rw [← List.append_cons] at decides
    exact .inl ⟨first, deciding, rest, shape, decides⟩
  · obtain ⟨start, after, moves⟩ := taken.moves (System.sound_follow _) rfl
    cases known.symm.trans moves.found
    cases (Store.fileOf_eq_some_iff.1 known).1.symm.trans stored
    have decided := moves.move.decided
    -- The decision on an import's variation has been cleared, and nothing is authorised without.
    have exported : last.application.isImport = false := by
      by_contra imported
      rw [Bool.not_eq_false] at imported
      simp [Application.currentDecision, Application.isImportVariation, imported, stage,
        undecided.variation] at decided
    refine .inr ⟨exported, old.application, (Store.fileOf_eq_some_iff.1 found).1, ?_⟩
    simp [Application.currentDecision, Application.isImportVariation, exported,
      undecided.decision]

namespace Sample

def varying : Step := step false (.requestVariation .exporting 1 user "new address")

def reauthorising : Step := step false (.startAuthorisation .exporting 1 user)

theorem issued_varies : (System.initial.follow issued).Varies varying 1 :=
  ⟨System.takes_of_isOk (by decide +kernel), _, _, _, rfl⟩

theorem issued_authorised : (System.initial.follow (issued ++ [varying])).Takes reauthorising :=
  System.takes_of_isOk (by decide +kernel)

theorem issued_undecided : ∃ application,
    (System.initial.follow (issued ++ [varying])).store.applications.find? 1 = some application ∧
      application.status = .variationRequested := by
  have known : ((System.initial.follow (issued ++ [varying])).store.applications.find? 1).any
      (·.status == .variationRequested) = true := by
    decide +kernel
  simpa [Option.any_eq_true] using known

end Sample

theorem issued_old_decision :
    (System.initial.follow Sample.issued).Varies Sample.varying 1 ∧
      (System.initial.follow (Sample.issued ++ [Sample.varying])).Takes Sample.reauthorising ∧
      ∃ application, (System.initial.follow
          (Sample.issued ++ [Sample.varying])).store.applications.find? 1 = some application ∧
        application.isImport = false ∧
        ∃ old, (System.initial.follow Sample.issued).store.applications.find? 1 = some old ∧
          application.currentDecision = old.decision := by
  obtain ⟨application, stored, stage⟩ := Sample.issued_undecided
  refine ⟨Sample.issued_varies, Sample.issued_authorised, application, stored, ?_⟩
  rcases variation_decided Sample.issued [] Sample.varying Sample.reauthorising.setting .exporting
      1 Sample.user Sample.issued_varies Sample.issued_authorised stored stage with
    ⟨first, _, _, shape, -⟩ | old
  · cases first <;> cases shape
  · exact old

/-- A certificate is varied and authorised again without a further decision. -/
theorem authorised_undecided :
    ¬ ∀ (before between : List Step) (varying : Step) (setting : Setting) (caseType : CaseType)
        (id : Nat) (user : User) (application : Application),
      (System.initial.follow before).Varies varying id →
      (System.initial.follow (before ++ varying :: between)).Takes
        ⟨setting, .startAuthorisation caseType id user⟩ →
      (System.initial.follow (before ++ varying :: between)).store.applications.find? id =
        some application →
      application.status = .variationRequested →
      ∃ first deciding rest, between = first ++ deciding :: rest ∧
        (System.initial.follow (before ++ varying :: first)).Decides deciding id := by
  intro decided
  obtain ⟨application, stored, stage⟩ := Sample.issued_undecided
  obtain ⟨first, _, _, shape, -⟩ := decided Sample.issued [] Sample.varying
    Sample.reauthorising.setting .exporting 1 Sample.user application Sample.issued_varies
    Sample.issued_authorised stored stage
  cases first <;> cases shape

end Casework
