import Casework.Proofs.Case.Correspondence
import Casework.Proofs.Case.Particulars

set_option autoImplicit false

namespace Casework

open Calendar

namespace Application

def asksWithdrawal (application : Application) : Bool :=
  application.withdrawals.any (·.isOpen)

def StrandsWithdrawal (application : Application) : Prop :=
  application.asksWithdrawal = true ∧ application.status ∉ openStates

variable {application after : Application}

theorem not_strandsWithdrawal_of_open (working : application.status ∈ openStates) :
    ¬ application.StrandsWithdrawal := fun stranded => stranded.2 working

theorem strandsWithdrawal_congr (withdrawals : after.withdrawals = application.withdrawals)
    (status : after.status ∈ openStates ↔ application.status ∈ openStates) :
    after.StrandsWithdrawal ↔ application.StrandsWithdrawal := by
  unfold StrandsWithdrawal asksWithdrawal
  rw [withdrawals, status]

theorem LettersFit.answered (fit : application.LettersFit) (user : User)
    {status : WithdrawalStatus} (answers : status ≠ .opened) (reply : Option String) :
    (application.answerWithdrawal user status reply).asksWithdrawal = false := by
  have counted := application.countP_open_answer user answers reply
  have single := fit.withdrawal
  rw [length_open] at single
  have none_open : (application.answerWithdrawal user status reply).withdrawals.countP
      Withdrawal.isOpen = 0 := by omega
  simpa [asksWithdrawal, List.countP_eq_zero] using none_open

theorem asksWithdrawal_withdraw (now : Instant) :
    (application.withdraw now).asksWithdrawal = application.asksWithdrawal := by
  unfold withdraw
  split <;> rfl

end Application

/-- The operation closes a case that is open, other than by accepting a withdrawal. -/
inductive Operation.Closes (application : Application) (id : Nat) : Operation → Prop where
  | refusal {caseType : CaseType} {user : User}
      (refused : application.currentDecision = some .refuse) :
      Closes application id (.startAuthorisation caseType id user)
  | issue {caseType : CaseType} (kept : application.goesToChief = false) :
      Closes application id (.documentsSigned caseType id)
  | approval (standing : application.status ≠ .revoked) : Closes application id (.approveLicence id)
  | stop {caseType : CaseType} : Closes application id (.stop caseType id)

inductive Operation.TakesUp (id : Nat) : Operation → Prop where
  | reopen {caseType : CaseType} : TakesUp id (.reopen caseType id)
  | variation {caseType : CaseType} {user : User} {whatVaried : String} :
      TakesUp id (.requestVariation caseType id user whatVaried)

section Moves

open CaseFile Application

variable {context : Context} {id : Nat} {operation : Operation} {file after : CaseFile}

inductive CaseFile.Parting (id : Nat) (file : CaseFile) (operation : Operation)
    (after : CaseFile) : Prop where
  | carried (opens : ¬ operation.TakesUp id) (closes : ¬ operation.Closes file.application id)
      (stranded : after.application.StrandsWithdrawal ↔ file.application.StrandsWithdrawal)
  | closed (closes : operation.Closes file.application id)
      (before : file.application.status ∈ openStates)
      (status : after.application.status ∉ openStates)
      (withdrawals : after.application.withdrawals = file.application.withdrawals)
  | opened (opens : operation.TakesUp id) (closes : ¬ operation.Closes file.application id)
      (status : after.application.status ∈ openStates)

theorem completed_closed : CaseStatus.completed ∉ openStates := by decide

theorem submitted_open : CaseStatus.submitted ∈ openStates := by decide

theorem stopped_closed : CaseStatus.stopped ∉ openStates := by decide

theorem Edit.parting {application : Application}
    (edit : Edit context id operation file application) :
    CaseFile.Parting id file operation (file.put application) := by
  have status : application.status ∈ openStates ↔ file.application.status ∈ openStates := by
    rcases edit.status_cases with same | ⟨before, stage⟩
    · rw [same]
    · exact iff_of_true stage before
  cases edit with
  | withdrawal _ stage =>
    exact .carried (by rintro ⟨⟩) (by rintro ⟨⟩) (iff_of_false (not_strandsWithdrawal_of_open stage)
      (not_strandsWithdrawal_of_open stage))
  | decision =>
    refine .carried (by rintro ⟨⟩) (by rintro ⟨⟩) (strandsWithdrawal_congr ?_ status)
    unfold Application.withDecision
    split <;> rfl
  | _ => exact .carried (by rintro ⟨⟩) (by rintro ⟨⟩) (strandsWithdrawal_congr rfl status)

theorem Move.parting (move : Move context id operation file after)
    (fit : file.application.LettersFit)
    (new : file.application.status = .inProgress → file.application.asksWithdrawal = false) :
    CaseFile.Parting id file operation after := by
  cases move with
  | edit edit => exact edit.parting
  | startLicence _ current =>
    refine .carried (by rintro ⟨⟩) (by rintro ⟨⟩) (strandsWithdrawal_congr rfl ?_)
    have stage := current.status
    simp only [List.mem_cons, List.not_mem_nil, or_false] at stage
    rcases stage with stage | stage <;> simp [Application.taken, stage, openStates]
  | submit _ editing =>
    refine .carried (by rintro ⟨⟩) (by rintro ⟨⟩)
      (iff_of_false (not_strandsWithdrawal_of_open ?_) ?_)
    · simp only [put_application, afterSubmission]
      split
      · decide
      · split <;> decide
    · rintro ⟨asks, closed⟩
      rcases List.mem_cons.1 editing.status_mem with started | working
      · rw [new started] at asks
        cases asks
      · exact closed working
  | refuseVariation _ current decided | refuse _ current decided =>
    exact .closed (.refusal decided) (List.mem_cons_of_mem _ current.status) completed_closed rfl
  | approve _ current decided =>
    refine .carried (by rintro ⟨⟩) ?_ (iff_of_false (not_strandsWithdrawal_of_open ?_)
      (not_strandsWithdrawal_of_open (List.mem_cons_of_mem _ current.status)))
    · intro closes
      cases closes with
      | refusal refused => cases decided.symm.trans refused
    · simp only [put_application, Application.authorising]
      split
      next varied => simp [varied, openStates]
      next => decide
  | sendDocuments _ _ sent =>
    refine .carried (by rintro ⟨⟩) ?_ Iff.rfl
    intro closes
    cases closes with
    | issue kept => cases sent.symm.trans kept
  | issueDocuments _ current kept =>
    exact .closed (.issue kept) (List.mem_cons_of_mem _ current.status) completed_closed rfl
  | @acceptWithdrawal _ _ user answer _ _ stage =>
    refine .carried (by rintro ⟨⟩) (by rintro ⟨⟩)
      (iff_of_false ?_ (not_strandsWithdrawal_of_open stage))
    have answered := fit.answered user (show WithdrawalStatus.accepted ≠ .opened by decide) answer
    rintro ⟨asks, -⟩
    rw [put_application, asksWithdrawal_withdraw, answered] at asks
    cases asks
  | rejectWithdrawal _ stage =>
    exact .carried (by rintro ⟨⟩) (by rintro ⟨⟩) (iff_of_false (not_strandsWithdrawal_of_open stage)
      (not_strandsWithdrawal_of_open stage))
  | stop _ current => exact .closed .stop current.status stopped_closed rfl
  | reopen => exact .opened .reopen (by rintro ⟨⟩) submitted_open
  | revoke _ stage | revokeAtChief _ stage =>
    refine .carried (by rintro ⟨⟩) (by rintro ⟨⟩) (strandsWithdrawal_congr rfl ?_)
    simp [stage, openStates]
  | requestVariation _ _ opened =>
    subst opened
    exact .opened .variation (by rintro ⟨⟩) (by simp [Application.varied, openStates])
  | approveLicence current =>
    have stage := current.status
    refine .closed (.approval ?_) (List.mem_cons_of_mem _ stage) completed_closed rfl
    intro revoked
    simp [revoked, processingStates] at stage
  | approveRevocation current =>
    refine .carried (by rintro ⟨⟩) ?_ Iff.rfl
    intro closes
    cases closes with
    | approval standing => exact standing (List.mem_singleton.1 current.status)
  | rejectLicence =>
    refine .carried (by rintro ⟨⟩) (by rintro ⟨⟩) ?_
    rw [answer_application]
    rfl
  | _ => exact .carried (by rintro ⟨⟩) (by rintro ⟨⟩) Iff.rfl

end Moves

theorem CaseFile.new_asks_nothing (steps : List Step) {id : Nat} {file : CaseFile}
    (found : (System.initial.follow steps).store.fileOf id = some file)
    (new : file.application.status = .inProgress) : file.application.asksWithdrawal = false := by
  refine file_invariant (fun _ _ file => file.application.status = .inProgress →
    file.application.asksWithdrawal = false) ?_ ?_ ?_ steps found new
  · exact fun _ _ _ _ _ _ _ => rfl
  · exact fun _ _ _ _ silent => silent
  · intro _ _ _ before after moves silent new
    rcases moves.move.of_new (moves.move.new_kept new).1 with ⟨old, -⟩ | ⟨goods, rfl⟩
    · exact absurd new old
    · exact silent new

namespace System

variable {system : System} {step : Step} {id : Nat}

/-- The step closes a case while a withdrawal waits for an answer. -/
structure LeavesWithdrawal (system : System) (step : Step) (id : Nat) : Prop where
  takes : system.Takes step
  closes : ∃ application, system.store.applications.find? id = some application ∧
    application.asksWithdrawal = true ∧ step.operation.Closes application id

structure TakesUp (system : System) (step : Step) (id : Nat) : Prop where
  takes : system.Takes step
  opens : step.operation.TakesUp id

theorem LeavesWithdrawal.moves (sound : system.store.Sound)
    (leaves : system.LeavesWithdrawal step id) :
    ∃ before after, system.Moves step id before after := by
  obtain ⟨takes, application, -, -, closes⟩ := leaves
  refine takes.moves sound ?_
  generalize step.operation = operation at closes
  cases closes <;> rfl

theorem TakesUp.moves (sound : system.store.Sound) (opens : system.TakesUp step id) :
    ∃ before after, system.Moves step id before after := by
  obtain ⟨takes, opens⟩ := opens
  refine takes.moves sound ?_
  generalize step.operation = operation at opens
  cases opens <;> rfl

theorem Moves.leavesWithdrawal_iff {before after : CaseFile}
    (moves : system.Moves step id before after) :
    system.LeavesWithdrawal step id ↔ before.application.asksWithdrawal = true ∧
      step.operation.Closes before.application id := by
  constructor
  · rintro ⟨-, application, stored, asks, closes⟩
    cases stored.symm.trans moves.stored
    exact ⟨asks, closes⟩
  · rintro ⟨asks, closes⟩
    exact ⟨moves.takes, before.application, moves.stored, asks, closes⟩

theorem Moves.stranded_iff {before after : CaseFile} (moves : system.Moves step id before after)
    (parting : CaseFile.Parting id before step.operation after) :
    after.application.StrandsWithdrawal ↔ system.LeavesWithdrawal step id ∨
      (before.application.StrandsWithdrawal ∧ ¬ system.TakesUp step id) := by
  rw [moves.leavesWithdrawal_iff]
  cases parting with
  | carried opens closes stranded =>
    rw [stranded, or_iff_right fun left => closes left.2,
      and_iff_left fun taken => opens taken.opens]
  | closed closes working status withdrawals =>
    have asks : after.application.asksWithdrawal = before.application.asksWithdrawal := by
      rw [Application.asksWithdrawal, withdrawals, Application.asksWithdrawal]
    rw [or_iff_left fun stranded => stranded.1.2 working, and_iff_left closes,
      Application.StrandsWithdrawal, asks, and_iff_left status]
  | opened opens closes status =>
    refine iff_of_false (Application.not_strandsWithdrawal_of_open status) ?_
    rintro (left | ⟨-, shut⟩)
    · exact closes left.2
    · exact shut ⟨moves.takes, opens⟩

end System

def WithdrawalLeft (steps : List Step) (id : Nat) : Prop :=
  Since steps (System.LeavesWithdrawal · · id) (System.TakesUp · · id)

theorem WithdrawalLeft.stored {steps : List Step} {id : Nat} (left : WithdrawalLeft steps id) :
    ∃ file, (System.initial.follow steps).store.fileOf id = some file := by
  obtain ⟨before, step, rest, rfl, leaves, -⟩ := left
  obtain ⟨file, after, moves⟩ := leaves.moves (System.sound_follow before)
  obtain ⟨asks, -⟩ := moves.leavesWithdrawal_iff.1 leaves
  have old : file.application.status ≠ .inProgress := fun new => by
    rw [CaseFile.new_asks_nothing before moves.found new] at asks
    cases asks
  exact CaseFile.exists_later before (step :: rest) moves.found old

theorem CaseFile.stranded_iff_left (steps : List Step) {id : Nat} {file : CaseFile}
    (found : (System.initial.follow steps).store.fileOf id = some file) :
    file.application.StrandsWithdrawal ↔ WithdrawalLeft steps id := by
  have moved : ∀ steps (step : Step) id before after,
      (System.initial.follow steps).Moves step id before after →
      (before.application.StrandsWithdrawal ↔ WithdrawalLeft steps id) →
        (after.application.StrandsWithdrawal ↔ WithdrawalLeft (steps ++ [step]) id) := by
    intro steps step id before after moves earlier
    have parting := moves.move.parting (letters_fit steps moves.found)
      (new_asks_nothing steps moves.found)
    rw [moves.stranded_iff parting, earlier, WithdrawalLeft, WithdrawalLeft, since_append_iff]
  refine file_history (fun steps id file => file.application.StrandsWithdrawal ↔
    WithdrawalLeft steps id) ?_ ?_ moved steps found
  · intro steps step id draft task pack missing created
    refine iff_of_false (fun stranded => Bool.false_ne_true stranded.1) fun left => ?_
    rcases since_append_iff.1 left with leaves | ⟨left, -⟩
    · obtain ⟨before, after, moves⟩ := leaves.moves (System.sound_follow steps)
      cases missing.symm.trans moves.found
    · obtain ⟨file, found⟩ := WithdrawalLeft.stored left
      cases missing.symm.trans found
  · intro steps step id file before last earlier
    -- A step that leaves the file as it is may still be one that moves the case.
    by_cases still : ∃ first second, (System.initial.follow steps).Moves step id first second
    · obtain ⟨first, second, moves⟩ := still
      rw [System.follow_append] at last
      cases before.symm.trans moves.found
      cases last.symm.trans moves.becomes
      exact moved steps step id file file moves earlier
    · rw [earlier, WithdrawalLeft, WithdrawalLeft, since_append_iff]
      have sound := System.sound_follow steps
      rw [or_iff_right fun leaves => still (leaves.moves sound),
        and_iff_left fun opens => still (opens.moves sound)]

/-- In all runs a withdrawal waits for an answer in a case that is not open just when the case was
closed over it and has not been opened since: a refusal, an issue, an approval by the register and a
stop do not look at it. -/
theorem stranded_withdrawal_iff (steps : List Step) {id : Nat} {application : Application}
    (stored : (System.initial.follow steps).store.applications.find? id = some application) :
    (application.withdrawals.any (·.isOpen) = true ∧
      application.status ∉ [CaseStatus.submitted, .processing, .variationRequested]) ↔
    Since steps (System.LeavesWithdrawal · · id) (System.TakesUp · · id) := by
  obtain ⟨file, found, rfl⟩ := Store.exists_fileOf stored
  exact CaseFile.stranded_iff_left steps found

namespace Sample

def issuedOverWithdrawal : List Step :=
  let signed : List Operation :=
    [.authoriseDocuments .exporting 1 user, .requestWithdrawal .exporting 1 user "changed plans",
      .documentsSigned .exporting 1]
  (certificate ++ signed).map (step false)

theorem issuedOverWithdrawal_completed :
    ∃ application ∈ (System.initial.follow issuedOverWithdrawal).store.applications.rows,
      application.id = 1 ∧ application.status = .completed ∧
        application.withdrawals.any (·.isOpen) = true := by
  decide +kernel

end Sample

theorem issuedOverWithdrawal_left :
    Since Sample.issuedOverWithdrawal (System.LeavesWithdrawal · · 1) (System.TakesUp · · 1) := by
  obtain ⟨application, stored, number, completed, asks⟩ := Sample.issuedOverWithdrawal_completed
  exact (stranded_withdrawal_iff Sample.issuedOverWithdrawal
    (Table.find?_eq_some_iff.2 ⟨stored, number⟩)).1 ⟨asks, by rw [completed]; decide⟩

/-- Not every case with a withdrawal to answer is open. -/
theorem completed_over_withdrawal :
    ¬ ∀ system, Reachable system → ∀ application ∈ system.store.applications.rows,
      application.withdrawals.any (·.isOpen) = true →
        application.status ∈ [CaseStatus.submitted, .processing, .variationRequested] := by
  intro working
  obtain ⟨application, stored, -, completed, asks⟩ := Sample.issuedOverWithdrawal_completed
  have stage := working _ (reachable_iff.2 ⟨Sample.issuedOverWithdrawal, rfl⟩) application
    stored asks
  rw [completed] at stage
  exact completed_closed stage

-- The old request then withdraws a variation that nobody asked to withdraw.
example :
    let operations : List Operation := Sample.certificate ++
      [.authoriseDocuments .exporting 1 Sample.user,
        .requestWithdrawal .exporting 1 Sample.user "changed plans", .documentsSigned .exporting 1,
        .requestVariation .exporting 1 Sample.user "country",
        .respondToWithdrawal .exporting 1 Sample.user true none]
    let last := System.initial.follow (operations.map (Sample.step false))
    last.store.applications.rows.map (fun application =>
      (application.status, application.variations.map (·.status))) =
        [(.completed, [.withdrawn])] := by
  decide +kernel

end Casework
