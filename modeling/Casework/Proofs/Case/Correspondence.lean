import Mathlib.Logic.Relation
import Casework.Proofs.Case.Entries
import Casework.Proofs.Case.Updates
import Casework.Proofs.Case.Variations

set_option autoImplicit false

namespace Casework

open Calendar
open Relation (ReflGen ReflTransGen)

def CorrespondenceStatus.next : CorrespondenceStatus → List CorrespondenceStatus
  | .opened => [.responded, .closed]
  | .responded => [.closed]
  | .draft | .closed | .deleted => []

def UpdateStatus.next : UpdateStatus → List UpdateStatus
  | .opened => [.inProgress, .draft]
  | .inProgress => [.responded]
  | .responded => [.closed]
  | .draft | .closed | .deleted => []

def VariationStatus.next : VariationStatus → List VariationStatus
  | .opened => [.accepted, .rejected, .withdrawn, .cancelled, .closed]
  | .draft | .accepted | .rejected | .withdrawn | .cancelled | .closed => []

def WithdrawalStatus.next : WithdrawalStatus → List WithdrawalStatus
  | .opened => [.accepted, .rejected]
  | .accepted | .rejected | .deleted => []

theorem VariationRequest.isOpen_iff {variation : VariationRequest} :
    variation.isOpen = true ↔ variation.status = .opened := beq_iff_eq

theorem Withdrawal.isOpen_iff {withdrawal : Withdrawal} :
    withdrawal.isOpen = true ↔ withdrawal.status = .opened := beq_iff_eq

theorem changeFirst_changeFirst {α : Type} {wanted : α → Bool} {change again : α → α}
    (keeps : ∀ entry, wanted (change entry) = wanted entry) (entries : List α) :
    changeFirst wanted again (changeFirst wanted change entries) =
      changeFirst wanted (fun entry => again (change entry)) entries := by
  induction entries with
  | nil => rfl
  | cons head tail ih =>
    by_cases picked : wanted head = true
    · simp [changeFirst, picked, keeps]
    · simp [changeFirst, picked, ih]

section Lists

variable {α β σ : Type} {closure : (σ → σ → Prop) → σ → σ → Prop} {made : α → β} {status : α → σ}
  {next : σ → List σ} {before between after : List α}

/-- The list has become the other: what an entry was made with stays, in its place, and its status
has moved as `closure` lets it. Only behind these there are new entries. -/
def Grows (closure : (σ → σ → Prop) → σ → σ → Prop) (made : α → β) (status : α → σ)
    (next : σ → List σ) (before after : List α) : Prop :=
  ∀ (position : Nat) (old : α), before[position]? = some old →
    ∃ new, after[position]? = some new ∧ made new = made old ∧
      closure (fun first second => second ∈ next first) (status old) (status new)

namespace Grows

theorem appended (added : List α) :
    Grows ReflGen made status next before (before ++ added) := by
  intro position old found
  obtain ⟨inside, -⟩ := List.getElem?_eq_some_iff.1 found
  exact ⟨old, (List.getElem?_append_left inside).trans found, rfl, .refl⟩

theorem refl (entries : List α) : Grows ReflGen made status next entries entries :=
  fun _ old found => ⟨old, found, rfl, .refl⟩

theorem mapped {change : α → α} (same : ∀ entry, made (change entry) = made entry)
    (moves : ∀ entry, status (change entry) = status entry ∨
      status (change entry) ∈ next (status entry)) :
    Grows ReflGen made status next before (before.map change) := by
  intro position old found
  refine ⟨change old, by rw [List.getElem?_map, found]; rfl, same old, ?_⟩
  rcases moves old with stays | moved
  · rw [stays]
  · exact .single moved

theorem changed {wanted : α → Bool} {change : α → α}
    (same : ∀ entry, made (change entry) = made entry)
    (moves : ∀ entry, before.find? wanted = some entry →
      status (change entry) = status entry ∨ status (change entry) ∈ next (status entry)) :
    Grows ReflGen made status next before (changeFirst wanted change before) := by
  induction before with
  | nil => exact refl []
  | cons head tail ih =>
    unfold changeFirst
    by_cases picked : wanted head = true
    · rw [if_pos picked]
      rintro (_ | position) old found
      · cases found
        refine ⟨change head, rfl, same head, ?_⟩
        rcases moves head (List.find?_cons_of_pos picked) with stays | moved
        · rw [stays]
        · exact .single moved
      · exact ⟨old, found, rfl, .refl⟩
    · rw [if_neg picked]
      rintro (_ | position) old found
      · exact ⟨old, found, rfl, .refl⟩
      · refine ih (fun entry looked => moves entry ?_) position old found
        rw [List.find?_cons_of_neg picked, looked]

theorem given {wanted : α → Bool} {change : α → α} {entry : α}
    (found : before.find? wanted = some entry) (same : ∀ entry, made (change entry) = made entry)
    (moves : status (change entry) ∈ next (status entry)) :
    Grows ReflGen made status next before (changeFirst wanted change before) := by
  refine changed same fun other looked => ?_
  cases found.symm.trans looked
  exact .inr moves

theorem trans (first : Grows ReflTransGen made status next before between)
    (second : Grows ReflTransGen made status next between after) :
    Grows ReflTransGen made status next before after := by
  intro position old found
  obtain ⟨middle, between_found, same, moved⟩ := first position old found
  obtain ⟨last, after_found, same_again, moved_again⟩ := second position middle between_found
  exact ⟨last, after_found, same_again.trans same, moved.trans moved_again⟩

theorem of_step (grows : Grows ReflGen made status next before after) :
    Grows ReflTransGen made status next before after := by
  intro position old found
  obtain ⟨new, after_found, same, moved⟩ := grows position old found
  exact ⟨new, after_found, same, moved.to_reflTransGen⟩

end Grows

end Lists

namespace Application

/-- All that is written in the case goes on: in one step with `ReflGen`, where a status moves once
at most, and in any number of steps with `ReflTransGen`. -/
structure GoesOn (closure : {σ : Type} → (σ → σ → Prop) → σ → σ → Prop)
    (before after : Application) : Prop where
  informationRequests : Grows closure (fun request => (request.id, request.subject))
    (·.status) CorrespondenceStatus.next before.informationRequests after.informationRequests
  updateRequests : Grows closure (fun request => (request.id, request.subject))
    (·.status) UpdateStatus.next before.updateRequests after.updateRequests
  emails : Grows closure (fun email => (email.id, email.recipient))
    (·.status) CorrespondenceStatus.next before.emails after.emails
  variations : Grows closure
    (fun variation => (variation.id, variation.whatVaried, variation.requestedBy,
      variation.requestedAt))
    (·.status) VariationStatus.next before.variations after.variations
  withdrawals : Grows closure
    (fun withdrawal => (withdrawal.id, withdrawal.reason, withdrawal.requestedBy))
    (·.status) WithdrawalStatus.next before.withdrawals after.withdrawals

variable {before between after : Application}

namespace GoesOn

theorem refl (application : Application) : application.GoesOn ReflGen application :=
  ⟨.refl _, .refl _, .refl _, .refl _, .refl _⟩

theorem trans (first : before.GoesOn ReflTransGen between)
    (second : between.GoesOn ReflTransGen after) : before.GoesOn ReflTransGen after where
  informationRequests := first.informationRequests.trans second.informationRequests
  updateRequests := first.updateRequests.trans second.updateRequests
  emails := first.emails.trans second.emails
  variations := first.variations.trans second.variations
  withdrawals := first.withdrawals.trans second.withdrawals

theorem of_step (step : before.GoesOn ReflGen after) : before.GoesOn ReflTransGen after where
  informationRequests := step.informationRequests.of_step
  updateRequests := step.updateRequests.of_step
  emails := step.emails.of_step
  variations := step.variations.of_step
  withdrawals := step.withdrawals.of_step

end GoesOn

section Closing

variable (application : Application) (now : Instant)

theorem goesOn_closeOpenVariation {outcome : VariationStatus}
    (ends : outcome ∈ VariationStatus.opened.next) :
    application.GoesOn ReflGen (application.closeOpenVariation outcome now) := by
  refine { GoesOn.refl application with
    variations := .changed (fun _ => rfl) fun variation looked => .inr ?_ }
  rwa [VariationRequest.isOpen_iff.1 (List.find?_some looked)]

theorem goesOn_rejectVariation :
    application.GoesOn ReflGen (application.rejectVariation now) := by
  -- The reason that is recorded first leaves the variation open, so it is the same one that ends.
  have once : (application.rejectVariation now).variations =
      changeFirst VariationRequest.isOpen
        (fun variation => { variation with
          rejectionReason := application.variationRefuseReason
          status := .rejected, closedAt := some now }) application.variations := by
    simp only [rejectVariation, closeOpenVariation]
    rw [changeFirst_changeFirst]
    exact fun _ => rfl
  refine { GoesOn.refl application with variations := ?_ }
  rw [once]
  refine .changed (fun _ => rfl) fun variation looked => .inr ?_
  rw [VariationRequest.isOpen_iff.1 (List.find?_some looked)]
  exact List.mem_cons_of_mem _ List.mem_cons_self

theorem goesOn_answerWithdrawal (user : User) {status : WithdrawalStatus}
    (answers : status ∈ WithdrawalStatus.opened.next) (answer : Option String) :
    application.GoesOn ReflGen (application.answerWithdrawal user status answer) := by
  refine { GoesOn.refl application with
    withdrawals := .changed (fun _ => rfl) fun withdrawal looked => .inr ?_ }
  rwa [Withdrawal.isOpen_iff.1 (List.find?_some looked)]

-- Of an accepted withdrawal and an open variation, both end at once.
theorem goesOn_withdraw (user : User) (answer : Option String) :
    application.GoesOn ReflGen
      ((application.answerWithdrawal user .accepted answer).withdraw now) := by
  have accepts : WithdrawalStatus.accepted ∈ WithdrawalStatus.opened.next := by decide
  have answered := application.goesOn_answerWithdrawal user accepts answer
  unfold withdraw
  split
  · exact { answered with
      variations := (application.goesOn_closeOpenVariation now (by decide)).variations }
  · exact { answered with }

theorem goesOn_afterSubmission (user : User) (reference : String) :
    application.GoesOn ReflGen (application.afterSubmission user reference now) := by
  refine { GoesOn.refl application with updateRequests := .mapped ?_ ?_ }
  · intro request
    split <;> rfl
  · intro request
    split
    next started => simp [started, UpdateStatus.next]
    next => exact .inl rfl

end Closing

end Application

section Moves

open CaseFile

variable {context : Context} {id : Nat} {operation : Operation} {file after : CaseFile}

theorem Edit.goesOn {application : Application}
    (edit : Edit context id operation file application) :
    file.application.GoesOn ReflGen application := by
  have same := Application.GoesOn.refl file.application
  cases edit with
  | withdrawal => exact { same with withdrawals := .appended _ }
  | informationRequest => exact { same with informationRequests := .appended _ }
  | email => exact { same with emails := .appended _ }
  | informationResponse _ _ found opened =>
    refine { same with informationRequests := .given found (fun _ => rfl) ?_ }
    simp [opened, CorrespondenceStatus.next]
  | informationClosed _ _ found closable =>
    refine { same with informationRequests := .given found (fun _ => rfl) ?_ }
    rcases closable with state | state <;> simp [state, CorrespondenceStatus.next]
  | emailClosed _ _ found closable =>
    refine { same with emails := .given found (fun _ => rfl) ?_ }
    rcases closable with state | state <;> simp [state, CorrespondenceStatus.next]
  | startUpdate _ _ found opened =>
    refine { same with updateRequests := .given found (fun _ => rfl) ?_ }
    simp [opened, UpdateStatus.next]
  | closeUpdate _ _ found responded =>
    refine { same with updateRequests := .given found (fun _ => rfl) ?_ }
    simp [responded, UpdateStatus.next]
  | decision =>
    unfold Application.withDecision
    split <;> exact { same with }
  | _ => exact { same with }

theorem Move.goesOn (move : Move context id operation file after) :
    file.application.GoesOn ReflGen after.application := by
  have same := Application.GoesOn.refl file.application
  cases move with
  | edit edit => exact edit.goesOn
  | submit => exact file.application.goesOn_afterSubmission context.now _ _
  | refuseVariation => exact file.application.goesOn_rejectVariation context.now
  | issueDocuments =>
    have ends : (if file.application.isImport then VariationStatus.accepted else .closed) ∈
        VariationStatus.opened.next := by split <;> decide
    exact { file.application.goesOn_closeOpenVariation context.now ends with }
  | approveLicence =>
    have ends : VariationStatus.accepted ∈ VariationStatus.opened.next := by decide
    exact { file.application.goesOn_closeOpenVariation context.now ends with }
  | stop =>
    have ends : VariationStatus.cancelled ∈ VariationStatus.opened.next := by decide
    exact { file.application.goesOn_closeOpenVariation context.now ends with }
  | acceptWithdrawal => exact file.application.goesOn_withdraw context.now _ _
  | rejectWithdrawal => exact file.application.goesOn_answerWithdrawal _ (by decide) _
  | requestVariation _ _ opened =>
    subst opened
    exact { same with variations := .appended _ }
  | addUpdateRequest => exact { same with updateRequests := .appended _ }
  | withdrawUpdateRequest _ _ found opened =>
    refine { same with updateRequests := .given found (fun _ => rfl) ?_ }
    simp [opened, UpdateStatus.next]
  | rejectLicence => rw [answer_application]; exact { same with }
  | _ => exact { same with }

end Moves

def Consecutive (ids : List Nat) : Prop := ids = List.range' 1 ids.length

theorem Consecutive.appended {α : Type} {number : α → Nat} {entries : List α} {entry : α}
    (numbered : Consecutive (entries.map number)) (following : number entry = entries.length + 1) :
    Consecutive ((entries ++ [entry]).map number) := by
  unfold Consecutive at numbered ⊢
  rw [List.length_map] at numbered
  rw [List.map_append, List.length_append, List.length_map, List.map_singleton,
    List.length_singleton, List.range'_1_concat, ← numbered, following, Nat.add_comm]

theorem Consecutive.changed {α : Type} {number : α → Nat} {entries : List α} {wanted : α → Bool}
    {change : α → α} (numbered : Consecutive (entries.map number))
    (same : ∀ entry, number (change entry) = number entry) :
    Consecutive ((changeFirst wanted change entries).map number) := by
  rwa [map_changeFirst same]

theorem length_filter_appended {α : Type} {wanted : α → Bool} {entries : List α}
    (none : entries.filter wanted = []) (entry : α) :
    ((entries ++ [entry]).filter wanted).length ≤ 1 := by
  rw [List.filter_append, none]
  exact List.length_filter_le wanted [entry]

namespace Application

/-- Requests and emails are numbered from one, the applicant has at most one update request to see
to, and at most one withdrawal waits for an answer. -/
structure LettersFit (application : Application) : Prop where
  informationRequests : Consecutive (application.informationRequests.map (·.id))
  updateRequests : Consecutive (application.updateRequests.map (·.id))
  emails : Consecutive (application.emails.map (·.id))
  update : application.currentUpdateRequests.length ≤ 1
  withdrawal : (application.withdrawals.filter (·.isOpen)).length ≤ 1

variable {application : Application}

theorem length_current (application : Application) :
    application.currentUpdateRequests.length =
      application.updateRequests.countP (·.status.isCurrent) :=
  (List.countP_eq_length_filter).symm

theorem length_open (application : Application) :
    (application.withdrawals.filter (·.isOpen)).length =
      application.withdrawals.countP Withdrawal.isOpen :=
  (List.countP_eq_length_filter).symm

theorem countP_open_answer (application : Application) (user : User) {status : WithdrawalStatus}
    (answers : status ≠ .opened) (reply : Option String) :
    (application.answerWithdrawal user status reply).withdrawals.countP Withdrawal.isOpen =
      application.withdrawals.countP Withdrawal.isOpen - 1 := by
  refine countP_changeFirst_ended (fun withdrawal => ?_) application.withdrawals
  simpa [Withdrawal.isOpen] using answers

namespace LettersFit

theorem change_update (fit : application.LettersFit) {entry : Nat} {request : UpdateRequest}
    (found : application.updateRequests.find? (·.id == entry) = some request)
    (current : request.status.isCurrent = true) (status : UpdateStatus) :
    ({ application with
        updateRequests := changeFirst (·.id == entry) ({ · with status })
          application.updateRequests } : Application).LettersFit := by
  refine { fit with updateRequests := fit.updateRequests.changed fun _ => rfl, update := ?_ }
  have counted : (changeFirst (·.id == entry) ({ · with status })
        application.updateRequests).countP (·.status.isCurrent) +
          (if request.status.isCurrent then 1 else 0) =
      application.updateRequests.countP (·.status.isCurrent) +
        if status.isCurrent then 1 else 0 := countP_changeFirst found
  have single := fit.update
  rw [length_current] at single ⊢
  rw [if_pos current] at counted
  dsimp only at counted ⊢
  split at counted <;> omega

theorem answer (fit : application.LettersFit) (user : User) {status : WithdrawalStatus}
    (answers : status ∈ WithdrawalStatus.opened.next) (reply : Option String) :
    (application.answerWithdrawal user status reply).LettersFit := by
  refine { fit with withdrawal := ?_ }
  have single := fit.withdrawal
  have ends : status ≠ .opened := by
    rintro rfl
    exact absurd answers (by decide)
  rw [length_open] at single ⊢
  have counted := application.countP_open_answer user ends reply
  exact Nat.le_trans (Nat.le_of_eq counted) (Nat.le_trans (Nat.sub_le _ 1) single)

theorem submit (fit : application.LettersFit) (user : User) (reference : String) (now : Instant) :
    (application.afterSubmission user reference now).LettersFit := by
  refine { fit with updateRequests := ?_, update := ?_ }
  · have same : (application.afterSubmission user reference now).updateRequests.map (·.id) =
        application.updateRequests.map (·.id) := by
      simp only [afterSubmission, List.map_map]
      refine List.map_congr_left fun request _ => ?_
      simp only [Function.comp]
      split <;> rfl
    rw [same]
    exact fit.updateRequests
  · have single := fit.update
    rw [length_current] at single ⊢
    simp only [afterSubmission, List.countP_map]
    -- A request that was taken up stays current once it has been responded to.
    refine Nat.le_trans (Nat.le_of_eq (List.countP_congr fun request _ => ?_)) single
    simp only [Function.comp]
    split
    next started => simp [started, UpdateStatus.isCurrent]
    next => rfl

end LettersFit

end Application

section Moves

open CaseFile

variable {context : Context} {id : Nat} {operation : Operation} {file after : CaseFile}

theorem Edit.lettersFit {application : Application}
    (edit : Edit context id operation file application) (fit : file.application.LettersFit) :
    application.LettersFit := by
  cases edit with
  | withdrawal _ _ free =>
    have none : file.application.withdrawals.filter (·.isOpen) = [] := by
      simpa [List.filter_eq_nil_iff] using free
    exact { fit with withdrawal := length_filter_appended none _ }
  | informationRequest =>
    exact { fit with informationRequests := fit.informationRequests.appended rfl }
  | email => exact { fit with emails := fit.emails.appended rfl }
  | informationResponse | informationClosed =>
    exact { fit with informationRequests := fit.informationRequests.changed fun _ => rfl }
  | emailClosed => exact { fit with emails := fit.emails.changed fun _ => rfl }
  | startUpdate _ _ found opened => exact fit.change_update found (by rw [opened]; rfl) _
  | closeUpdate _ _ found responded => exact fit.change_update found (by rw [responded]; rfl) _
  | decision =>
    unfold Application.withDecision
    split <;> exact { fit with }
  | _ => exact { fit with }

theorem Move.lettersFit (move : Move context id operation file after)
    (fit : file.application.LettersFit) : after.application.LettersFit := by
  cases move with
  | edit edit => exact edit.lettersFit fit
  | submit => exact fit.submit _ _ _
  | @acceptWithdrawal _ _ user answer =>
    have accepts : WithdrawalStatus.accepted ∈ WithdrawalStatus.opened.next := by decide
    have answered := fit.answer user accepts answer
    rw [put_application]
    unfold Application.withdraw
    split <;> exact { answered with }
  | rejectWithdrawal => exact fit.answer _ (by decide) _
  | requestVariation _ _ opened =>
    subst opened
    exact { fit with }
  | addUpdateRequest _ _ free =>
    exact { fit with
      updateRequests := fit.updateRequests.appended rfl, update := length_filter_appended free _ }
  | withdrawUpdateRequest _ _ found opened =>
    exact fit.change_update found (by rw [opened]; rfl) _
  | rejectLicence => rw [answer_application]; exact { fit with }
  | _ => exact { fit with }

end Moves

theorem CaseFile.letters_fit (steps : List Step) {id : Nat} {file : CaseFile}
    (found : (System.initial.follow steps).store.fileOf id = some file) :
    file.application.LettersFit := by
  refine file_invariant (fun _ _ file => file.application.LettersFit) ?_ ?_ ?_ steps found
  · exact fun _ _ _ _ _ _ => ⟨rfl, rfl, rfl, Nat.zero_le 1, Nat.zero_le 1⟩
  · exact fun _ _ _ _ fit => fit
  · exact fun _ _ _ _ _ moves fit => moves.move.lettersFit fit

namespace System

variable (steps : List Step) {id : Nat} {application after : Application}

-- A case that is stored at two times is stored at all times between: its number is not given to
-- another case.
theorem stored_between (middle rest : List Step)
    (first : (initial.follow steps).store.applications.find? id = some application)
    (last : (initial.follow (steps ++ middle ++ rest)).store.applications.find? id = some after) :
    ∃ file, (initial.follow (steps ++ middle)).store.fileOf id = some file := by
  rw [← Option.isSome_iff_exists, Store.fileOf_isSome_iff]
  by_contra missing
  rw [Table.contains, Option.not_isSome_iff_eq_none] at missing
  obtain ⟨member, rfl⟩ := Table.find?_eq_some_iff.1 first
  have given := (sound_follow steps).applications application member
  have counted := (extends_follow steps middle).applications.counter
  have gone := (extends_follow (steps ++ middle) rest).applications.find?_eq_none
    (Nat.le_trans given counted) missing
  cases gone.symm.trans last

theorem goesOn_after (step : Step)
    (first : (initial.follow steps).store.applications.find? id = some application)
    (last : (initial.follow (steps ++ [step])).store.applications.find? id = some after) :
    application.GoesOn ReflGen after := by
  obtain ⟨file, found, rfl⟩ := Store.exists_fileOf first
  rw [follow_append] at last
  rcases case_after (sound_follow steps) step found with same | ⟨-, gone⟩ | ⟨next, moves⟩
  · cases (Store.fileOf_eq_some_iff.1 same).1.symm.trans last
    exact .refl _
  · obtain ⟨_, kept, -⟩ := Store.exists_fileOf last
    cases gone.symm.trans kept
  · cases moves.stored_after.symm.trans last
    exact moves.move.goesOn

theorem goesOn_follow (later : List Step)
    (first : (initial.follow steps).store.applications.find? id = some application)
    (last : (initial.follow (steps ++ later)).store.applications.find? id = some after) :
    application.GoesOn ReflTransGen after := by
  induction later using List.reverseRecOn generalizing after with
  | nil =>
    rw [List.append_nil] at last
    cases first.symm.trans last
    exact (Application.GoesOn.refl application).of_step
  | append_singleton later step ih =>
    rw [← List.append_assoc] at last
    obtain ⟨file, found⟩ := stored_between steps later [step] first last
    have between := (Store.fileOf_eq_some_iff.1 found).1
    exact (ih between).trans (goesOn_after (steps ++ later) step between last).of_step

end System

/-- As long as a case is stored, what is written in it stays: requests, emails, variations and
withdrawals are only added behind those that there are, keep what they were made with, and go from
one status to the next, at each step by one at most. Requests and emails are numbered from one, and
at no time are there two update requests to see to or two withdrawals to answer. -/
theorem correspondence_goes_on (steps : List Step) {id : Nat} {application : Application}
    (stored : (System.initial.follow steps).store.applications.find? id = some application) :
    application.LettersFit ∧
      (∀ (step : Step) (after : Application),
        (System.initial.follow (steps ++ [step])).store.applications.find? id = some after →
          application.GoesOn ReflGen after) ∧
      ∀ (later : List Step) (after : Application),
        (System.initial.follow (steps ++ later)).store.applications.find? id = some after →
          application.GoesOn ReflTransGen after := by
  obtain ⟨file, found, rfl⟩ := Store.exists_fileOf stored
  exact ⟨CaseFile.letters_fit steps found,
    fun step _ last => System.goesOn_after steps step stored last,
    fun later _ last => System.goesOn_follow steps later stored last⟩

namespace Sample

def asked : List Operation :=
  licence ++
    [.addInformationRequest .importing 1 "invoice", .addUpdateRequest .importing 1 "quantity",
      .requestWithdrawal .importing 1 user "changed plans"]

def answered : List Operation :=
  [.respondToInformationRequest .importing 1 1, .startUpdate .importing 1 1,
    .submit .importing 1 user, .respondToWithdrawal .importing 1 user false none]

def settled : List Operation :=
  [.closeInformationRequest .importing 1 1, .closeUpdateRequest .importing 1 1,
    .addUpdateRequest .importing 1 "origin"]

def written (operations : List Operation) : Option Application :=
  (System.initial.follow (operations.map (step true))).store.applications.find? 1

def statuses (application : Application) :
    List CorrespondenceStatus × List UpdateStatus × List WithdrawalStatus :=
  (application.informationRequests.map (·.status), application.updateRequests.map (·.status),
    application.withdrawals.map (·.status))

theorem statuses_move :
    (written asked).map statuses = some ([.opened], [.opened], [.opened]) ∧
      (written (asked ++ answered)).map statuses = some ([.responded], [.responded], [.rejected]) ∧
      (written (asked ++ (answered ++ settled))).map statuses =
        some ([.closed], [.closed, .opened], [.rejected]) := by
  decide +kernel

end Sample

theorem asked_goes_on :
    ∃ first last, Sample.written Sample.asked = some first ∧
      Sample.written (Sample.asked ++ (Sample.answered ++ Sample.settled)) = some last ∧
      first.LettersFit ∧ first.GoesOn ReflTransGen last ∧
      Sample.statuses last = ([.closed], [.closed, .opened], [.rejected]) := by
  obtain ⟨opened, -, ended⟩ := Sample.statuses_move
  obtain ⟨first, stored, -⟩ := Option.map_eq_some_iff.1 opened
  obtain ⟨last, kept, statuses⟩ := Option.map_eq_some_iff.1 ended
  obtain ⟨fit, -, goes_on⟩ := correspondence_goes_on (Sample.asked.map (Sample.step true)) stored
  have later := kept
  rw [Sample.written, List.map_append] at later
  exact ⟨first, last, stored, kept, fit, goes_on _ last later, statuses⟩

end Casework
