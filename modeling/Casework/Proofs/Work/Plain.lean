import Casework.Proofs.Work.Steps

set_option autoImplicit false

namespace Casework

open Calendar

@[simp] def CaseError.IsRoutine : CaseError → Prop
  | .flow _ | .repository _ | .search _ | .validation _ | .invalid _ => True
  | .pack _ | .reference _ | .chief _ => False

structure Desk.Undisturbed (desk after : Desk) : Prop where
  accepted : after.accepted = desk.accepted
  requests : after.store.requests = desk.store.requests
  lastRequest : after.store.lastRequest = desk.store.lastRequest
  packs : after.store.packs = desk.store.packs

theorem Desk.Undisturbed.refl (desk : Desk) : desk.Undisturbed desk := ⟨rfl, rfl, rfl, rfl⟩

theorem Desk.Undisturbed.trans {first second third : Desk} (before : first.Undisturbed second)
    (rest : second.Undisturbed third) : first.Undisturbed third where
  accepted := rest.accepted.trans before.accepted
  requests := rest.requests.trans before.requests
  lastRequest := rest.lastRequest.trans before.lastRequest
  packs := rest.packs.trans before.packs

namespace Work

variable {α β ε : Type}

-- Leaves the desk as `kept` says, whether or not it succeeds, and only ends in errors that are
-- `allowed`.
def Within (kept : Desk → Desk → Prop) (allowed : CaseError → Prop) (work : Work α) : Prop :=
  ∀ context desk, kept desk (work context desk).2 ∧
    ∀ error, (work context desk).1 = .error error → allowed error

section Within

variable {kept : Desk → Desk → Prop} {allowed : CaseError → Prop}

theorem Within.bind (trans : ∀ {first second third}, kept first second → kept second third →
      kept first third) {first : Work α} {next : α → Work β} (before : Within kept allowed first)
    (rest : ∀ value, Within kept allowed (next value)) : Within kept allowed (first >>= next) := by
  intro context desk
  have start := before context desk
  rw [bind_def, andThen]
  rcases ran : first context desk with ⟨failure | value, between⟩
  · rw [ran] at start
    exact ⟨start.1, fun error failed => start.2 error (by simpa using failed)⟩
  · rw [ran] at start
    have last := rest value context between
    exact ⟨trans start.1 last.1, last.2⟩

theorem Within.map {work : Work α} (within : Within kept allowed work) (change : α → β) :
    Within kept allowed (change <$> work) := by
  intro context desk
  have start := within context desk
  rw [← bind_pure_comp, bind_def, andThen]
  rcases ran : work context desk with ⟨failure | value, after⟩
  · rw [ran] at start
    exact ⟨start.1, fun error failed => start.2 error (by simpa using failed)⟩
  · rw [ran] at start
    exact ⟨start.1, fun error failed => by cases failed⟩

theorem Within.mono {other : Desk → Desk → Prop} {further : CaseError → Prop} {work : Work α}
    (within : Within kept allowed work) (keeps : ∀ {desk after}, kept desk after → other desk after)
    (allows : ∀ {error}, allowed error → further error) : Within other further work :=
  fun context desk =>
    ⟨keeps (within context desk).1, fun error failed =>
      allows ((within context desk).2 error failed)⟩

end Within

def Plain (work : Work α) : Prop := Within Desk.Undisturbed CaseError.IsRoutine work

theorem Plain.bind {first : Work α} {next : α → Work β} (before : Plain first)
    (rest : ∀ value, Plain (next value)) : Plain (first >>= next) :=
  Within.bind .trans before rest

theorem Plain.map {work : Work α} (plain : Plain work) (change : α → β) : Plain (change <$> work) :=
  Within.map plain change

section Basic

variable (value : α) (condition : Bool) (id : Nat) (caseType : CaseType)

theorem plain_of_same {work : Work α} (same : ∀ context desk, (work context desk).2 = desk)
    (routine : ∀ context desk error, (work context desk).1 = .error error → error.IsRoutine) :
    Plain work := by
  intro context desk
  rw [same]
  exact ⟨.refl desk, routine context desk⟩

theorem plain_pure : Plain (pure value : Work α) :=
  plain_of_same (fun _ _ => rfl) fun _ _ _ failed => by cases failed

theorem plain_now : Plain now := plain_of_same (fun _ _ => rfl) fun _ _ _ failed => by cases failed

theorem plain_context : Plain Work.context :=
  plain_of_same (fun _ _ => rfl) fun _ _ _ failed => by cases failed

theorem plain_read (question : Store → α) : Plain (read question) :=
  plain_of_same (fun _ _ => rfl) fun _ _ _ failed => by cases failed

theorem plain_write {change : Store → Store}
    (kept : ∀ store, (change store).packs = store.packs ∧
      (change store).requests = store.requests ∧ (change store).lastRequest = store.lastRequest) :
    Plain (write change) := fun _ desk =>
  ⟨⟨rfl, (kept desk.store).2.1, (kept desk.store).2.2, (kept desk.store).1⟩,
    fun _ failed => by cases failed⟩

theorem plain_refuse {error : CaseError} (routine : error.IsRoutine) :
    Plain (refuse error : Work α) :=
  plain_of_same (fun _ _ => rfl) fun _ _ _ failed => by cases failed; exact routine

theorem plain_enter : Plain enter := by
  refine plain_of_same (fun _ _ => rfl) fun context desk error failed => ?_
  cases free : context.available <;> simp [enter, free] at failed
  simp [← failed]

theorem plain_require {error : CaseError} (routine : error.IsRoutine) :
    Plain (require condition error) := by
  cases condition
  · exact plain_refuse routine
  · exact plain_pure ()

theorem plain_ask {wrap : ε → CaseError} (routine : ∀ failure, (wrap failure).IsRoutine)
    (question : Store → Except ε α) : Plain (ask wrap question) := by
  refine plain_of_same (fun context desk => ?_) fun context desk error failed => ?_
  · cases answered : question desk.store <;> simp only [ask, answered]
  · cases answered : question desk.store with
    | error failure =>
      simp only [ask, answered] at failed
      cases failed
      exact routine failure
    | ok value => simp [ask, answered] at failed

theorem plain_checkFlow (question : Store → Except FlowError α) : Plain (checkFlow question) :=
  plain_ask (by simp) question

theorem plain_findApplication : Plain (findApplication id) := plain_ask (by simp) _

theorem plain_createTask (taskType : TaskType) (previous : Option Nat) :
    Plain (createTask id taskType previous) :=
  .bind plain_now fun _ => plain_write fun _ => ⟨rfl, rfl, rfl⟩

theorem plain_finishTask (owner : Option Nat) : Plain (finishTask id owner) :=
  .bind plain_now fun _ => plain_write fun _ => ⟨rfl, rfl, rfl⟩

theorem plain_finishAllTasks : Plain (finishAllTasks id) :=
  .bind plain_now fun _ => plain_write fun _ => ⟨rfl, rfl, rfl⟩

theorem plain_save (application : Application) : Plain (save application) :=
  .bind (plain_findApplication _) fun _ => plain_write fun _ => ⟨rfl, rfl, rfl⟩

theorem plain_saved (application : Application) : Plain (saved application) :=
  .bind (plain_save application) fun _ => plain_pure application

theorem plain_load : Plain (load caseType id) :=
  .bind plain_enter fun _ => .bind (plain_findApplication id) fun application =>
    .bind (plain_require _ (by simp)) fun _ => plain_pure application

theorem plain_currentTask (expected : List CaseStatus) (taskType : TaskType) :
    Plain (currentTask id expected taskType) :=
  .bind (plain_findApplication id) fun _ => plain_checkFlow _

theorem plain_loadWithTask (expected : List CaseStatus) (taskType : TaskType) :
    Plain (loadWithTask caseType id expected taskType) :=
  .bind (plain_load id caseType) fun _ => .bind (plain_currentTask id expected taskType) fun _ =>
    plain_pure _

theorem plain_addApplication (application : Application) : Plain (addApplication application) :=
  .bind (plain_read _) fun _ => .bind (plain_require _ (by simp)) fun _ =>
    plain_write fun _ => ⟨rfl, rfl, rfl⟩

theorem plain_draw (series : String) (year : Option Int) : Plain (draw series year) :=
  .bind (plain_write fun _ => ⟨rfl, rfl, rfl⟩) fun _ => plain_read _

theorem plain_drawYearly (reading : Nat) (series : String) : Plain (drawYearly reading series) :=
  .bind plain_context fun _ => .bind (plain_draw series _) fun _ => plain_pure _

theorem plain_nextProcess : Plain nextProcess :=
  .bind (plain_write fun _ => ⟨rfl, rfl, rfl⟩) fun _ => plain_read _

theorem plain_nextRecord : Plain nextRecord :=
  .bind (plain_write fun _ => ⟨rfl, rfl, rfl⟩) fun _ => plain_read _

theorem plain_withLicenceNumber (application : Application) :
    Plain (withLicenceNumber application) := by
  unfold withLicenceNumber
  split
  · exact plain_pure _
  · exact .bind (plain_draw _ _) fun _ => plain_pure _

theorem plain_addDocument (documentType : DocumentType) (reference country brand : Option String) :
    Plain (addDocument id documentType reference country brand) :=
  .bind (.bind (plain_write fun _ => ⟨rfl, rfl, rfl⟩) fun _ => plain_read _) fun _ =>
    plain_write fun _ => ⟨rfl, rfl, rfl⟩

theorem plain_findEntry (entries : List α) (wanted : α → Bool) (unknown : InvalidRequest) :
    Plain (findEntry entries wanted unknown) := by
  unfold findEntry
  split
  · exact plain_pure _
  · exact plain_refuse (by simp)

theorem plain_finishWait (application : Application) : Plain (finishWait application) :=
  .bind (plain_currentTask _ _ _) fun _ => .bind (plain_finishTask _ _) fun _ => plain_pure _

end Basic

section Operations

variable (caseType : CaseType) (id : Nat)

theorem plain_edit (goods : Goods) : Plain (edit caseType id goods) :=
  .bind (plain_load id caseType) fun _ => .bind (plain_checkFlow _) fun _ =>
    .bind (plain_require _ (by simp [CaseError.ofField])) fun _ => plain_saved _

theorem plain_handIn (application : Application) (user : User) (task : Task) (reference : String) :
    Plain (handIn application id user task reference) :=
  .bind plain_now fun _ => .bind (plain_finishTask _ _) fun _ => .bind (plain_read _) fun _ => by
    split
    · exact plain_saved _
    · exact .bind (plain_createTask _ _ _) fun _ => plain_saved _

theorem plain_submit (user : User) : Plain (submit caseType id user) := by
  refine .bind (plain_load id caseType) fun application => .bind (plain_checkFlow _) fun _ =>
    .bind (plain_checkFlow _) fun task => .bind (plain_require _ (by simp)) fun _ => ?_
  split
  · exact .bind (plain_pure _) (plain_handIn id application user task)
  · exact .bind (plain_drawYearly _ _) (plain_handIn id application user task)

theorem plain_requestWithdrawal (user : User) (reason : String) :
    Plain (requestWithdrawal caseType id user reason) :=
  .bind (plain_require _ (by simp [CaseError.ofField])) fun _ =>
  .bind (plain_load id caseType) fun _ => .bind (plain_checkFlow _) fun _ =>
  .bind (plain_require _ (by simp)) fun _ => .bind plain_nextRecord fun _ => plain_saved _

theorem plain_respondToInformationRequest (entry : Nat) :
    Plain (respondToInformationRequest caseType id entry) :=
  .bind (plain_load id caseType) fun _ => .bind (plain_checkFlow _) fun _ =>
    .bind (plain_findEntry _ _ _) fun _ => .bind (plain_require _ (by simp)) fun _ =>
      .bind (plain_save _) fun _ => plain_pure _

theorem plain_startUpdate (entry : Nat) : Plain (startUpdate caseType id entry) :=
  .bind (plain_load id caseType) fun _ => .bind (plain_checkFlow _) fun _ =>
    .bind (plain_findEntry _ _ _) fun _ => .bind (plain_require _ (by simp)) fun _ =>
      .bind (plain_save _) fun _ => plain_pure _

theorem plain_reassignEach (owner : User) (ids : List Nat) :
    Plain (reassignEach caseType owner ids) := by
  induction ids with
  | nil => exact plain_pure _
  | cons id ids ih =>
    refine .bind (plain_load id caseType) fun application => ?_
    split
    · exact .bind (plain_save _) fun _ => .bind ih fun _ => plain_pure _
    · exact ih

theorem plain_decisionReason (input : DecisionInput) : Plain (decisionReason input) := by
  unfold decisionReason
  split
  · exact plain_pure _
  · exact .bind (plain_require _ (by simp [CaseError.ofField])) fun _ => plain_pure _
  · exact plain_refuse (by simp [CaseError.ofField])

theorem plain_decide (input : DecisionInput) : Plain (Work.decide caseType id input) :=
  .bind (plain_loadWithTask id caseType _ _) fun _ => .bind (plain_decisionReason input) fun _ =>
    plain_saved _

theorem plain_replaceTask (ended created : TaskType) :
    Plain (replaceTask caseType id ended created) :=
  .bind (plain_loadWithTask id caseType _ _) fun _ => .bind (plain_finishTask _ _) fun _ =>
    .bind (plain_createTask _ _ _) fun _ => plain_pure _

theorem plain_closeUpdateRequest (entry : Nat) :
    Plain (closeUpdateRequest caseType id entry) := by
  refine .bind (plain_loadWithTask id caseType _ _) fun _ => .bind (plain_findEntry _ _ _)
    fun request => ?_
  split
  · exact plain_refuse (by simp)
  · split
    · exact .bind (plain_checkFlow _) fun _ => .bind (plain_finishTask _ _) fun _ =>
        .bind (plain_save _) fun _ => plain_pure _
    · exact .bind (plain_save _) fun _ => plain_pure _

theorem plain_search (terms : SearchTerms) (limit : Option Nat) : Plain (search terms limit) :=
  .bind plain_enter fun _ => .bind plain_context fun _ => plain_ask (by simp) _

theorem plain_addUpdateRequest (subject : String) : Plain (addUpdateRequest caseType id subject) :=
  .bind (plain_loadWithTask id caseType _ _) fun _ => .bind (plain_require _ (by simp)) fun _ =>
    .bind plain_now fun _ => .bind (plain_createTask _ _ _) fun _ => .bind (plain_save _) fun _ =>
      plain_pure _

theorem plain_closeInformationRequest (entry : Nat) :
    Plain (closeInformationRequest caseType id entry) :=
  .bind (plain_loadWithTask id caseType _ _) fun _ => .bind (plain_findEntry _ _ _) fun _ =>
    .bind (plain_require _ (by simp)) fun _ => .bind (plain_save _) fun _ => plain_pure _

theorem plain_closeEmail (entry : Nat) : Plain (closeEmail caseType id entry) :=
  .bind (plain_loadWithTask id caseType _ _) fun _ => .bind (plain_findEntry _ _ _) fun _ =>
    .bind (plain_require _ (by simp)) fun _ => .bind (plain_save _) fun _ => plain_pure _

theorem plain_revertLicence : Plain (revertLicence id) :=
  .bind plain_enter fun _ => .bind (plain_currentTask _ _ _) fun _ =>
    .bind (plain_finishTask _ _) fun _ => plain_createTask _ _ _

end Operations

end Work

namespace Operation

def isPlain : Operation → Bool
  | .create _ _ | .cancel _ _ | .takeOwnership _ _ _ | .editLicence _ _ _
  | .startAuthorisation _ _ _ | .documentsSigned _ _ | .respondToWithdrawal _ _ _ _ _ | .stop _ _
  | .reopen _ _ | .revoke _ _ _ | .requestVariation _ _ _ _ | .approveLicence _
  | .rejectLicence _ _ | .resendLicence _ => false
  | _ => true

open Work in
theorem plain_work {operation : Operation} (plain : operation.isPlain = true) :
    Plain operation.work := by
  cases operation
  case get => exact .map (plain_load _ _) _
  case view => exact .map (.bind (plain_load _ _) fun _ => plain_read _) _
  case edit => exact .map (plain_edit _ _ _) _
  case submit => exact .map (plain_submit _ _ _) _
  case releaseOwnership =>
    exact .map (.bind (plain_loadWithTask _ _ _ _) fun _ => plain_saved _) _
  case reassign => exact .map (.bind plain_enter fun _ => plain_reassignEach _ _ _) _
  case completeChecklist =>
    refine .map (.bind (plain_loadWithTask _ _ _ _) fun _ => ?_) _
    exact .bind (plain_require _ (by simp)) fun _ => plain_saved _
  case decide => exact .map (plain_decide _ _ _) _
  case authoriseDocuments =>
    refine .map (.bind (plain_loadWithTask _ _ _ _) fun _ => ?_) _
    exact .bind (plain_finishTask _ _) fun _ => .bind (plain_createTask _ _ _) fun _ =>
      plain_pure _
  case documentsFailed => exact .map (plain_replaceTask _ _ _ _) _
  case retrySigning => exact .map (plain_replaceTask _ _ _ _) _
  case requestWithdrawal => exact .map (plain_requestWithdrawal _ _ _ _) _
  case addInformationRequest =>
    refine .map (.bind (plain_loadWithTask _ _ _ _) fun _ => ?_) _
    exact .bind (plain_save _) fun _ => plain_pure _
  case respondToInformationRequest => exact .map (plain_respondToInformationRequest _ _ _) _
  case closeInformationRequest => exact .map (plain_closeInformationRequest _ _ _) _
  case addUpdateRequest => exact .map (plain_addUpdateRequest _ _ _) _
  case startUpdate => exact .map (plain_startUpdate _ _ _) _
  case closeUpdateRequest => exact .map (plain_closeUpdateRequest _ _ _) _
  case addEmail =>
    refine .map (.bind (plain_loadWithTask _ _ _ _) fun _ => ?_) _
    exact .bind (plain_save _) fun _ => plain_pure _
  case closeEmail => exact .map (plain_closeEmail _ _ _) _
  case revertLicence => exact .map (plain_revertLicence _) _
  case pendingLicences => exact .map (.bind plain_enter fun _ => plain_read _) _
  case failedLicences => exact .map (.bind plain_enter fun _ => plain_read _) _
  case search => exact .map (plain_search _ _) _
  case spreadsheet =>
    refine .map (.bind plain_enter fun _ => .bind (plain_read _) fun _ => ?_) _
    exact .bind (plain_search _ _) fun _ => plain_pure _
  all_goals cases plain

end Operation

end Casework
