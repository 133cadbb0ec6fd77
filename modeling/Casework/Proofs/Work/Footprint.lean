import Casework.Proofs.Work.Plain

set_option autoImplicit false

namespace Casework

open Calendar

inductive Part where
  | applications
  | tasks
  | packs
  | documents
  | requests
  | sequences
  -- The numbers drawn, which no operation takes back.
  | drawn
  -- The records inside an application that are numbered in all cases together.
  | records
  -- What the register has taken.
  | outbox
deriving DecidableEq, Repr

def Desk.Keeps (desk after : Desk) : Part → Prop
  | .applications =>
    after.store.applications = desk.store.applications ∧
      after.store.lastProcess = desk.store.lastProcess
  | .tasks => after.store.tasks = desk.store.tasks
  | .packs => after.store.packs = desk.store.packs ∧ after.store.lastPack = desk.store.lastPack
  | .documents =>
    after.store.documents = desk.store.documents ∧
      after.store.lastDocument = desk.store.lastDocument
  | .requests =>
    after.store.requests = desk.store.requests ∧ after.store.lastRequest = desk.store.lastRequest
  | .sequences => after.store.sequences = desk.store.sequences
  | .drawn => ∀ series year, desk.store.sequences series year ≤ after.store.sequences series year
  | .records => after.store.lastRecord = desk.store.lastRecord
  | .outbox => after.accepted = desk.accepted

theorem Sequences.advance_self (sequences : Sequences) (series : String) (year : Option Int) :
    sequences.advance series year series year = sequences series year + 1 := if_pos ⟨rfl, rfl⟩

theorem Sequences.le_advance (sequences : Sequences) (series other : String)
    (year period : Option Int) :
    sequences other period ≤ sequences.advance series year other period := by
  unfold advance
  split
  next same =>
    obtain ⟨rfl, rfl⟩ := same
    exact Nat.le_succ _
  next => exact Nat.le_refl _

namespace Desk

variable {first second third : Desk} {part : Part}

theorem Keeps.refl (desk : Desk) : desk.Keeps desk part := by
  cases part <;> simp [Keeps]

theorem Keeps.trans (before : first.Keeps second part) (rest : second.Keeps third part) :
    first.Keeps third part := by
  cases part with
  | tasks | sequences | records | outbox => exact Eq.trans rest before
  | drawn => exact fun series year => Nat.le_trans (before series year) (rest series year)
  | applications | packs | documents | requests =>
    exact ⟨rest.1.trans before.1, rest.2.trans before.2⟩

end Desk

namespace Work

variable {α β ε : Type}

-- Touches no other parts of the desk than these.
def Touches (parts : List Part) (work : Work α) : Prop :=
  Within (fun desk after => ∀ part, part ∉ parts → desk.Keeps after part) (fun _ => True) work

section Touches

variable {parts : List Part}

theorem Touches.bind {first : Work α} {next : α → Work β} (before : Touches parts first)
    (rest : ∀ value, Touches parts (next value)) : Touches parts (first >>= next) :=
  Within.bind (fun before rest part apart => (before part apart).trans (rest part apart)) before
    rest

theorem Touches.map {work : Work α} (touches : Touches parts work) (change : α → β) :
    Touches parts (change <$> work) :=
  Within.map touches change

theorem touches_of_same {work : Work α} (same : ∀ context desk, (work context desk).2 = desk) :
    Touches parts work := by
  intro context desk
  rw [same]
  exact ⟨fun part _ => .refl desk, fun _ _ => trivial⟩

theorem touches_write {change : Store → Store}
    (touched : ∀ (desk : Desk) part, part ∈ parts ∨
      desk.Keeps { desk with store := change desk.store } part) :
    Touches parts (write change) := fun _ desk =>
  ⟨fun part apart => (touched desk part).resolve_left apart, fun _ _ => trivial⟩

end Touches

section Reading

variable (parts : List Part) (value : α) (condition : Bool) (id : Nat) (caseType : CaseType)

theorem touches_pure : Touches parts (pure value : Work α) := touches_of_same fun _ _ => rfl

theorem touches_now : Touches parts now := touches_of_same fun _ _ => rfl

theorem touches_context : Touches parts Work.context := touches_of_same fun _ _ => rfl

theorem touches_read (question : Store → α) : Touches parts (read question) :=
  touches_of_same fun _ _ => rfl

theorem touches_refuse (error : CaseError) : Touches parts (refuse error : Work α) :=
  touches_of_same fun _ _ => rfl

theorem touches_enter : Touches parts enter := touches_of_same fun _ _ => rfl

theorem touches_require (error : CaseError) : Touches parts (require condition error) := by
  cases condition <;> exact touches_of_same fun _ _ => rfl

theorem touches_ofExcept (wrap : ε → CaseError) (answer : Except ε α) :
    Touches parts (ofExcept wrap answer) := by
  cases answer <;> exact touches_of_same fun _ _ => rfl

theorem touches_ask (wrap : ε → CaseError) (question : Store → Except ε α) :
    Touches parts (ask wrap question) := by
  refine touches_of_same fun context desk => ?_
  cases answered : question desk.store <;> simp only [ask, answered]

theorem touches_findApplication : Touches parts (findApplication id) := touches_ask _ _ _

theorem touches_load : Touches parts (load caseType id) :=
  .bind (touches_enter _) fun _ => .bind (touches_findApplication _ _) fun _ =>
    .bind (touches_require _ _ _) fun _ => touches_pure _ _

theorem touches_checkFlow (question : Store → Except FlowError α) :
    Touches parts (checkFlow question) := touches_ask _ _ _

theorem touches_currentTask (expected : List CaseStatus) (taskType : TaskType) :
    Touches parts (currentTask id expected taskType) :=
  .bind (touches_findApplication _ _) fun _ => touches_checkFlow _ _

theorem touches_loadWithTask (expected : List CaseStatus) (taskType : TaskType) :
    Touches parts (loadWithTask caseType id expected taskType) :=
  .bind (touches_load _ _ _) fun _ => .bind (touches_currentTask _ _ _ _) fun _ =>
    touches_pure _ _

theorem touches_findEntry (entries : List α) (wanted : α → Bool) (unknown : InvalidRequest) :
    Touches parts (findEntry entries wanted unknown) := by
  unfold findEntry
  split
  · exact touches_pure _ _
  · exact touches_refuse _ _

theorem touches_decisionReason (input : DecisionInput) : Touches parts (decisionReason input) := by
  unfold decisionReason
  split
  · exact touches_pure _ _
  · exact .bind (touches_require _ _ _) fun _ => touches_pure _ _
  · exact touches_refuse _ _

theorem touches_findDraft : Touches parts (findDraft id) := touches_ask _ _ _

theorem touches_findActive : Touches parts (findActive id) := touches_ask _ _ _

theorem touches_initialTerms (application : Application) (isVariation : Bool) :
    Touches parts (initialTerms application isVariation) := by
  unfold initialTerms
  split
  · split
    · exact .bind (touches_findActive _ _) fun _ => touches_pure _ _
    · exact touches_pure _ _
  · exact touches_pure _ _

theorem touches_search (terms : SearchTerms) (limit : Option Nat) :
    Touches parts (search terms limit) :=
  .bind (touches_enter _) fun _ => .bind (touches_context _) fun _ => touches_ask _ _ _

end Reading

section Writing

variable {parts : List Part} (id : Nat)

theorem touches_save (mem : .applications ∈ parts) (application : Application) :
    Touches parts (save application) :=
  .bind (touches_findApplication _ _) fun _ => touches_write fun _ part => by
    cases part <;> simp [Desk.Keeps, mem]

theorem touches_saved (mem : .applications ∈ parts) (application : Application) :
    Touches parts (saved application) :=
  .bind (touches_save mem application) fun _ => touches_pure _ _

theorem touches_nextProcess (mem : .applications ∈ parts) : Touches parts nextProcess :=
  .bind (touches_write fun _ part => by cases part <;> simp [Desk.Keeps, mem]) fun _ =>
    touches_read _ _

theorem touches_addApplication (mem : .applications ∈ parts) (application : Application) :
    Touches parts (addApplication application) :=
  .bind (touches_read _ _) fun _ => .bind (touches_require _ _ _) fun _ =>
    touches_write fun _ part => by cases part <;> simp [Desk.Keeps, mem]

theorem touches_createTask (mem : .tasks ∈ parts) (taskType : TaskType) (previous : Option Nat) :
    Touches parts (createTask id taskType previous) :=
  .bind (touches_now _) fun _ => touches_write fun _ part => by
    cases part <;> simp [Desk.Keeps, mem]

theorem touches_finishTask (mem : .tasks ∈ parts) (owner : Option Nat) :
    Touches parts (finishTask id owner) :=
  .bind (touches_now _) fun _ => touches_write fun _ part => by
    cases part <;> simp [Desk.Keeps, mem]

theorem touches_finishAllTasks (mem : .tasks ∈ parts) : Touches parts (finishAllTasks id) :=
  .bind (touches_now _) fun _ => touches_write fun _ part => by
    cases part <;> simp [Desk.Keeps, mem]

theorem touches_finishWait (mem : .tasks ∈ parts) (application : Application) :
    Touches parts (finishWait application) :=
  .bind (touches_currentTask _ _ _ _) fun _ => .bind (touches_finishTask _ mem _) fun _ =>
    touches_pure _ _

theorem touches_nextRecord (mem : .records ∈ parts) : Touches parts nextRecord :=
  .bind (touches_write fun _ part => by cases part <;> simp [Desk.Keeps, mem]) fun _ =>
    touches_read _ _

theorem touches_drawYearly (mem : .sequences ∈ parts) (reading : Nat) (series : String) :
    Touches parts (drawYearly reading series) := by
  refine .bind (touches_context _) fun _ => .bind (.bind ?_ fun _ => touches_read _ _) fun _ =>
    touches_pure _ _
  exact touches_write fun _ part => by
    cases part <;> simp [Desk.Keeps, mem, Sequences.le_advance]

theorem touches_changePack (mem : .packs ∈ parts) (change : Pack → Pack) :
    Touches parts (changePack id change) :=
  touches_write fun _ part => by cases part <;> simp [Desk.Keeps, mem]

theorem touches_archiveDraft (mem : .packs ∈ parts) : Touches parts (archiveDraft id) :=
  .bind (touches_findDraft _ _) fun _ => touches_changePack _ mem _

theorem touches_revokeActive (mem : .packs ∈ parts) (reason : Option String) (emailSent : Bool) :
    Touches parts (revokeActive id reason emailSent) :=
  .bind (touches_findActive _ _) fun _ => .bind (touches_changePack _ mem _) fun _ =>
    touches_pure _ _

theorem touches_updateDraft (mem : .packs ∈ parts) (changes : LicenceUpdate) :
    Touches parts (updateDraft id changes) :=
  .bind (touches_findDraft _ _) fun _ => touches_changePack _ mem _

theorem touches_issueDraft (mem : .packs ∈ parts) (application : Application) :
    Touches parts (issueDraft application) := by
  refine .bind (touches_findDraft _ _) fun draft => .bind (touches_ask _ _ _) fun earlier =>
    .bind (touches_now _) fun now => ?_
  have issued : Touches parts (do
      changePack draft.id (·.issued application.reference now)
      pure draft.id) := .bind (touches_changePack _ mem _) fun _ => touches_pure _ _
  cases earlier with
  | some pack => exact .bind (touches_changePack _ mem _) fun _ => issued
  | none => exact issued

theorem touches_createDraft (mem : .packs ∈ parts) (application : Application)
    (isVariation : Bool) : Touches parts (createDraft application isVariation) := by
  have counted : Touches parts nextPack :=
    .bind (touches_write fun _ part => by cases part <;> simp [Desk.Keeps, mem]) fun _ =>
      touches_read _ _
  refine .bind (touches_initialTerms _ _ _) fun _ => .bind counted fun _ =>
    .bind (touches_now _) fun _ => .bind ?_ fun _ => touches_pure _ _
  exact touches_write fun _ part => by cases part <;> simp [Desk.Keeps, mem]

theorem touches_addDocument (mem : .documents ∈ parts) (documentType : DocumentType)
    (reference country brand : Option String) :
    Touches parts (addDocument id documentType reference country brand) := by
  have counted : Touches parts nextDocument :=
    .bind (touches_write fun _ part => by cases part <;> simp [Desk.Keeps, mem]) fun _ =>
      touches_read _ _
  exact .bind counted fun _ => touches_write fun _ part => by
    cases part <;> simp [Desk.Keeps, mem]

theorem touches_addCertificates (documents : .documents ∈ parts) (sequences : .sequences ∈ parts)
    (processType : ProcessType) (reading : Nat) (subjects : List (String × Option String)) :
    Touches parts (addCertificates id processType reading subjects) := by
  induction subjects generalizing reading with
  | nil => exact touches_pure _ ()
  | cons subject subjects ih =>
    refine .bind (.bind (touches_ofExcept _ _ _) fun series =>
      touches_drawYearly sequences reading series) fun reference => ?_
    exact .bind (touches_addDocument _ documents _ _ _ _) fun _ => ih (reading + 1)

theorem touches_licenceReference (mem : .sequences ∈ parts)
    (wrap : Reference.ReferenceError → CaseError) (application : Application)
    (paperOnly : Option Bool) : Touches parts (licenceReference wrap application paperOnly) := by
  have numbered : Touches parts (withLicenceNumber application) := by
    unfold withLicenceNumber
    split
    · exact touches_pure _ _
    · refine .bind (.bind (touches_write fun _ part => ?_) fun _ => touches_read _ _) fun _ =>
        touches_pure _ _
      cases part <;> simp [Desk.Keeps, mem, Sequences.le_advance]
  exact .bind numbered fun _ => .bind (touches_ofExcept _ _ _) fun _ => touches_pure _ _

theorem touches_createDocuments (documents : .documents ∈ parts) (sequences : .sequences ∈ parts)
    (application : Application) : Touches parts (createDocuments application) := by
  refine .bind (touches_findDraft _ _) fun draft => .bind ?_ fun _ => ?_
  · exact touches_write fun _ part => by cases part <;> simp [Desk.Keeps, documents]
  · split
    · exact .bind (touches_addDocument _ documents _ _ _ _) fun _ =>
        .bind (touches_licenceReference sequences _ _ _) fun _ =>
          .bind (touches_addDocument _ documents _ _ _ _) fun _ => touches_pure _ _
    · exact .bind (touches_addCertificates _ documents sequences _ _ _) fun _ => touches_pure _ _

theorem touches_sendToChief (outbox : .outbox ∈ parts) (requests : .requests ∈ parts)
    (tasks : .tasks ∈ parts) (application : Application) (previous : Option Nat)
    (revoke sends : Bool) : Touches parts (sendToChief application previous revoke sends) := by
  have delivered : ∀ payload, Touches parts (deliver payload) := by
    refine fun payload context desk => ⟨fun part apart => ?_, fun _ _ => trivial⟩
    unfold deliver
    split
    · exact .refl desk
    · cases part <;> simp [Desk.Keeps]
      exact absurd outbox apart
  have sent : Touches parts (deliverLicence application revoke sends) := by
    unfold deliverLicence
    split
    · refine .bind (touches_read _ _) fun built => ?_
      cases built with
      | error error => exact touches_pure _ _
      | ok payload =>
        refine .bind (delivered payload) fun refusal => ?_
        cases refusal <;> exact touches_pure _ _
    · exact touches_pure _ _
  have counted : Touches parts nextRequest :=
    .bind (touches_write fun _ part => by cases part <;> simp [Desk.Keeps, requests]) fun _ =>
      touches_read _ _
  refine .bind sent fun _ => .bind counted fun _ => .bind (touches_now _) fun _ =>
    .bind ?_ fun _ => .bind (touches_createTask _ tasks _ _) fun _ => touches_pure _ _
  exact touches_write fun _ part => by cases part <;> simp [Desk.Keeps, requests]

theorem touches_answerRequest {answer : Nat → Work Unit}
    (touches : ∀ number, Touches parts (answer number)) :
    Touches parts (answerRequest id answer) := by
  refine .bind (touches_read _ _) fun request => ?_
  cases request with
  | some request => exact touches request.id
  | none => exact touches_pure _ ()

theorem touches_completeRequest (mem : .requests ∈ parts) : Touches parts (completeRequest id) :=
  .bind (touches_now _) fun _ => touches_write fun _ part => by
    cases part <;> simp [Desk.Keeps, mem]

theorem touches_failRequest (mem : .requests ∈ parts) (errors : List ChiefResponseError) :
    Touches parts (failRequest id errors) :=
  .bind (touches_now _) fun _ => touches_write fun _ part => by
    cases part <;> simp [Desk.Keeps, mem]

end Writing

section Operations

variable (caseType : CaseType) (id : Nat)

theorem touches_create (draft : NewApplication) :
    Touches [.applications, .tasks, .packs] (create draft) :=
  .bind (touches_require _ _ _) fun _ => .bind (touches_enter _) fun _ =>
    .bind (touches_nextProcess (by decide)) fun _ => .bind (touches_now _) fun _ =>
      .bind (touches_addApplication (by decide) _) fun _ =>
        .bind (touches_createTask _ (by decide) _ _) fun _ =>
          .bind (touches_createDraft (by decide) _ _) fun _ => touches_pure _ _

theorem touches_edit (goods : Goods) : Touches [.applications] (edit caseType id goods) :=
  .bind (touches_load _ _ _) fun _ => .bind (touches_checkFlow _ _) fun _ =>
    .bind (touches_require _ _ _) fun _ => touches_saved (by decide) _

theorem touches_cancel :
    Touches [.applications, .tasks, .packs, .documents] (cancel caseType id) := by
  refine .bind (touches_load _ _ _) fun _ => .bind (touches_currentTask _ _ _ _) fun _ =>
    .bind (.bind (touches_findApplication _ _) fun _ => .bind ?_ fun _ => touches_pure _ _)
      fun _ => touches_pure _ _
  exact touches_write fun _ part => by cases part <;> simp [Desk.Keeps, Store.removeApplication]

theorem touches_handIn (application : Application) (user : User) (task : Task)
    (reference : String) : Touches [.applications, .tasks, .sequences]
      (handIn application id user task reference) := by
  refine .bind (touches_now _) fun _ => .bind (touches_finishTask _ (by decide) _) fun _ =>
    .bind (touches_read _ _) fun _ => ?_
  split
  · exact touches_saved (by decide) _
  · exact .bind (touches_createTask _ (by decide) _ _) fun _ => touches_saved (by decide) _

theorem touches_submit (user : User) :
    Touches [.applications, .tasks, .sequences] (submit caseType id user) := by
  refine .bind (touches_load _ _ _) fun application => .bind (touches_checkFlow _ _) fun _ =>
    .bind (touches_checkFlow _ _) fun task => .bind (touches_require _ _ _) fun _ => ?_
  split
  · exact .bind (touches_pure _ _) (touches_handIn id application user task)
  · exact .bind (touches_drawYearly (by decide) _ _) (touches_handIn id application user task)

theorem touches_takeOwnership (user : User) :
    Touches [.applications, .packs] (takeOwnership caseType id user) := by
  refine .bind (touches_loadWithTask _ _ _ _ _) fun (application, _) => ?_
  dsimp only
  split
  · refine .bind (touches_findDraft _ _) fun draft => ?_
    split
    · exact .bind (touches_now _) fun _ => .bind (touches_updateDraft _ (by decide) _) fun _ =>
        touches_saved (by decide) _
    · exact touches_saved (by decide) _
  · exact touches_saved (by decide) _

theorem touches_reassignEach (owner : User) (ids : List Nat) :
    Touches [.applications] (reassignEach caseType owner ids) := by
  induction ids with
  | nil => exact touches_pure _ _
  | cons id ids ih =>
    refine .bind (touches_load _ _ _) fun application => ?_
    split
    · exact .bind (touches_save (by decide) _) fun _ => .bind ih fun _ => touches_pure _ _
    · exact ih

theorem touches_editLicence (changes : LicenceUpdate) :
    Touches [.packs] (editLicence caseType id changes) :=
  .bind (touches_load _ _ _) fun _ => .bind (touches_require _ _ _) fun _ =>
    .bind (touches_currentTask _ _ _ _) fun _ => .bind (touches_require _ _ _) fun _ =>
      .bind (touches_findDraft _ _) fun _ => .bind (touches_require _ _ _) fun _ =>
        .bind (touches_updateDraft _ (by decide) _) fun _ => touches_findDraft _ _

theorem touches_startAuthorisation (user : User) :
    Touches [.applications, .tasks, .packs, .documents, .sequences]
      (startAuthorisation caseType id user) := by
  refine .bind (touches_loadWithTask _ _ _ _ _) fun (application, task) =>
    .bind (touches_read _ _) fun errors => .bind (touches_require _ _ _) fun _ =>
      .bind (touches_finishTask _ (by decide) _) fun _ => ?_
  split
  · split
    · exact .bind (touches_now _) fun _ => .bind (touches_archiveDraft _ (by decide)) fun _ =>
        touches_saved (by decide) _
    · exact .bind (touches_createTask _ (by decide) _ _) fun _ =>
        .bind (touches_archiveDraft _ (by decide)) fun _ => touches_saved (by decide) _
  · exact .bind (touches_createTask _ (by decide) _ _) fun _ =>
      .bind (touches_createDocuments (by decide) (by decide) _) fun _ =>
        touches_saved (by decide) _

theorem touches_authoriseDocuments (user : User) :
    Touches [.tasks] (authoriseDocuments caseType id user) :=
  .bind (touches_loadWithTask _ _ _ _ _) fun _ =>
    .bind (touches_finishTask _ (by decide) _) fun _ =>
      .bind (touches_createTask _ (by decide) _ _) fun _ => touches_pure _ _

theorem touches_sendAndSave (application : Application) (previous : Option Nat) (revoke : Bool) :
    Touches [.applications, .tasks, .packs, .requests, .outbox] (do
      let context ← Work.context
      let _ ← sendToChief application previous revoke context.sendsLicences
      saved application) :=
  .bind (touches_context _) fun _ =>
    .bind (touches_sendToChief (by decide) (by decide) (by decide) _ _ _ _) fun _ =>
      touches_saved (by decide) _

theorem touches_documentsSigned :
    Touches [.applications, .tasks, .packs, .requests, .outbox] (documentsSigned caseType id) := by
  refine .bind (touches_loadWithTask _ _ _ _ _) fun (application, task) =>
    .bind (touches_finishTask _ (by decide) _) fun _ => ?_
  split
  · exact touches_sendAndSave _ _ _
  · exact .bind (touches_now _) fun _ => .bind (touches_issueDraft (by decide) _) fun _ =>
      touches_saved (by decide) _

theorem touches_replaceTask (ended created : TaskType) :
    Touches [.tasks] (replaceTask caseType id ended created) :=
  .bind (touches_loadWithTask _ _ _ _ _) fun _ =>
    .bind (touches_finishTask _ (by decide) _) fun _ =>
      .bind (touches_createTask _ (by decide) _ _) fun _ => touches_pure _ _

theorem touches_requestWithdrawal (user : User) (reason : String) :
    Touches [.applications, .records] (requestWithdrawal caseType id user reason) :=
  .bind (touches_require _ _ _) fun _ => .bind (touches_load _ _ _) fun _ =>
    .bind (touches_checkFlow _ _) fun _ => .bind (touches_require _ _ _) fun _ =>
      .bind (touches_nextRecord (by decide)) fun _ => touches_saved (by decide) _

theorem touches_respondToWithdrawal (user : User) (accept : Bool) (answer : Option String) :
    Touches [.applications, .tasks, .packs]
      (respondToWithdrawal caseType id user accept answer) := by
  refine .bind (touches_load _ _ _) fun _ => .bind (touches_checkFlow _ _) fun _ =>
    .bind (touches_require _ _ _) fun _ => ?_
  split
  · exact .bind (touches_now _) fun _ => .bind (touches_finishAllTasks _ (by decide)) fun _ =>
      .bind (touches_archiveDraft _ (by decide)) fun _ => touches_saved (by decide) _
  · refine .bind (touches_read _ _) fun _ => ?_
    split
    · exact touches_saved (by decide) _
    · exact .bind (touches_createTask _ (by decide) _ _) fun _ => touches_saved (by decide) _

theorem touches_stop : Touches [.applications, .tasks, .packs] (stop caseType id) :=
  .bind (touches_loadWithTask _ _ _ _ _) fun _ => .bind (touches_now _) fun _ =>
    .bind (touches_finishAllTasks _ (by decide)) fun _ =>
      .bind (touches_archiveDraft _ (by decide)) fun _ => touches_saved (by decide) _

theorem touches_reopen : Touches [.applications, .tasks, .packs] (reopen caseType id) :=
  .bind (touches_load _ _ _) fun _ => .bind (touches_checkFlow _ _) fun _ =>
    .bind (touches_createTask _ (by decide) _ _) fun _ =>
      .bind (touches_createDraft (by decide) _ _) fun _ => touches_saved (by decide) _

theorem touches_revoke (input : RevokeInput) :
    Touches [.applications, .tasks, .packs, .requests, .outbox] (revoke caseType id input) := by
  refine .bind (touches_load _ _ _) fun _ => .bind (touches_checkFlow _ _) fun _ =>
    .bind (touches_revokeActive _ (by decide) _ _) fun _ => ?_
  dsimp only
  split
  · exact touches_sendAndSave _ _ _
  · exact touches_saved (by decide) _

theorem touches_requestVariation (user : User) (whatVaried : String) :
    Touches [.applications, .tasks, .packs, .records]
      (requestVariation caseType id user whatVaried) :=
  .bind (touches_require _ _ _) fun _ => .bind (touches_load _ _ _) fun _ =>
    .bind (touches_checkFlow _ _) fun _ => .bind (touches_nextRecord (by decide)) fun _ =>
      .bind (touches_now _) fun _ => .bind (touches_ofExcept _ _ _) fun _ =>
        .bind (touches_createTask _ (by decide) _ _) fun _ =>
          .bind (touches_createDraft (by decide) _ _) fun _ => touches_saved (by decide) _

theorem touches_closeUpdateRequest (entry : Nat) :
    Touches [.applications, .tasks] (closeUpdateRequest caseType id entry) := by
  refine .bind (touches_loadWithTask _ _ _ _ _) fun _ => .bind (touches_findEntry _ _ _ _)
    fun request => ?_
  split
  · exact touches_refuse _ _
  · have saved : ∀ application : Application, ∀ answer : UpdateRequest,
        Touches [.applications, .tasks] (do save application; pure answer) :=
      fun _ _ => .bind (touches_save (by decide) _) fun _ => touches_pure _ _
    split
    · exact .bind (touches_checkFlow _ _) fun _ =>
        .bind (touches_finishTask _ (by decide) _) fun _ => saved _ _
    · exact saved _ _

theorem touches_approveLicence :
    Touches [.applications, .tasks, .packs, .requests] (approveLicence id) := by
  have answered : Touches [.applications, .tasks, .packs, .requests]
      (answerRequest id completeRequest) :=
    touches_answerRequest _ fun _ => touches_completeRequest _ (by decide)
  refine .bind (touches_enter _) fun _ => .bind (touches_findApplication _ _) fun application =>
    .bind (touches_finishWait (by decide) _) fun _ => ?_
  split
  · exact .bind answered fun _ => touches_save (by decide) _
  · exact .bind (touches_now _) fun _ => .bind (touches_issueDraft (by decide) _) fun _ =>
      .bind answered fun _ => touches_save (by decide) _

theorem touches_rejectLicence (errors : List ChiefResponseError) :
    Touches [.tasks, .requests] (rejectLicence id errors) :=
  .bind (touches_enter _) fun _ => .bind (touches_findApplication _ _) fun _ =>
    .bind (touches_finishWait (by decide) _) fun _ =>
      .bind (touches_createTask _ (by decide) _ _) fun _ =>
        touches_answerRequest _ fun _ => touches_failRequest _ (by decide) _

theorem touches_resendLicence : Touches [.tasks, .requests, .outbox] (resendLicence id) :=
  .bind (touches_enter _) fun _ => .bind (touches_findApplication _ _) fun _ =>
    .bind (touches_currentTask _ _ _ _) fun _ => .bind (touches_finishTask _ (by decide) _)
      fun _ => .bind (touches_context _) fun _ =>
        touches_sendToChief (by decide) (by decide) (by decide) _ _ _ _

theorem touches_revertLicence : Touches [.tasks] (revertLicence id) :=
  .bind (touches_enter _) fun _ => .bind (touches_currentTask _ _ _ _) fun _ =>
    .bind (touches_finishTask _ (by decide) _) fun _ => touches_createTask _ (by decide) _ _

end Operations

end Work

namespace Operation

def parts : Operation → List Part
  | .get _ _ | .view _ _ | .pendingLicences | .failedLicences | .search _ _ | .spreadsheet _ => []
  | .edit _ _ _ | .releaseOwnership _ _ | .reassign _ _ _ | .completeChecklist _ _ _
  | .decide _ _ _ | .addInformationRequest _ _ _ | .respondToInformationRequest _ _ _
  | .closeInformationRequest _ _ _ | .startUpdate _ _ _ | .addEmail _ _ _ | .closeEmail _ _ _ =>
    [.applications]
  | .create _ _ | .respondToWithdrawal _ _ _ _ _ | .stop _ _ | .reopen _ _ =>
    [.applications, .tasks, .packs]
  | .cancel _ _ => [.applications, .tasks, .packs, .documents]
  | .submit _ _ _ => [.applications, .tasks, .sequences]
  | .takeOwnership _ _ _ => [.applications, .packs]
  | .editLicence _ _ _ => [.packs]
  | .startAuthorisation _ _ _ => [.applications, .tasks, .packs, .documents, .sequences]
  | .authoriseDocuments _ _ _ | .documentsFailed _ _ | .retrySigning _ _ | .revertLicence _ =>
    [.tasks]
  | .documentsSigned _ _ | .revoke _ _ _ => [.applications, .tasks, .packs, .requests, .outbox]
  | .requestWithdrawal _ _ _ _ => [.applications, .records]
  | .requestVariation _ _ _ _ => [.applications, .tasks, .packs, .records]
  | .addUpdateRequest _ _ _ | .closeUpdateRequest _ _ _ => [.applications, .tasks]
  | .approveLicence _ => [.applications, .tasks, .packs, .requests]
  | .rejectLicence _ _ => [.tasks, .requests]
  | .resendLicence _ => [.tasks, .requests, .outbox]

open Work in
theorem touches_work (operation : Operation) : Touches operation.parts operation.work := by
  cases operation
  case create => exact .map (touches_create _) _
  case get => exact .map (touches_load _ _ _) _
  case view => exact .map (.bind (touches_load _ _ _) fun _ => touches_read _ _) _
  case edit => exact .map (touches_edit _ _ _) _
  case cancel => exact .map (touches_cancel _ _) _
  case submit => exact .map (touches_submit _ _ _) _
  case takeOwnership => exact .map (touches_takeOwnership _ _ _) _
  case releaseOwnership =>
    exact .map (.bind (touches_loadWithTask _ _ _ _ _) fun _ => touches_saved (by simp [parts]) _) _
  case reassign => exact .map (.bind (touches_enter _) fun _ => touches_reassignEach _ _ _) _
  case completeChecklist =>
    refine .map (.bind (touches_loadWithTask _ _ _ _ _) fun _ => ?_) _
    exact .bind (touches_require _ _ _) fun _ => touches_saved (by simp [parts]) _
  case editLicence => exact .map (touches_editLicence _ _ _) _
  case decide =>
    refine .map (.bind (touches_loadWithTask _ _ _ _ _) fun _ => ?_) _
    exact .bind (touches_decisionReason _ _) fun _ => touches_saved (by simp [parts]) _
  case startAuthorisation => exact .map (touches_startAuthorisation _ _ _) _
  case authoriseDocuments => exact .map (touches_authoriseDocuments _ _ _) _
  case documentsSigned => exact .map (touches_documentsSigned _ _) _
  case documentsFailed | retrySigning => exact .map (touches_replaceTask _ _ _ _) _
  case requestWithdrawal => exact .map (touches_requestWithdrawal _ _ _ _) _
  case respondToWithdrawal => exact .map (touches_respondToWithdrawal _ _ _ _ _) _
  case stop => exact .map (touches_stop _ _) _
  case reopen => exact .map (touches_reopen _ _) _
  case revoke => exact .map (touches_revoke _ _ _) _
  case requestVariation => exact .map (touches_requestVariation _ _ _ _) _
  case addInformationRequest | addEmail =>
    refine .map (.bind (touches_loadWithTask _ _ _ _ _) fun _ => ?_) _
    exact .bind (touches_save (by simp [parts]) _) fun _ => touches_pure _ _
  case respondToInformationRequest | startUpdate =>
    refine .map (.bind (touches_load _ _ _) fun _ => .bind (touches_checkFlow _ _) fun _ => ?_) _
    exact .bind (touches_findEntry _ _ _ _) fun _ => .bind (touches_require _ _ _) fun _ =>
      .bind (touches_save (by simp [parts]) _) fun _ => touches_pure _ _
  case closeInformationRequest | closeEmail =>
    refine .map (.bind (touches_loadWithTask _ _ _ _ _) fun _ => ?_) _
    exact .bind (touches_findEntry _ _ _ _) fun _ => .bind (touches_require _ _ _) fun _ =>
      .bind (touches_save (by simp [parts]) _) fun _ => touches_pure _ _
  case addUpdateRequest =>
    refine .map (.bind (touches_loadWithTask _ _ _ _ _) fun _ => ?_) _
    exact .bind (touches_require _ _ _) fun _ => .bind (touches_now _) fun _ =>
      .bind (touches_createTask _ (by simp [parts]) _ _) fun _ =>
        .bind (touches_save (by simp [parts]) _) fun _ => touches_pure _ _
  case closeUpdateRequest => exact .map (touches_closeUpdateRequest _ _ _) _
  case approveLicence => exact .map (touches_approveLicence _) _
  case rejectLicence => exact .map (touches_rejectLicence _ _) _
  case resendLicence => exact .map (touches_resendLicence _) _
  case revertLicence => exact .map (touches_revertLicence _) _
  case pendingLicences | failedLicences =>
    exact .map (.bind (touches_enter _) fun _ => touches_read _ _) _
  case search => exact .map (touches_search _ _ _) _
  case spreadsheet =>
    refine .map (.bind (touches_enter _) fun _ => .bind (touches_read _ _) fun _ => ?_) _
    exact .bind (touches_search _ _ _) fun _ => touches_pure _ _

end Operation

end Casework
