import Casework.Operation.Applicant
import Casework.Chief.Exchange

set_option autoImplicit false

namespace Casework

open Calendar

structure DecisionInput where
  decision : Decision
  refuseReason : Option String
deriving DecidableEq, Repr

structure RevokeInput where
  reason : Option String
  sendEmail : Bool
deriving DecidableEq, Repr

namespace Application

-- The licence is handed to the customs register before it is issued.
def goesToChief (application : Application) : Bool :=
  application.isImport && application.terms.sentToChief

def withDecision (application : Application) (decision : Decision) (refuseReason : Option String) :
    Application :=
  if application.isImportVariation then
    { application with variationDecision := some decision, variationRefuseReason := refuseReason }
  else { application with decision := some decision, refuseReason }

def rejectVariation (application : Application) (now : Instant) : Application :=
  let reasoned :=
    { application with
      variations := changeFirst VariationRequest.isOpen
        ({ · with rejectionReason := application.variationRefuseReason }) application.variations }
  { reasoned.closeOpenVariation .rejected now with status := .completed }

def complete (application : Application) (outcome : VariationStatus) (now : Instant) :
    Application :=
  { application.closeOpenVariation outcome now with status := .completed, ordered := now }

def answerWithdrawal (application : Application) (user : User) (status : WithdrawalStatus)
    (answer : Option String) : Application :=
  { application with
    withdrawals := changeFirst Withdrawal.isOpen
      ({ · with status, answeredBy := some user.id, answer }) application.withdrawals }

-- The case after its withdrawal; of a variation only the variation is withdrawn.
def withdraw (application : Application) (now : Instant) : Application :=
  if application.status = .variationRequested then
    { application.closeOpenVariation .withdrawn now with status := .completed }
  else { application with status := .withdrawn, isActive := false }

end Application

def UpdateStatus.afterClosing? : UpdateStatus → Option UpdateStatus
  | .opened => some .draft
  | .responded => some .closed
  | _ => none

namespace Work

def loadWithTask (caseType : CaseType) (id : Nat) (expected : List CaseStatus)
    (taskType : TaskType) : Work (Application × Task) := do
  let application ← load caseType id
  let task ← currentTask id expected taskType
  pure (application, task)

def takeOwnership (caseType : CaseType) (id : Nat) (user : User) : Work Application := do
  let (application, _) ← loadWithTask caseType id [.submitted, .variationRequested] .process
  if application.isImport then do
    let draft ← findDraft id
    -- A licence starts on the day its case is first taken, unless a start has been set.
    if draft.startDate.isNone then do
      let now ← now
      updateDraft id ⟨some now.date, none, none⟩
  let status := if application.status = .submitted then .processing else application.status
  saved { application with status, owner := some user }

def releaseOwnership (caseType : CaseType) (id : Nat) : Work Application := do
  let (application, _) ← loadWithTask caseType id openStates .process
  let status :=
    if application.status = .variationRequested then application.status else .submitted
  saved { application with status, owner := none }

def reassignEach (caseType : CaseType) (owner : User) : List Nat → Work (List Nat)
  | [] => pure []
  | id :: ids => do
    let application ← load caseType id
    if application.status ∈ processingStates then do
      save { application with owner := some owner }
      let others ← reassignEach caseType owner ids
      pure (id :: others)
    else reassignEach caseType owner ids

-- Gives cases to another caseworker and answers those that were in process. One unknown number, or
-- one of the other case type, refuses them all.
def reassign (caseType : CaseType) (ids : List Nat) (owner : User) : Work (List Nat) := do
  enter
  reassignEach caseType owner ids

def completeChecklist (caseType : CaseType) (id : Nat) (checklist : Checklist) :
    Work Application := do
  let (application, _) ← loadWithTask caseType id processingStates .process
  require application.terms.hasChecklist (.invalid (.noChecklist application.processType))
  saved { application with checklist := some checklist }

def datesInOrder (start finish : Option Date) : Bool :=
  match start, finish with
  | some start, some finish => start < finish
  | _, _ => true

def editLicence (caseType : CaseType) (id : Nat) (changes : LicenceUpdate) : Work Pack := do
  let application ← load caseType id
  require application.isImport (.invalid .noLicenceDetails)
  let _ ← currentTask id processingStates .process
  require ((changes.paperOnly.map application.terms.supports).getD true)
    (.ofField "issue_paper_licence_only" mediumUnavailable)
  let draft ← findDraft id
  -- What the changes leave out keeps its value in the draft.
  require (datesInOrder (draft.update changes).startDate (draft.update changes).endDate)
    (.ofField "licence_end_date" "End date must be after the start date.")
  updateDraft id changes
  findDraft id

def decisionReason (input : DecisionInput) : Work (Option String) :=
  match input.decision, input.refuseReason with
  | .approve, _ => pure none
  | .refuse, some reason => do
    require (!Text.isBlankText reason) (.ofField "refuse_reason" FieldErrors.fieldRequired)
    pure (some reason)
  | .refuse, none => refuse (.ofField "refuse_reason" FieldErrors.fieldRequired)

def decide (caseType : CaseType) (id : Nat) (input : DecisionInput) : Work Application := do
  let (application, _) ← loadWithTask caseType id processingStates .process
  let reason ← decisionReason input
  saved (application.withDecision input.decision reason)

def startAuthorisation (caseType : CaseType) (id : Nat) (user : User) : Work Application := do
  let (application, task) ← loadWithTask caseType id processingStates .process
  let errors ← read fun store => application.authorisationErrors store
  require errors.isEmpty (.validation errors)
  finishTask task.id (some user.id)
  if application.currentDecision = some .refuse then
    if application.isImportVariation then do
      let now ← now
      archiveDraft id
      saved (application.rejectVariation now)
    else do
      createTask id .rejected (some task.id)
      archiveDraft id
      saved { application with status := .completed }
  else do
    createTask id .authorise (some task.id)
    let status :=
      if application.status = .variationRequested then application.status else .processing
    -- Creating the documents may give the application its licence number.
    let documented ← createDocuments { application with status }
    saved documented

def authoriseDocuments (caseType : CaseType) (id : Nat) (user : User) : Work Application := do
  let (application, task) ← loadWithTask caseType id processingStates .authorise
  finishTask task.id (some user.id)
  createTask id .documentSigning (some task.id)
  pure application

def documentsSigned (caseType : CaseType) (id : Nat) : Work Application := do
  let (application, task) ← loadWithTask caseType id processingStates .documentSigning
  finishTask task.id none
  if application.goesToChief then do
    let context ← context
    let _ ← sendToChief application (some task.id) false context.sendsLicences
    saved application
  else do
    let now ← now
    let outcome := if application.isImport then .accepted else .closed
    let _ ← issueDraft application
    saved (application.complete outcome now)

def replaceTask (caseType : CaseType) (id : Nat) (ended created : TaskType) :
    Work Application := do
  let (application, task) ← loadWithTask caseType id processingStates ended
  finishTask task.id none
  createTask id created (some task.id)
  pure application

def documentsFailed (caseType : CaseType) (id : Nat) : Work Application :=
  replaceTask caseType id .documentSigning .documentError

def retrySigning (caseType : CaseType) (id : Nat) : Work Application :=
  replaceTask caseType id .documentError .documentSigning

def respondToWithdrawal (caseType : CaseType) (id : Nat) (user : User) (accept : Bool)
    (answer : Option String) : Work Application := do
  let application ← load caseType id
  checkFlow fun _ => application.standing.checkStatus openStates
  require (application.withdrawals.any (·.isOpen)) (.invalid .noOpenWithdrawal)
  if accept then do
    let now ← now
    finishAllTasks id
    archiveDraft id
    saved ((application.answerWithdrawal user .accepted answer).withdraw now)
  else do
    let processing ← read fun store => store.tasks.hasActive id .process
    unless processing do
      createTask id .process none
    saved (application.answerWithdrawal user .rejected answer)

def stop (caseType : CaseType) (id : Nat) : Work Application := do
  let (application, _) ← loadWithTask caseType id openStates .process
  let now ← now
  finishAllTasks id
  archiveDraft id
  saved { application.closeOpenVariation .cancelled now with status := .stopped }

def reopen (caseType : CaseType) (id : Nat) : Work Application := do
  let application ← load caseType id
  checkFlow fun _ => application.standing.checkStatus [.stopped, .withdrawn]
  createTask id .process none
  let _ ← createDraft application false
  saved { application with status := .submitted, isActive := true, owner := none }

def revoke (caseType : CaseType) (id : Nat) (input : RevokeInput) : Work Application := do
  let application ← load caseType id
  checkFlow fun _ => application.checkComplete false
  -- CHIEF is told about the pack that has just been revoked.
  let _ ← revokeActive id input.reason input.sendEmail
  let revoked := { application with status := CaseStatus.revoked }
  if application.goesToChief then do
    let context ← context
    let _ ← sendToChief revoked none true context.sendsLicences
  saved revoked

def requestVariation (caseType : CaseType) (id : Nat) (user : User) (whatVaried : String) :
    Work Application := do
  require (!Text.isBlankText whatVaried) (.ofField "what_varied" FieldErrors.fieldRequired)
  let application ← load caseType id
  checkFlow fun _ => application.checkComplete false
  let record ← nextRecord
  let now ← now
  let variation : VariationRequest :=
    { id := record, status := .opened, whatVaried, requestedBy := user.id, requestedAt := now
      closedAt := none, rejectionReason := none }
  let varied :=
    { application with
      variations := application.variations ++ [variation], status := .variationRequested
      variationDecision := none, variationRefuseReason := none, owner := none }
  -- The new variation is counted in the reference.
  let reference ← ofExcept .reference (Reference.variation varied)
  createTask id .process none
  let _ ← createDraft varied true
  saved { varied with reference := some reference }

def addInformationRequest (caseType : CaseType) (id : Nat) (subject : String) :
    Work InformationRequest := do
  let (application, _) ← loadWithTask caseType id processingStates .process
  let request : InformationRequest :=
    { id := application.informationRequests.length + 1, status := .opened, subject }
  save { application with
    informationRequests := application.informationRequests ++ [request] }
  pure request

def closeInformationRequest (caseType : CaseType) (id entry : Nat) : Work InformationRequest := do
  let (application, _) ← loadWithTask caseType id processingStates .process
  let request ← findEntry application.informationRequests (·.id == entry)
    (.noInformationRequest entry)
  require (request.status == .opened || request.status == .responded)
    (.invalid (.informationRequestClosed entry))
  save
    { application with
      informationRequests := changeFirst (·.id == entry) ({ · with status := .closed })
        application.informationRequests }
  pure { request with status := .closed }

def addUpdateRequest (caseType : CaseType) (id : Nat) (subject : String) :
    Work UpdateRequest := do
  let (application, task) ← loadWithTask caseType id processingStates .process
  require application.currentUpdateRequests.isEmpty (.invalid .updateInProgress)
  let request : UpdateRequest :=
    { id := application.updateRequests.length + 1, status := .opened, subject }
  let now ← now
  createTask id .prepare (some task.id)
  save
    { application with
      updateRequests := application.updateRequests ++ [request], ordered := now }
  pure request

def closeUpdateRequest (caseType : CaseType) (id entry : Nat) : Work UpdateRequest := do
  let (application, _) ← loadWithTask caseType id processingStates .process
  let request ← findEntry application.updateRequests (·.id == entry) (.noUpdateRequest entry)
  match request.status.afterClosing? with
  | none => refuse (.invalid (.updateRequestNotClosable entry))
  | some status => do
    if request.status = .opened then do
      let prepare ← checkFlow fun store => application.standing.expectedTask store.tasks .prepare
      finishTask prepare.id none
    save
      { application with
        updateRequests := changeFirst (·.id == entry) ({ · with status })
          application.updateRequests }
    pure { request with status }

def addEmail (caseType : CaseType) (id : Nat) (recipient : String) : Work CaseEmail := do
  let (application, _) ← loadWithTask caseType id processingStates .process
  let email : CaseEmail := { id := application.emails.length + 1, status := .opened, recipient }
  save { application with emails := application.emails ++ [email] }
  pure email

def closeEmail (caseType : CaseType) (id entry : Nat) : Work CaseEmail := do
  let (application, _) ← loadWithTask caseType id processingStates .process
  let email ← findEntry application.emails (·.id == entry) (.noEmail entry)
  require (email.status == .opened || email.status == .responded) (.invalid (.emailClosed entry))
  save
    { application with
      emails := changeFirst (·.id == entry) ({ · with status := .closed }) application.emails }
  pure { email with status := .closed }

end Work

end Casework
