import Casework.Case.Completeness

set_option autoImplicit false

namespace Casework

open Calendar

def openStates : List CaseStatus := [.submitted, .processing, .variationRequested]

def processingStates : List CaseStatus := [.processing, .variationRequested]

namespace NewApplication

def givenGoods (draft : NewApplication) : Goods :=
  draft.goods.getD (.blank draft.processType)

def toApplication (draft : NewApplication) (id : Nat) (now : Instant) : Application :=
  { id, processType := draft.processType, isActive := true, status := .inProgress
    reference := none, applicantReference := draft.applicantReference
    decision := none, refuseReason := none
    variationDecision := none, variationRefuseReason := none, owner := none
    created := now, submitted := none, submittedBy := none, ordered := now
    contact := draft.contact, organisation := draft.organisation, agent := draft.agent
    usage := none, licenceNumber := none, checklist := none
    variations := [], informationRequests := [], updateRequests := [], emails := []
    withdrawals := [], goods := draft.givenGoods }

end NewApplication

namespace Application

def afterSubmission (application : Application) (user : User) (reference : String) (now : Instant) :
    Application :=
  { application with
    reference := some reference
    submitted := some (application.submitted.getD now)
    submittedBy := some user.id
    ordered := now
    status :=
      if application.status = .variationRequested then .variationRequested
      else if application.owner.isSome then .processing
      else .submitted
    updateRequests := application.updateRequests.map fun request =>
      if request.status = .inProgress then { request with status := .responded } else request }

end Application

namespace Work

def load (caseType : CaseType) (id : Nat) : Work Application := do
  enter
  let application ← findApplication id
  require (application.caseType == caseType) (.repository (.notFound id))
  pure application

def saved (application : Application) : Work Application := do
  save application
  pure application

def create (draft : NewApplication) : Work Application := do
  -- Goods that do not suit are refused even where the tables cannot be used.
  require (draft.givenGoods.suits draft.processType) (.ofField "detail" goodsMismatch)
  enter
  let id ← nextProcess
  let now ← now
  let application := draft.toApplication id now
  addApplication application
  createTask id .prepare none
  let _ ← createDraft application false
  pure application

def edit (caseType : CaseType) (id : Nat) (goods : Goods) : Work Application := do
  let application ← load caseType id
  checkFlow fun store => application.checkEditing store.tasks
  require (goods.suits application.processType) (.ofField "detail" goodsMismatch)
  saved { application with goods }

def cancel (caseType : CaseType) (id : Nat) : Work Unit := do
  let _ ← load caseType id
  let _ ← currentTask id [.inProgress] .prepare
  let _ ← removeApplication id

def submit (caseType : CaseType) (id : Nat) (user : User) : Work Application := do
  let application ← load caseType id
  checkFlow fun store => application.checkEditing store.tasks
  let task ← checkFlow fun store => application.standing.expectedTask store.tasks .prepare
  require application.submissionErrors.isEmpty (.validation application.submissionErrors)
  let reference ← match application.reference with
    | some reference => pure reference
    | none => drawCaseReference application.processType
  let now ← now
  finishTask task.id (some user.id)
  -- The caseworker's task stays open while the applicant answers an update request.
  let processing ← read fun store => store.tasks.hasActive id .process
  unless processing do
    createTask id .process (some task.id)
  saved (application.afterSubmission user reference now)

def requestWithdrawal (caseType : CaseType) (id : Nat) (user : User) (reason : String) :
    Work Application := do
  require (!Text.isBlankText reason) (.ofField "reason" FieldErrors.fieldRequired)
  let application ← load caseType id
  checkFlow fun _ => application.standing.checkStatus openStates
  require (!application.withdrawals.any (·.isOpen)) (.invalid .withdrawalOpen)
  let record ← nextRecord
  let withdrawal : Withdrawal :=
    { id := record, status := .opened, reason, requestedBy := user.id
      answeredBy := none, answer := none }
  saved { application with withdrawals := application.withdrawals ++ [withdrawal] }

def findEntry {α : Type} (entries : List α) (wanted : α → Bool) (unknown : InvalidRequest) :
    Work α :=
  match entries.find? wanted with
  | some entry => pure entry
  | none => refuse (.invalid unknown)

def respondToInformationRequest (caseType : CaseType) (id entry : Nat) :
    Work InformationRequest := do
  let application ← load caseType id
  checkFlow fun _ => application.standing.checkStatus openStates
  let request ← findEntry application.informationRequests (·.id == entry)
    (.noInformationRequest entry)
  require (request.status == .opened) (.invalid (.informationRequestNotOpen entry))
  save
    { application with
      informationRequests := changeFirst (·.id == entry) ({ · with status := .responded })
        application.informationRequests }
  pure { request with status := .responded }

def startUpdate (caseType : CaseType) (id entry : Nat) : Work UpdateRequest := do
  let application ← load caseType id
  checkFlow fun _ => application.standing.checkStatus openStates
  let request ← findEntry application.updateRequests (·.id == entry) (.noUpdateRequest entry)
  require (request.status == .opened) (.invalid (.updateRequestNotOpen entry))
  save
    { application with
      updateRequests := changeFirst (·.id == entry) ({ · with status := .inProgress })
        application.updateRequests }
  pure { request with status := .inProgress }

end Work

end Casework
