import Casework.Proofs.Store.Rows
import Casework.Chief.Exchange

set_option autoImplicit false

namespace Casework

open Calendar
open Table (changeAt)

structure CaseFile where
  application : Application
  tasks : List Task
  packs : List Pack
  documents : List Document
  requests : List ChiefRequest

def Store.fileOf (store : Store) (id : Nat) : Option CaseFile :=
  (store.applications.find? id).map fun application =>
    { application
      tasks := store.tasks.ofProcess id
      packs := store.packsOf id
      documents := store.documents.rows.filter fun document =>
        (store.packsOf id).any (·.id == document.packId)
      requests := store.requestsOf id }

def Task.isOpen (taskType : TaskType) (task : Task) : Bool :=
  task.isActive && task.taskType == taskType

def Task.opened (id processId : Nat) (taskType : TaskType) (previous : Option Nat) (now : Instant) :
    Task :=
  { id, processId, taskType, isActive := true, created := now, finished := none, previous
    owner := none }

def Application.firstTerms (application : Application) : LicenceUpdate :=
  if application.isImport then ⟨none, none, application.terms.initialPaperOnly⟩
  else ⟨none, none, none⟩

def Pack.isIn (status : PackStatus) (pack : Pack) : Bool := pack.status == status

def Pack.archived (pack : Pack) : Pack := { pack with status := .archived }

def Pack.drafted (id processId : Nat) (terms : LicenceUpdate) (now : Instant) : Pack :=
  { id, processId, status := .draft, created := now, caseReference := none, completed := none
    paperOnly := terms.paperOnly, startDate := terms.startDate, endDate := terms.endDate
    revokeReason := none, revokeEmailSent := false }

namespace CaseFile

def load (file : CaseFile) (taskType : TaskType) : Nat := file.tasks.countP (Task.isOpen taskType)

def packCount (file : CaseFile) (status : PackStatus) : Nat := file.packs.countP (Pack.isIn status)

def licenceOf (file : CaseFile) (packId : Nat) : Option Document :=
  (file.documents.filter (·.packId == packId)).find? (·.documentType == .licence)

def awaited (file : CaseFile) : Option ChiefRequest :=
  (file.requests.filter (·.status == .processing)).getLast?

def put (file : CaseFile) (application : Application) : CaseFile := { file with application }

def addTask (file : CaseFile) (task : Task) : CaseFile :=
  { file with tasks := file.tasks ++ [task] }

def finish (file : CaseFile) (id : Nat) (owner : Option Nat) (now : Instant) : CaseFile :=
  { file with tasks := changeAt id (·.ended owner now) file.tasks }

def finishAll (file : CaseFile) (now : Instant) : CaseFile :=
  { file with
    tasks := file.tasks.map fun task => if task.isActive then task.ended none now else task }

def ensureTask (file : CaseFile) (task : Task) : CaseFile :=
  if file.load task.taskType = 0 then file.addTask task else file

def addPack (file : CaseFile) (pack : Pack) : CaseFile :=
  { file with packs := file.packs ++ [pack] }

def changePack (file : CaseFile) (id : Nat) (change : Pack → Pack) : CaseFile :=
  { file with packs := changeAt id change file.packs }

def issue (file : CaseFile) (draft : Pack) (earlier : Option Pack) (reference : Option String)
    (now : Instant) : CaseFile :=
  -- A first issue finds no pack in force.
  (match earlier with
    | some pack => file.changePack pack.id .archived
    | none => file).changePack draft.id (·.issued reference now)

def redocument (file : CaseFile) (packId : Nat) (documents : List Document) : CaseFile :=
  { file with documents := file.documents.filter (·.packId != packId) ++ documents }

def addRequest (file : CaseFile) (request : ChiefRequest) : CaseFile :=
  { file with requests := file.requests ++ [request] }

def answer (file : CaseFile) (change : ChiefRequest → ChiefRequest) : CaseFile :=
  -- A reply may find no request that waits for it.
  match file.awaited with
  | some request => { file with requests := changeAt request.id change file.requests }
  | none => file

def singlePack (file : CaseFile) (status : PackStatus) : Except PackError Pack :=
  match file.packs.filter (Pack.isIn status) with
  | [pack] => .ok pack
  | [] => .error (.notFound file.application.id status)
  | packs => .error (.multiple file.application.id status packs.length)

def payload (file : CaseFile) (application : Application) (revoke : Bool) :
    Except ChiefError LicencePayload := do
  let some licenceType := ChiefLicenceType.of? application.processType
    | .error (.unsupported application.processType)
  let action :=
    if revoke then ChiefAction.cancel
    else if application.status = .variationRequested then .replace
    else .insert
  let pack ← (file.singlePack (if revoke then .revoked else .draft)).mapError ChiefError.pack
  let some licenceReference := (file.licenceOf pack.id).bind (·.reference)
    | .error (.missingLicence application.id)
  pure
    { action, licenceType, licenceReference
      caseReference := application.shownReference
      organisation := application.organisation
      startDate := pack.startDate
      endDate := pack.endDate }

def outcome (file : CaseFile) (context : Context) (application : Application) (revoke : Bool) :
    Except ChiefError (Option LicencePayload) :=
  if context.sendsLicences then
    match file.payload application revoke with
    | .error error => .error error
    | .ok payload =>
      match context.transport payload with
      | some reason => .error (.transport reason)
      | none => .ok (some payload)
  else .ok none

def send (file : CaseFile) (context : Context) (application : Application) (revoke : Bool)
    (requestId taskId : Nat) (previous : Option Nat) : CaseFile :=
  let outcome := file.outcome context application revoke
  -- A sending that fails is recorded as well.
  (file.addRequest (Work.requestOf requestId application context.now outcome)).addTask
    (.opened taskId application.id (Work.followingTask revoke outcome) previous context.now)

def VariationTerms (file : CaseFile) (application : Application) (terms : LicenceUpdate) : Prop :=
  if application.isImport then
    -- A variation of a licence needs a licence in force.
    ∃ pack, file.packs.filter (Pack.isIn .active) = [pack] ∧
      terms = ⟨pack.startDate, pack.endDate, pack.paperOnly⟩
  else terms = ⟨none, none, none⟩

structure Current (file : CaseFile) (expected : List CaseStatus) (taskType : TaskType)
    (task : Task) : Prop where
  active : file.application.isActive = true
  status : file.application.status ∈ expected
  -- A second task of the type refuses the operation.
  only : file.tasks.filter (Task.isOpen taskType) = [task]

structure Editing (file : CaseFile) : Prop where
  stage : file.application.isReleasedForUpdate = true ∨
    file.application.status ∈ [CaseStatus.inProgress, .processing, .variationRequested]
  preparing : file.load .prepare ≠ 0

end CaseFile

end Casework
