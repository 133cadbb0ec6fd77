import Casework.Document.Issue

set_option autoImplicit false

namespace Casework

open Calendar

def LicencePayload.build (store : Store) (application : Application) (revoke : Bool) :
    Except ChiefError LicencePayload := do
  let some licenceType := ChiefLicenceType.of? application.processType
    | .error (.unsupported application.processType)
  let action :=
    if revoke then ChiefAction.cancel
    else if application.status = .variationRequested then .replace
    else .insert
  let pack ← (if revoke then store.revokedPack application.id
    else store.draftPack application.id).mapError ChiefError.pack
  let some licenceReference := (store.licenceOf pack.id).bind (·.reference)
    | .error (.missingLicence application.id)
  pure
    { action, licenceType, licenceReference
      caseReference := application.shownReference
      organisation := application.organisation
      startDate := pack.startDate
      endDate := pack.endDate }

namespace Work

def deliverLicence (application : Application) (revoke sends : Bool) :
    Work (Except ChiefError (Option LicencePayload)) :=
  if sends then do
    let built ← read fun store => LicencePayload.build store application revoke
    match built with
    | .error error => pure (.error error)
    | .ok payload => do
      let refusal ← deliver payload
      match refusal with
      | some reason => pure (.error (.transport reason))
      | none => pure (.ok (some payload))
  else pure (.ok none)

def followingTask (revoke : Bool) : Except ChiefError (Option LicencePayload) → TaskType
  | .ok _ => if revoke then .chiefRevokeWait else .chiefWait
  | .error _ => .chiefError

def requestOf (id : Nat) (application : Application) (now : Instant) :
    Except ChiefError (Option LicencePayload) → ChiefRequest
  | .ok payload =>
    { id, processId := application.id, caseReference := application.shownReference, payload
      sent := now, answered := none, status := .processing, errors := [] }
  | .error error =>
    { id, processId := application.id, caseReference := application.shownReference, payload := none
      sent := now, answered := none, status := .internalError, errors := [⟨"ICMS", error.message⟩] }

def sendToChief (application : Application) (previous : Option Nat) (revoke sends : Bool) :
    Work TaskType := do
  let outcome ← deliverLicence application revoke sends
  let id ← nextRequest
  let now ← now
  write fun store =>
    { store with requests := store.requests.insert (requestOf id application now outcome) }
  createTask application.id (followingTask revoke outcome) previous
  pure (followingTask revoke outcome)

def completeRequest (id : Nat) : Work Unit := do
  let now ← now
  write fun store => { store with requests := store.requests.modify id (·.completed now) }

def failRequest (id : Nat) (errors : List ChiefResponseError) : Work Unit := do
  let now ← now
  write fun store => { store with requests := store.requests.modify id (·.failed errors now) }

end Work

def Store.awaitedRequest (store : Store) (processId : Nat) : Option ChiefRequest :=
  ((store.requestsOf processId).filter (·.status == .processing)).getLast?

def awaitedReply (status : CaseStatus) : List CaseStatus × TaskType :=
  if status = .revoked then ([.revoked], .chiefRevokeWait)
  else ([.processing, .variationRequested], .chiefWait)

def Store.withActiveTask (store : Store) (taskType : TaskType) : List Application :=
  store.applications.rows.filter fun application =>
    application.isActive && store.tasks.hasActive application.id taskType

end Casework
