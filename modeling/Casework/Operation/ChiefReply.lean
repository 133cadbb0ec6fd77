import Casework.Operation.Caseworker

set_option autoImplicit false

namespace Casework

open Calendar

namespace Work

def answerRequest (processId : Nat) (answer : Nat → Work Unit) : Work Unit := do
  let request ← read fun store => store.awaitedRequest processId
  match request with
  | some request => answer request.id
  | none => pure ()

def finishWait (application : Application) : Work Task := do
  let (expected, taskType) := awaitedReply application.status
  let task ← currentTask application.id expected taskType
  finishTask task.id none
  pure task

def approveLicence (id : Nat) : Work Unit := do
  enter
  let application ← findApplication id
  let _ ← finishWait application
  if application.status = .revoked then do
    answerRequest id completeRequest
    save application
  else do
    let now ← now
    -- What was sent is issued only now that CHIEF has taken it.
    let _ ← issueDraft application
    answerRequest id completeRequest
    save (application.complete .accepted now)

def rejectLicence (id : Nat) (errors : List ChiefResponseError) : Work Unit := do
  enter
  let application ← findApplication id
  let task ← finishWait application
  createTask id .chiefError (some task.id)
  answerRequest id (failRequest · errors)

def resendLicence (id : Nat) : Work TaskType := do
  enter
  let application ← findApplication id
  let revoked := application.status == .revoked
  let task ← currentTask id (if revoked then [.revoked] else processingStates) .chiefError
  finishTask task.id none
  let context ← context
  sendToChief application (some task.id) revoked context.sendsLicences

def revertLicence (id : Nat) : Work Unit := do
  enter
  let task ← currentTask id processingStates .chiefError
  finishTask task.id none
  createTask id .process (some task.id)

end Work

end Casework
