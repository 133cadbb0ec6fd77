import Casework.Case.Application
import Casework.Workflow.Task
import Casework.Text.Numeral

set_option autoImplicit false

namespace Casework

open Text (numeral)

structure ProcessState where
  id : Nat
  status : CaseStatus
deriving DecidableEq, Repr

inductive FlowError where
  | inactive (process : Nat)
  | wrongState (process : Nat) (status : CaseStatus)
  -- Not exactly one active task of the type.
  | task (process : ProcessState) (taskType : TaskType) (found : Nat)
deriving DecidableEq, Repr

namespace FlowError

def message : FlowError → String
  | .inactive process => "process " ++ numeral process ++ " is not active"
  | .wrongState process status =>
    "process " ++ numeral process ++ " is in the wrong state: " ++ status.code
  | .task process taskType found =>
    "expected one active " ++ taskType.code ++ " task for process " ++ numeral process.id ++
      ", found " ++ numeral found

def isReported : FlowError → Bool
  | .task _ _ _ => true
  | _ => false

end FlowError

structure Standing where
  id : Nat
  isActive : Bool
  status : CaseStatus
deriving DecidableEq, Repr

def Application.standing (application : Application) : Standing :=
  ⟨application.id, application.isActive, application.status⟩

namespace Standing

def process (standing : Standing) : ProcessState := ⟨standing.id, standing.status⟩

def checkActive (standing : Standing) : Except FlowError Unit :=
  if standing.isActive then .ok () else .error (.inactive standing.id)

def checkStatus (standing : Standing) (expected : List CaseStatus) : Except FlowError Unit :=
  if standing.status ∈ expected then .ok () else .error (.wrongState standing.id standing.status)

def checkTask (standing : Standing) (tasks : TaskTable) (taskType : TaskType) :
    Except FlowError Unit :=
  if taskType ∈ tasks.activeTypes standing.id then .ok ()
  else .error (.task standing.process taskType 0)

def expectedTask (standing : Standing) (tasks : TaskTable) (taskType : TaskType) :
    Except FlowError Task := do
  standing.checkActive
  match tasks.activeOf standing.id taskType with
  | [task] => .ok task
  | others => .error (.task standing.process taskType others.length)

def currentTask (standing : Standing) (tasks : TaskTable) (expected : List CaseStatus)
    (taskType : TaskType) : Except FlowError Task := do
  standing.checkActive
  standing.checkStatus expected
  standing.expectedTask tasks taskType

end Standing

namespace Application

-- Ownership was given up after an update request was made, so the case went back to submitted.
def isReleasedForUpdate (application : Application) : Bool :=
  application.status == .submitted && application.owner.isNone &&
    !application.currentUpdateRequests.isEmpty

def checkStage (application : Application) (tasks : TaskTable) (expected : List CaseStatus)
    (taskType : TaskType) : Except FlowError Unit := do
  application.standing.checkStatus expected
  application.standing.checkTask tasks taskType

def checkDraft (application : Application) (tasks : TaskTable) : Except FlowError Unit :=
  application.checkStage tasks [.inProgress] .prepare

def checkEditing (application : Application) (tasks : TaskTable) : Except FlowError Unit := do
  unless application.isReleasedForUpdate do
    application.standing.checkStatus [.inProgress, .processing, .variationRequested]
  application.standing.checkTask tasks .prepare

def checkSubmitted (application : Application) (tasks : TaskTable) : Except FlowError Unit :=
  application.checkStage tasks [.submitted, .variationRequested] .process

def checkProcessing (application : Application) (tasks : TaskTable) : Except FlowError Unit :=
  application.checkStage tasks [.submitted, .processing, .variationRequested] .process

def checkAuthorised (application : Application) (tasks : TaskTable) : Except FlowError Unit :=
  application.checkStage tasks [.processing, .variationRequested] .authorise

def checkWithChief (application : Application) (tasks : TaskTable) : Except FlowError Unit :=
  application.checkStage tasks [.processing, .variationRequested] .chiefWait

def checkComplete (application : Application) (includeRevoked : Bool) : Except FlowError Unit :=
  application.standing.checkStatus (if includeRevoked then [.completed, .revoked] else [.completed])

end Application

end Casework
