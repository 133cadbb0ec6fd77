import Casework.Calendar.Instant
import Casework.Store.Table

set_option autoImplicit false

namespace Casework

open Calendar

inductive TaskType where
  | prepare
  | process
  | changeRequest
  | authorise
  | documentError
  | documentSigning
  | chiefWait
  | chiefRevokeWait
  | chiefError
  | rejected
deriving DecidableEq, Repr

namespace TaskType

def all : List TaskType :=
  [.prepare, .process, .changeRequest, .authorise, .documentError, .documentSigning, .chiefWait,
    .chiefRevokeWait, .chiefError, .rejected]

def code : TaskType → String
  | .prepare => "prepare"
  | .process => "process"
  | .changeRequest => "vr_request_change"
  | .authorise => "authorise"
  | .documentError => "document_error"
  | .documentSigning => "document_signing"
  | .chiefWait => "chief_wait"
  | .chiefRevokeWait => "chief_revoke_wait"
  | .chiefError => "chief_error"
  | .rejected => "rejected"

def recordName : TaskType → String
  | .prepare => "PREPARE"
  | .process => "PROCESS"
  | .changeRequest => "VR_REQUEST_CHANGE"
  | .authorise => "AUTHORISE"
  | .documentError => "DOCUMENT_ERROR"
  | .documentSigning => "DOCUMENT_SIGNING"
  | .chiefWait => "CHIEF_WAIT"
  | .chiefRevokeWait => "CHIEF_REVOKE_WAIT"
  | .chiefError => "CHIEF_ERROR"
  | .rejected => "REJECTED"

end TaskType

structure Task where
  id : Nat
  processId : Nat
  taskType : TaskType
  isActive : Bool
  created : Instant
  finished : Option Instant
  previous : Option Nat
  owner : Option Nat
deriving DecidableEq, Repr

instance : Numbered Task := ⟨Task.id⟩

def Task.ended (task : Task) (owner : Option Nat) (now : Instant) : Task :=
  { task with isActive := false, finished := some now, owner := owner.or task.owner }

structure TaskTable where
  rows : Table Task
  lastId : Nat

namespace TaskTable

def empty : TaskTable := ⟨.empty, 0⟩

def find? (tasks : TaskTable) (id : Nat) : Option Task := tasks.rows.find? id

def newTask (tasks : TaskTable) (processId : Nat) (taskType : TaskType) (previous : Option Nat)
    (now : Instant) : Task :=
  { id := tasks.lastId + 1, processId, taskType, isActive := true, created := now
    finished := none, previous, owner := none }

-- Adds an active task. Another of its type may be active already.
def create (tasks : TaskTable) (processId : Nat) (taskType : TaskType) (previous : Option Nat)
    (now : Instant) : TaskTable :=
  ⟨tasks.rows.insert (tasks.newTask processId taskType previous now), tasks.lastId + 1⟩

-- Ends a task, also one that has ended before. A task keeps its owner if none is given.
def finish (tasks : TaskTable) (id : Nat) (owner : Option Nat) (now : Instant) : TaskTable :=
  { tasks with rows := tasks.rows.modify id fun task => task.ended owner now }

def ofProcess (tasks : TaskTable) (processId : Nat) : List Task :=
  tasks.rows.rows.filter (·.processId == processId)

def active (tasks : TaskTable) (processId : Nat) : List Task :=
  (tasks.ofProcess processId).filter (·.isActive)

def activeTypes (tasks : TaskTable) (processId : Nat) : List TaskType :=
  (tasks.active processId).map (·.taskType)

def activeOf (tasks : TaskTable) (processId : Nat) (taskType : TaskType) : List Task :=
  (tasks.active processId).filter (·.taskType == taskType)

def hasActive (tasks : TaskTable) (processId : Nat) (taskType : TaskType) : Bool :=
  (tasks.active processId).any (·.taskType == taskType)

def finishAll (tasks : TaskTable) (processId : Nat) (now : Instant) : TaskTable :=
  { tasks with
    rows := tasks.rows.mapRows
      (fun task =>
        if task.processId == processId && task.isActive then task.ended none now else task)
      (fun task => by
        split
        · rfl
        · rfl) }

def removeProcess (tasks : TaskTable) (processId : Nat) : TaskTable :=
  { tasks with rows := tasks.rows.keep (·.processId != processId) }

end TaskTable

end Casework
