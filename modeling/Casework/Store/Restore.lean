import Casework.Document.Issue

set_option autoImplicit false

namespace Casework

open Calendar

structure TaskRecord where
  processId : Nat
  taskType : TaskType
  previous : Option Nat
  -- When the task was created, if not now.
  created : Option Instant
  isEnded : Bool
deriving DecidableEq, Repr

structure Records where
  applications : List Application
  packs : List Pack
  documents : List Document
  requests : List ChiefRequest
  tasks : List TaskRecord
deriving DecidableEq, Repr

namespace Work

def restoreApplications : List Application → Work Unit
  | [] => pure ()
  | application :: applications => do
    addApplication application
    restoreApplications applications

def restoreTasks : List TaskRecord → Work Unit
  | [] => pure ()
  | task :: tasks => fun context desk =>
    let moved := { context with now := task.created.getD context.now }
    let restoring : Work Unit := do
      createTask task.processId task.taskType task.previous
      if task.isEnded then do
        let id ← read (·.tasks.lastId)
        finishTask id none
      restoreTasks tasks
    restoring moved desk

-- Adds records as they are. The counters of new numbers do not move, except those of tasks.
def restore (records : Records) : Work Unit := do
  enter
  restoreApplications records.applications
  write fun store =>
    { store with
      packs := records.packs.foldl Table.insert store.packs
      documents := records.documents.foldl Table.insert store.documents
      requests := records.requests.foldl Table.insert store.requests }
  restoreTasks records.tasks

end Work

end Casework
