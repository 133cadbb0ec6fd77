import Casework.Operation.ChiefReply

set_option autoImplicit false

namespace Casework

structure CaseView where
  application : Application
  activeTasks : List TaskType
  draft : Option Pack
  issued : List Pack
  -- The documents of the draft.
  documents : List Document
deriving DecidableEq, Repr

def CaseView.of (store : Store) (application : Application) : CaseView :=
  let draft := (store.draftPack application.id).toOption
  { application
    activeTasks := store.tasks.activeTypes application.id
    draft
    issued := store.issuedPacks application.id
    documents := (draft.map fun pack => store.documentsOf pack.id).getD [] }

namespace Work

def view (caseType : CaseType) (id : Nat) : Work CaseView := do
  let application ← load caseType id
  read fun store => .of store application

def pendingLicences : Work (List Application) := do
  enter
  read fun store => store.withActiveTask .chiefWait

def failedLicences : Work (List Application) := do
  enter
  read fun store => store.withActiveTask .chiefError

end Work

end Casework
