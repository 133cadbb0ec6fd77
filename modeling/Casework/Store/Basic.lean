import Casework.Workflow.Task
import Casework.Document.Pack
import Casework.Chief.Request

set_option autoImplicit false

namespace Casework

-- The last number drawn from each sequence. A sequence may start again every year.
def Sequences := String → Option Int → Nat

def Sequences.unused : Sequences := fun _ _ => 0

def Sequences.advance (sequences : Sequences) (series : String) (year : Option Int) : Sequences :=
  fun other period =>
    if other = series ∧ period = year then sequences series year + 1 else sequences other period

structure Store where
  applications : Table Application
  tasks : TaskTable
  packs : Table Pack
  documents : Table Document
  requests : Table ChiefRequest
  sequences : Sequences
  lastProcess : Nat
  lastPack : Nat
  lastDocument : Nat
  lastRequest : Nat
  lastRecord : Nat

namespace Store

def empty : Store :=
  { applications := .empty, tasks := .empty, packs := .empty, documents := .empty
    requests := .empty, sequences := .unused, lastProcess := 0, lastPack := 0
    lastDocument := 0, lastRequest := 0, lastRecord := 0 }

def packsOf (store : Store) (processId : Nat) : List Pack :=
  store.packs.rows.filter (·.processId == processId)

def documentsOf (store : Store) (packId : Nat) : List Document :=
  store.documents.rows.filter (·.packId == packId)

def requestsOf (store : Store) (processId : Nat) : List ChiefRequest :=
  store.requests.rows.filter (·.processId == processId)

def removeApplication (store : Store) (id : Nat) : Store :=
  let packIds := (store.packsOf id).map (·.id)
  { store with
    applications := store.applications.erase id
    tasks := store.tasks.removeProcess id
    packs := store.packs.keep fun pack => !packIds.contains pack.id
    documents := store.documents.keep fun document => !packIds.contains document.packId }

def licenceOf (store : Store) (packId : Nat) : Option Document :=
  (store.documentsOf packId).find? (·.documentType == .licence)

def latestPack (store : Store) (processId : Nat) : Option Pack :=
  ((store.packsOf processId).filter (·.status.isVisible)).foldl
    (fun latest pack =>
      match latest with
      | none => some pack
      | some best => if best.isNoNewerThan pack then some pack else some best)
    none

def issuedPacks (store : Store) (processId : Nat) : List Pack :=
  let issued := (store.packsOf processId).filter fun pack =>
    pack.status != .draft && pack.completed.isSome
  issued.mergeSort fun first second =>
    match first.completed, second.completed with
    | some first, some second => second ≤ first
    | _, _ => true

end Store

end Casework
