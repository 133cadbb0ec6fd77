import Casework.Store.Work

set_option autoImplicit false

namespace Casework

open Calendar

namespace Store

def application (store : Store) (id : Nat) : Except RepositoryError Application :=
  match store.applications.find? id with
  | some application => .ok application
  | none => .error (.notFound id)

end Store

namespace Work

def findApplication (id : Nat) : Work Application :=
  ask .repository fun store => store.application id

def addApplication (application : Application) : Work Unit := do
  let taken ← read fun store => store.applications.contains application.id
  require (!taken) (.repository (.conflict application.id))
  write fun store => { store with applications := store.applications.insert application }

def save (application : Application) : Work Unit := do
  let _ ← findApplication application.id
  write fun store => { store with applications := store.applications.insert application }

def removeApplication (id : Nat) : Work Application := do
  let application ← findApplication id
  write fun store => store.removeApplication id
  pure application

def createTask (processId : Nat) (taskType : TaskType) (previous : Option Nat) : Work Unit := do
  let now ← now
  write fun store => { store with tasks := store.tasks.create processId taskType previous now }

def finishTask (id : Nat) (owner : Option Nat) : Work Unit := do
  let now ← now
  write fun store => { store with tasks := store.tasks.finish id owner now }

def finishAllTasks (processId : Nat) : Work Unit := do
  let now ← now
  write fun store => { store with tasks := store.tasks.finishAll processId now }

def currentTask (id : Nat) (expected : List CaseStatus) (taskType : TaskType) : Work Task := do
  let application ← findApplication id
  checkFlow fun store => application.standing.currentTask store.tasks expected taskType

def nextProcess : Work Nat := do
  write fun store => { store with lastProcess := store.lastProcess + 1 }
  read (·.lastProcess)

def nextPack : Work Nat := do
  write fun store => { store with lastPack := store.lastPack + 1 }
  read (·.lastPack)

def nextDocument : Work Nat := do
  write fun store => { store with lastDocument := store.lastDocument + 1 }
  read (·.lastDocument)

def nextRequest : Work Nat := do
  write fun store => { store with lastRequest := store.lastRequest + 1 }
  read (·.lastRequest)

def nextRecord : Work Nat := do
  write fun store => { store with lastRecord := store.lastRecord + 1 }
  read (·.lastRecord)

def draw (series : String) (year : Option Int) : Work Nat := do
  write fun store => { store with sequences := store.sequences.advance series year }
  read fun store => store.sequences series year

def drawYearly (reading : Nat) (series : String) : Work String := do
  let context ← context
  let number ← draw series (some (context.year reading))
  pure (Reference.yearly series (context.year reading) number)

def drawCaseReference (processType : ProcessType) : Work String :=
  drawYearly 0 (Reference.caseSeries processType)

def drawCertificateReference (wrap : Reference.ReferenceError → CaseError)
    (processType : ProcessType) (reading : Nat := 0) : Work String := do
  let series ← ofExcept wrap (Reference.certificateSeries processType)
  drawYearly reading series

def withLicenceNumber (application : Application) : Work (Nat × Application) :=
  match application.licenceNumber with
  | some number => pure (number, application)
  | none => do
    let number ← draw Reference.licenceSeries none
    pure (number, { application with licenceNumber := some number })

def licenceReference (wrap : Reference.ReferenceError → CaseError) (application : Application)
    (paperOnly : Option Bool) : Work (String × Application) := do
  let (number, numbered) ← withLicenceNumber application
  let reference ← ofExcept wrap
    (Reference.licence (paperOnly.getD false) application.processType number)
  pure (reference, numbered)

end Work

end Casework
