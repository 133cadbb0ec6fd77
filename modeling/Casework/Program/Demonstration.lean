import Casework.Operation.Basic

set_option autoImplicit false

namespace Casework.Program

open Calendar

abbrev Session (α : Type) := ReaderT Setting (StateT System (Except CaseError)) α

def Session.of {α : Type} (work : Work α) : Session α := fun setting system =>
  match system.run setting work with
  | (.ok value, after) => .ok (value, after)
  | (.error error, _) => .error error

namespace Demonstration

inductive Goal where
  | draft
  | submitted
  | owned
  | issued
deriving DecidableEq, Repr

structure Sample where
  processType : ProcessType
  goods : Goods
  goal : Goal
deriving DecidableEq, Repr

def applicant : User := ⟨1, "Imogen", "Porter", "imogen.porter@example.com"⟩

def caseworker : User := ⟨2, "Casey", "Worker", "casey.worker@example.com"⟩

def samples (year : Int) : List Sample :=
  [⟨.wood, .wood ⟨some year, some "4403211000"⟩, .issued⟩,
    ⟨.openFirearms, .firearms ⟨some "Any Country", some "Any Country", some .chapter93⟩, .issued⟩,
    ⟨.specificFirearms, .firearms ⟨some "Norway", some "Belgium", some .chapter97⟩, .owned⟩,
    ⟨.freeSale, .certified ⟨["Japan", "Brazil"], ["United Kingdom"], []⟩, .issued⟩,
    ⟨.goodManufacturing, .certified ⟨["China"], [], ["Aurora"]⟩, .submitted⟩,
    ⟨.manufacture, .certified ⟨["Canada"], [], []⟩, .draft⟩]

namespace Sample

def application (sample : Sample) : NewApplication :=
  { processType := sample.processType
    contact := applicant
    organisation := "Northwind Trading Ltd"
    agent := match sample.processType.caseType with
      | .importing => some "Harbour Customs Agents"
      | .exporting => none
    applicantReference := some "NW-2024"
    goods := some sample.goods }

def checklist : Checklist :=
  { caseUpdate := some .no, informationRequired := some .notApplicable
    validityPeriodCorrect := some .yes, endorsementsListed := some .yes
    responsePrepared := true, authorised := true }

def validDays : Nat := 180

def issue (caseType : CaseType) (id : Nat) : Session Application := do
  let _ ← Session.of (Work.completeChecklist caseType id checklist)
  if caseType = .importing then do
    let now := (← read).now
    let _ ← Session.of (Work.editLicence caseType id ⟨none, now.date.addDays? validDays, none⟩)
  let _ ← Session.of (Work.decide caseType id ⟨.approve, none⟩)
  let _ ← Session.of (Work.startAuthorisation caseType id caseworker)
  let _ ← Session.of (Work.authoriseDocuments caseType id caseworker)
  let signed ← Session.of (Work.documentsSigned caseType id)
  -- Electronic licences are complete only once CHIEF has taken them.
  if signed.status ≠ .completed then
    Session.of (Work.approveLicence id)
  Session.of (Work.load caseType id)

def perform (sample : Sample) : Session Application := do
  let caseType := sample.processType.caseType
  let created ← Session.of (Work.create sample.application)
  if sample.goal = .draft then return created
  let submitted ← Session.of (Work.submit caseType created.id applicant)
  if sample.goal = .submitted then return submitted
  let owned ← Session.of (Work.takeOwnership caseType created.id caseworker)
  if sample.goal = .owned then return owned
  issue caseType created.id

end Sample

def seed : Session (List Application) := do
  let now := (← read).now
  (samples now.date.year).mapM Sample.perform

end Demonstration

end Casework.Program
