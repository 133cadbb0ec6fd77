import Casework.Search.Filter
import Casework.Document.Issue

set_option autoImplicit false

namespace Casework

open Calendar
open Text (numeral)

structure SearchAction where
  url : String
  name : String
  label : String
  icon : String
  isPost : Bool
deriving DecidableEq, Repr

structure CaseSummary where
  reference : String
  typeLabel : String
  subTypeLabel : String
  status : String
  medium : String
  startDate : Option String
  endDate : Option String
  usage : Option String
  applicantReference : Option String
  licenceReference : Option String
  validity : Option String
deriving DecidableEq, Repr

structure ApplicantSummary where
  organisation : String
  contact : String
  agent : Option String
deriving DecidableEq, Repr

structure CommoditySummary where
  origin : String := ""
  consignment : Option String := none
  category : Option String := none
  shippingYear : Option Int := none
  codes : Option (List String) := none
deriving DecidableEq, Repr

structure AssigneeSummary where
  title : String
  ownedSince : String
  name : String
  reassignedAt : Option String
deriving DecidableEq, Repr

structure ImportRow where
  id : Nat
  actions : List SearchAction
  submitted : String
  summary : CaseSummary
  applicant : ApplicantSummary
  commodity : CommoditySummary
  assignee : AssigneeSummary
  ordered : Instant
deriving DecidableEq, Repr

structure ExportRow where
  id : Nat
  actions : List SearchAction
  reference : String
  typeLabel : String
  status : String
  certificates : List String
  submitted : String
  ordered : Instant
  origins : List String
  organisation : String
  contact : String
  manufacturers : List String
  assignee : AssigneeSummary
  agent : Option String
deriving DecidableEq, Repr

inductive ResultRow where
  | imported (row : ImportRow)
  | exported (row : ExportRow)
deriving DecidableEq, Repr

structure Finding where
  application : Application
  pack : Option Pack
  documents : List Document

namespace Finding

def of (store : Store) (application : Application) : Finding :=
  let pack := store.latestPack application.id
  ⟨application, pack, (pack.map fun pack => store.documentsOf pack.id).getD []⟩

def licenceReference (finding : Finding) : Option String :=
  (finding.documents.find? (·.documentType == .licence)).bind (·.reference)

def certificateReferences (finding : Finding) : List String :=
  Work.inOrder
    ((finding.documents.filter (·.documentType == .certificate)).filterMap (·.reference))

def caseUrl (finding : Finding) (caseType : CaseType) (action : String) : String :=
  "/api/v1/case/" ++ caseType.code ++ "/" ++ numeral finding.application.id ++ "/" ++ action

def reopening (finding : Finding) (caseType : CaseType) : SearchAction :=
  ⟨finding.caseUrl caseType "reopen", "reopen-case", "Reopen Case", "icon-redo2", true⟩

def elsewhere (name label icon : String) : SearchAction := ⟨"#", name, label, icon, true⟩

def isInForce (finding : Finding) (today : Date) : Bool :=
  (finding.pack.bind (·.endDate)).any (today < ·)

def importActions (finding : Finding) (today : Date) : List SearchAction :=
  match finding.application.status with
  | .completed =>
    [⟨finding.caseUrl .importing "request-variation", "request-variation", "Request Variation",
        "icon-redo2", false⟩] ++
      (if finding.application.decision = some .refuse then
        [elsewhere "manage-appeals" "Manage Appeals" "icon-warning"] else []) ++
      (if finding.isInForce today then
        [⟨finding.caseUrl .importing "revoke", "revoke-licence", "Revoke Licence", "icon-undo2",
            true⟩] else [])
  | .stopped | .withdrawn => [finding.reopening .importing]
  | _ => []

def copying : List SearchAction :=
  [elsewhere "copy-application" "Copy Application" "icon-copy",
    elsewhere "create-template" "Create Template" "icon-magic-wand"]

def exportActions (finding : Finding) : List SearchAction :=
  match finding.application.status with
  | .completed =>
    [elsewhere "open-variation" "Open Variation" "icon-redo2",
      ⟨finding.caseUrl .exporting "revoke", "revoke-certificates", "Revoke Certificates",
        "icon-undo2", true⟩] ++ copying
  | .stopped | .withdrawn => [finding.reopening .exporting]
  | _ => copying

end Finding

def Application.searchedAt (application : Application) : Instant :=
  application.submitted.getD application.created

def Application.submittedText (application : Application) : String :=
  (application.submitted.map (·.longText)).getD ""

def countryName (country : Option String) : String := country.getD ""

namespace Application

def codedSummary (application : Application) (goods : CodedGoods) : CommoditySummary :=
  { origin := countryName goods.origin
    consignment := some (countryName goods.consignment)
    shippingYear := application.submitted.map (·.date.year)
    codes := some goods.commodityCode.toList }

def quotaSummary (goods : QuotaGoods) : CommoditySummary :=
  { origin := countryName goods.origin
    consignment := some (countryName goods.consignment)
    category := goods.group.map (·.code)
    shippingYear := goods.shippingYear
    codes := some goods.commodityCode.toList }

-- The goods of an application; a quota names its own year, and other goods that of submission.
def commoditySummary (application : Application) : CommoditySummary :=
  match application.goods with
  | .derogations goods | .priorSurveillance goods => application.codedSummary goods
  | .firearms goods =>
    { origin := countryName goods.origin
      consignment := some (countryName goods.consignment)
      category := goods.commodity.map (·.label) }
  | .ironSteel goods | .textiles goods => quotaSummary goods
  | .outwardProcessing goods =>
    { origin := countryName goods.origin
      consignment := some (countryName goods.processing)
      category := goods.category
      shippingYear := application.submitted.map (·.date.year)
      codes := some (Work.inOrder (goods.productCodes ++ goods.exportCodes)) }
  | .sanctions goods =>
    { origin := countryName goods.origin
      consignment := some (countryName goods.consignment)
      shippingYear := application.submitted.map (·.date.year)
      codes := some (Work.inOrder (goods.goods.map (·.commodityCode))) }
  | .wood goods =>
    { origin := "None", shippingYear := goods.shippingYear
      codes := some goods.commodityCode.toList }
  | .certified _ => {}

end Application

def Store.latestTask (store : Store) (processId : Nat) : Option Task :=
  (store.tasks.active processId).foldl
    (fun latest task =>
      match latest with
      | none => some task
      | some best =>
        -- Of tasks created at one instant the one with the highest number counts.
        if best.created < task.created || (best.created ≤ task.created && best.id ≤ task.id)
        then some task else some best)
    none

def TaskType.assignment : TaskType → String
  | .authorise => "Authorise Documents / Authoriser"
  | .prepare => "Prepare Application / Applicant"
  | .chiefWait | .chiefRevokeWait => "Awaiting CHIEF Response"
  | .chiefError | .documentError => "Error Resolution / Case Officer"
  | _ => "Application Processing / Case Officer"

def User.signature (user : User) : String := user.fullName ++ " (" ++ user.email ++ ")"

def AssigneeSummary.of (store : Store) (application : Application) : AssigneeSummary :=
  let task := store.latestTask application.id
  { title := (task.map (·.taskType.assignment)).getD ""
    ownedSince := (task.map (·.created.minuteText)).getD ""
    name := (application.owner.map User.signature).getD ""
    reassignedAt := none }

def validity (startDate endDate : Option String) : Option String :=
  match startDate, endDate with
  | some startDate, some endDate => some (startDate ++ " - " ++ endDate)
  | some startDate, none => some startDate
  | none, other => other

namespace Finding

def summary (finding : Finding) : CaseSummary :=
  let application := finding.application
  let startDate := (finding.pack.bind (·.startDate)).map (·.longText " ")
  let endDate := (finding.pack.bind (·.endDate)).map (·.longText " ")
  { reference := application.shownReference
    typeLabel := application.terms.typeLabel
    subTypeLabel :=
      if application.processType.isFirearms then application.terms.subTypeLabel.getD "" else ""
    status := application.status.label
    medium := if (finding.pack.bind (·.paperOnly)).getD false then "Paper" else "Electronic"
    startDate, endDate
    usage := application.usage.map (·.label)
    applicantReference := application.applicantReference
    licenceReference := finding.licenceReference
    validity := validity startDate endDate }

def importRow (finding : Finding) (store : Store) (today : Date) : ImportRow :=
  let application := finding.application
  { id := application.id
    actions := finding.importActions today
    submitted := application.submittedText
    summary := finding.summary
    applicant := ⟨application.organisation, application.contact.fullName, application.agent⟩
    commodity := application.commoditySummary
    assignee := .of store application
    ordered := application.searchedAt }

def exportRow (finding : Finding) (store : Store) : ExportRow :=
  let application := finding.application
  { id := application.id
    actions := finding.exportActions
    reference := application.shownReference
    typeLabel := application.processType.label
    status := application.status.label
    certificates := finding.certificateReferences
    submitted := application.submittedText
    ordered := application.searchedAt
    origins := application.goods.certificateCountries
    organisation := application.organisation
    contact := application.contact.fullName
    manufacturers :=
      if application.processType = .freeSale then application.goods.manufacturerCountries else []
    assignee := .of store application
    agent := application.agent }

def row (finding : Finding) (store : Store) (caseType : CaseType) (today : Date) : ResultRow :=
  match caseType with
  | .importing => .imported (finding.importRow store today)
  | .exporting => .exported (finding.exportRow store)

end Finding

end Casework
