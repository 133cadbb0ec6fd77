import Casework.Search.Row
import Casework.Csv
import Casework.Store.Work

set_option autoImplicit false

namespace Casework

open Calendar

structure Listing where
  ordered : Instant
  id : Nat
deriving DecidableEq, Repr

def Listing.isBefore (listing other : Listing) : Bool :=
  other.ordered < listing.ordered ||
    (other.ordered ≤ listing.ordered && other.id ≤ listing.id)

def newestFirst {α : Type} (listing : α → Listing) (items : List α) : List α :=
  items.mergeSort fun item other => (listing item).isBefore (listing other)

def Application.listing (application : Application) : Listing :=
  ⟨application.searchedAt, application.id⟩

def ResultRow.listing : ResultRow → Listing
  | .imported row => ⟨row.ordered, row.id⟩
  | .exported row => ⟨row.ordered, row.id⟩

def SearchTerms.found (terms : SearchTerms) (store : Store) :
    Except SearchError (List Application) := do
  let status ← terms.statusFilter
  pure (newestFirst Application.listing
    (store.applications.rows.filter (terms.admits status store)))

def Store.findings (store : Store) (processType : ProcessType) (ids : List Nat) : List Finding :=
  ((ids.filterMap store.applications.find?).filter (·.processType == processType)).map
    (Finding.of store)

structure SearchResults where
  total : Nat
  rows : List ResultRow
deriving DecidableEq, Repr

-- Rows for applications. They are looked up one process type after the other, so the rows have to
-- be put in order again.
def SearchTerms.rows (terms : SearchTerms) (store : Store) (today : Date)
    (applications : List Application) : List ResultRow :=
  newestFirst ResultRow.listing
    ((ProcessType.all.flatMap fun processType =>
        store.findings processType
          ((applications.filter (·.processType == processType)).map (·.id))).map
      (·.row store terms.caseType today))

def SearchTerms.results (terms : SearchTerms) (store : Store) (today : Date) (limit : Nat) :
    Except SearchError SearchResults := do
  let found ← terms.found store
  pure { total := found.length, rows := terms.rows store today (found.take limit) }

namespace Spreadsheet

def importHeaders : List String :=
  ["Case Reference", "Applicant's Reference", "Licence Reference", "Licence Type",
    "Licence Start Date", "Licence End Date", "Application Type", "Application Sub-Type",
    "Case Status", "Chief Usage Status", "Submitted Date", "Importer", "Agent",
    "Application Contact", "Country of Origin", "Country of Consignment", "Shipping Year",
    "Goods Category", "Commodity Code(s)"]

def exportHeaders : List String :=
  ["Case Reference", "Certificates", "Application Type", "Status", "Submitted Date",
    "Certificate Countries", "Countries of Manufacture", "Exporter", "Agent",
    "Application Contact"]

def joined (values : List String) : String := ", ".intercalate values

structure ImportLine where
  reference : String
  applicantReference : Option String
  licenceReference : Option String
  medium : String
  startDate : Option String
  endDate : Option String
  typeLabel : String
  subTypeLabel : String
  status : String
  usage : Option String
  submitted : String
  organisation : String
  agent : Option String
  contact : String
  origin : String
  consignment : Option String
  shippingYear : Option Int
  category : Option String
  commodityCodes : Option String
deriving DecidableEq, Repr

structure ExportLine where
  reference : String
  certificates : String
  typeLabel : String
  status : String
  submitted : String
  certificateCountries : String
  manufacturerCountries : String
  exporter : String
  agent : String
  contact : String
deriving DecidableEq, Repr

def importLine (row : ImportRow) : ImportLine :=
  { reference := row.summary.reference
    applicantReference := row.summary.applicantReference
    licenceReference := row.summary.licenceReference
    medium := row.summary.medium
    startDate := row.summary.startDate
    endDate := row.summary.endDate
    typeLabel := row.summary.typeLabel
    subTypeLabel := row.summary.subTypeLabel
    status := row.summary.status
    usage := row.summary.usage
    submitted := row.submitted
    organisation := row.applicant.organisation
    agent := row.applicant.agent
    contact := row.applicant.contact
    origin := row.commodity.origin
    consignment := row.commodity.consignment
    shippingYear := row.commodity.shippingYear
    category := row.commodity.category
    commodityCodes := (row.commodity.codes.filter (!·.isEmpty)).map joined }

def exportLine (row : ExportRow) : ExportLine :=
  { reference := row.reference
    certificates := joined row.certificates
    typeLabel := row.typeLabel
    status := row.status
    submitted := row.submitted
    certificateCountries := joined row.origins
    manufacturerCountries := joined row.manufacturers
    exporter := row.organisation
    agent := row.agent.getD ""
    contact := row.contact }

-- An absent value leaves its cell empty.
def ImportLine.cells (line : ImportLine) : List String :=
  [line.reference, line.applicantReference.getD "", line.licenceReference.getD "", line.medium,
    line.startDate.getD "", line.endDate.getD "", line.typeLabel, line.subTypeLabel, line.status,
    line.usage.getD "", line.submitted, line.organisation, line.agent.getD "", line.contact,
    line.origin, line.consignment.getD "", (line.shippingYear.map Text.signedNumeral).getD "",
    line.category.getD "", line.commodityCodes.getD ""]

def ExportLine.cells (line : ExportLine) : List String :=
  [line.reference, line.certificates, line.typeLabel, line.status, line.submitted,
    line.certificateCountries, line.manufacturerCountries, line.exporter, line.agent, line.contact]

def headers : CaseType → List String
  | .importing => importHeaders
  | .exporting => exportHeaders

def cells? : CaseType → ResultRow → Option (List String)
  | .importing, .imported row => some (importLine row).cells
  | .exporting, .exported row => some (exportLine row).cells
  | _, _ => none

def records (caseType : CaseType) (results : SearchResults) : List (List String) :=
  headers caseType :: results.rows.filterMap (cells? caseType)

def text (caseType : CaseType) (results : SearchResults) : String :=
  String.ofList (Csv.written ((records caseType results).map (·.map String.toList)))

end Spreadsheet

namespace Work

def search (terms : SearchTerms) (limit : Option Nat) : Work SearchResults := do
  enter
  let context ← context
  ask .search fun store =>
    terms.results store context.now.date (limit.getD context.searchLimit)

def spreadsheet (terms : SearchTerms) : Work String := do
  enter
  let stored ← read (·.applications.rows.length)
  let results ← search terms (some stored)
  pure (Spreadsheet.text terms.caseType results)

end Work

end Casework
