import Casework.Case.Application
import Casework.Case.Error

set_option autoImplicit false

namespace Casework

open Calendar

inductive LicenceMedium where
  | paper
  | electronic
deriving DecidableEq, Repr

namespace LicenceMedium

def all : List LicenceMedium := [.paper, .electronic]

def code : LicenceMedium → String
  | .paper => "paper"
  | .electronic => "electronic"

end LicenceMedium

structure SearchTerms where
  caseType : CaseType
  typeCode : Option String := none
  status : Option String := none
  reference : Option String := none
  documentReference : Option String := none
  decision : Option Decision := none
  submittedFrom : Option Date := none
  submittedTo : Option Date := none
  forReassignment : Bool := false
  owner : Option Nat := none
  contact : Option String := none
  awaitsInformation : Bool := false
  awaitsUpdate : Bool := false
  subType : Option String := none
  applicantReference : Option String := none
  importer : Option String := none
  medium : Option LicenceMedium := none
  usage : Option LicenceUsage := none
  origins : List String := []
  consignments : List String := []
  shippingYear : Option Int := none
  goodsCategory : Option String := none
  commodityCode : Option String := none
  underAppeal : Option Bool := none
  licenceFrom : Option Date := none
  licenceTo : Option Date := none
  issuedFrom : Option Date := none
  issuedTo : Option Date := none
  exporter : Option String := none
  closedFrom : Option Date := none
  closedTo : Option Date := none
  certificateCountries : List String := []
  manufactureCountries : List String := []
deriving DecidableEq, Repr

inductive StatusFilter where
  | exactly (status : CaseStatus)
  | informationRequested
  | updateRequested
  | withEnergyDepartment
  | withSafetyExecutive
deriving DecidableEq, Repr

namespace StatusFilter

def code : StatusFilter → String
  | .exactly status => status.code
  | .informationRequested => "FIR_REQUESTED"
  | .updateRequested => "UPDATE_REQUESTED"
  | .withEnergyDepartment => "BEIS"
  | .withSafetyExecutive => "HSE"

def label : StatusFilter → String
  | .exactly status => status.label
  | .informationRequested => "Processing (FIR)"
  | .updateRequested => "Processing (Update)"
  | .withEnergyDepartment => "Processing (BEIS)"
  | .withSafetyExecutive => "Processing (HSE)"

def choices : CaseType → List StatusFilter
  | .importing =>
    [.exactly .completed, .exactly .processing, .informationRequested, .updateRequested,
      .exactly .revoked, .exactly .stopped, .exactly .submitted, .exactly .variationRequested,
      .exactly .withdrawn]
  | .exporting =>
    [.exactly .completed, .exactly .inProgress, .exactly .processing, .withEnergyDepartment,
      .informationRequested, .withSafetyExecutive, .updateRequested, .exactly .revoked,
      .exactly .stopped, .exactly .submitted, .exactly .variationRequested, .exactly .withdrawn]

def ofCode (caseType : CaseType) (code : String) : Except SearchError StatusFilter :=
  match (choices caseType).find? (·.code == code) with
  | some filter => .ok filter
  | none => .error (.unsupportedStatus code)

def admits (filter : StatusFilter) (application : Application) : Bool :=
  match filter with
  | .exactly status => application.status == status
  | .informationRequested => application.hasOpenInformationRequests
  | .updateRequested => application.hasOpenUpdateRequests
  | .withEnergyDepartment =>
    application.processType == .goodManufacturing && application.hasOpenEmails
  | .withSafetyExecutive => application.processType == .freeSale && application.hasOpenEmails

end StatusFilter

def filledIn (text : Option String) : Option String := text.filter (!·.isEmpty)

def SearchTerms.statusFilter (terms : SearchTerms) : Except SearchError (Option StatusFilter) :=
  match filledIn terms.status with
  | none => .ok none
  | some code => (StatusFilter.ofCode terms.caseType code).map some

end Casework
