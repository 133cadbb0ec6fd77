import Casework.Case.LicensingTerms
import Casework.Case.Status
import Casework.Case.Goods
import Casework.Case.Correspondence

set_option autoImplicit false

namespace Casework

open Calendar

structure User where
  id : Nat
  firstName : String
  lastName : String
  email : String
deriving DecidableEq, Repr

def User.fullName (user : User) : String := user.firstName ++ " " ++ user.lastName

structure NewApplication where
  processType : ProcessType
  contact : User
  organisation : String
  agent : Option String
  applicantReference : Option String
  goods : Option Goods
deriving DecidableEq, Repr

structure Application where
  id : Nat
  processType : ProcessType
  isActive : Bool
  status : CaseStatus
  reference : Option String
  applicantReference : Option String
  decision : Option Decision
  refuseReason : Option String
  variationDecision : Option Decision
  variationRefuseReason : Option String
  owner : Option User
  created : Instant
  submitted : Option Instant
  submittedBy : Option Nat
  ordered : Instant
  contact : User
  organisation : String
  agent : Option String
  usage : Option LicenceUsage
  licenceNumber : Option Nat
  checklist : Option Checklist
  variations : List VariationRequest
  informationRequests : List InformationRequest
  updateRequests : List UpdateRequest
  emails : List CaseEmail
  withdrawals : List Withdrawal
  goods : Goods
deriving DecidableEq, Repr

namespace Application

def caseType (application : Application) : CaseType := application.processType.caseType

def isImport (application : Application) : Bool := application.caseType == .importing

def terms (application : Application) : LicensingTerms := application.processType.terms

def shownReference (application : Application) : String :=
  application.reference.getD "Not Assigned"

def currentUpdateRequests (application : Application) : List UpdateRequest :=
  application.updateRequests.filter (·.status.isCurrent)

def hasOpenInformationRequests (application : Application) : Bool :=
  application.informationRequests.any (·.isOpen)

def hasOpenUpdateRequests (application : Application) : Bool :=
  application.updateRequests.any (·.isOpen)

def hasOpenEmails (application : Application) : Bool :=
  application.emails.any (·.isOpen)

end Application

def changeFirst {α : Type} (wanted : α → Bool) (change : α → α) : List α → List α
  | [] => []
  | entry :: entries =>
    if wanted entry then change entry :: entries else entry :: changeFirst wanted change entries

def Application.closeOpenVariation (application : Application) (status : VariationStatus)
    (now : Instant) : Application :=
  { application with
    variations := changeFirst VariationRequest.isOpen
      (fun variation => { variation with status, closedAt := some now }) application.variations }

end Casework
