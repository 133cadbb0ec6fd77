import Casework.Workflow.Stage
import Casework.Case.FieldErrors
import Casework.Document.Pack
import Casework.Reference.Format

set_option autoImplicit false

namespace Casework

open Text (numeral)
open Reference (ReferenceError)

inductive RepositoryError where
  | conflict (id : Nat)
  | notFound (id : Nat)
  -- An earlier unit of work broke off and left the tables locked.
  | unavailable
deriving DecidableEq, Repr

def RepositoryError.message : RepositoryError → String
  | .conflict id => "application " ++ numeral id ++ " already exists"
  | .notFound id => "application " ++ numeral id ++ " not found"
  | .unavailable => "repository unavailable: case tables lock poisoned"

inductive PackError where
  | notFound (process : Nat) (status : PackStatus)
  | multiple (process : Nat) (status : PackStatus) (found : Nat)
  | reference (error : ReferenceError)
deriving DecidableEq, Repr

def PackError.message : PackError → String
  | .notFound process status =>
    "no " ++ status.shortName ++ " document pack for application " ++ numeral process
  | .multiple process status found =>
    numeral found ++ " " ++ status.shortName ++ " document packs for application " ++
      numeral process
  | .reference error => error.message

inductive ChiefError where
  | unsupported (processType : ProcessType)
  | missingLicence (process : Nat)
  | pack (error : PackError)
  | transport (reason : String)
deriving DecidableEq, Repr

def ChiefError.message : ChiefError → String
  | .unsupported processType => processType.shortName ++ " licences are not sent to CHIEF"
  | .missingLicence process =>
    "application " ++ numeral process ++ " has no licence document to send"
  | .pack error => error.message
  | .transport reason => "CHIEF transport unavailable: " ++ reason

inductive SearchError where
  | unsupportedStatus (code : String)
deriving DecidableEq, Repr

def SearchError.message : SearchError → String
  | .unsupportedStatus code => "filter (" ++ code ++ ") for case status not supported"

inductive InvalidRequest where
  | noChecklist (processType : ProcessType)
  | noLicenceDetails
  | withdrawalOpen
  | noOpenWithdrawal
  | noInformationRequest (entry : Nat)
  | informationRequestNotOpen (entry : Nat)
  | informationRequestClosed (entry : Nat)
  | updateInProgress
  | noUpdateRequest (entry : Nat)
  | updateRequestNotOpen (entry : Nat)
  | updateRequestNotClosable (entry : Nat)
  | noEmail (entry : Nat)
  | emailClosed (entry : Nat)
deriving DecidableEq, Repr

def InvalidRequest.message : InvalidRequest → String
  | .noChecklist processType => processType.label ++ " applications do not have a checklist"
  | .noLicenceDetails => "certificates do not have licence details"
  | .withdrawalOpen => "a withdrawal request is already open"
  | .noOpenWithdrawal => "no open withdrawal request"
  | .noInformationRequest entry => "no further information request with id " ++ numeral entry
  | .informationRequestNotOpen entry =>
    "further information request " ++ numeral entry ++ " is not open"
  | .informationRequestClosed entry =>
    "further information request " ++ numeral entry ++ " is already closed"
  | .updateInProgress => "an update request is already in progress"
  | .noUpdateRequest entry => "no update request with id " ++ numeral entry
  | .updateRequestNotOpen entry => "update request " ++ numeral entry ++ " is not open"
  | .updateRequestNotClosable entry => "update request " ++ numeral entry ++ " cannot be closed"
  | .noEmail entry => "no case email with id " ++ numeral entry
  | .emailClosed entry => "case email " ++ numeral entry ++ " is already closed"

inductive CaseError where
  | flow (error : FlowError)
  | repository (error : RepositoryError)
  | pack (error : PackError)
  | reference (error : ReferenceError)
  | chief (error : ChiefError)
  | search (error : SearchError)
  | validation (errors : FieldErrors)
  | invalid (request : InvalidRequest)
deriving DecidableEq, Repr

def CaseError.message : CaseError → String
  | .flow error => error.message
  | .repository error => error.message
  | .pack error => error.message
  | .reference error => error.message
  | .chief error => error.message
  | .search error => error.message
  | .validation errors => "validation failed on " ++ numeral errors.size ++ " field(s)"
  | .invalid request => request.message

def CaseError.ofField (field message : String) : CaseError :=
  .validation (FieldErrors.empty.add field message)

end Casework
