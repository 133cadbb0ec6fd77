import Casework.Case.Application
import Casework.Store.Table

set_option autoImplicit false

namespace Casework

open Calendar

inductive ChiefAction where
  | insert
  | replace
  | cancel
deriving DecidableEq, Repr

namespace ChiefAction

def all : List ChiefAction := [.insert, .replace, .cancel]

def code : ChiefAction → String
  | .insert => "insert"
  | .replace => "replace"
  | .cancel => "cancel"

end ChiefAction

inductive ChiefLicenceType where
  | openIndividual
  | deactivated
  | specificIndividual
  | sanctions
deriving DecidableEq, Repr

namespace ChiefLicenceType

def all : List ChiefLicenceType := [.openIndividual, .deactivated, .specificIndividual, .sanctions]

def code : ChiefLicenceType → String
  | .openIndividual => "OIL"
  | .deactivated => "DFL"
  | .specificIndividual => "SIL"
  | .sanctions => "SAN"

def of? : ProcessType → Option ChiefLicenceType
  | .openFirearms => some .openIndividual
  | .deactivatedFirearms => some .deactivated
  | .specificFirearms => some .specificIndividual
  | .sanctions => some .sanctions
  | _ => none

end ChiefLicenceType

structure LicencePayload where
  action : ChiefAction
  licenceType : ChiefLicenceType
  caseReference : String
  licenceReference : String
  organisation : String
  startDate : Option Date
  endDate : Option Date
deriving DecidableEq, Repr

inductive ChiefRequestStatus where
  | processing
  | success
  | error
  | internalError
deriving DecidableEq, Repr

namespace ChiefRequestStatus

def all : List ChiefRequestStatus := [.processing, .success, .error, .internalError]

def code : ChiefRequestStatus → String
  | .processing => "PROCESSING"
  | .success => "SUCCESS"
  | .error => "ERROR"
  | .internalError => "INTERNAL_ERROR"

end ChiefRequestStatus

structure ChiefResponseError where
  code : String
  message : String
deriving DecidableEq, Repr

structure ChiefRequest where
  id : Nat
  processId : Nat
  caseReference : String
  -- What was delivered; none if sending is switched off or failed.
  payload : Option LicencePayload
  sent : Instant
  answered : Option Instant
  status : ChiefRequestStatus
  errors : List ChiefResponseError
deriving DecidableEq, Repr

instance : Numbered ChiefRequest := ⟨ChiefRequest.id⟩

def ChiefRequest.completed (request : ChiefRequest) (now : Instant) : ChiefRequest :=
  { request with status := .success, answered := some now }

def ChiefRequest.failed (request : ChiefRequest) (errors : List ChiefResponseError)
    (now : Instant) : ChiefRequest :=
  { request with status := .error, answered := some now, errors := request.errors ++ errors }

end Casework
