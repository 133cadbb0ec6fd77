set_option autoImplicit false

namespace Casework

inductive CaseStatus where
  | inProgress
  | submitted
  | processing
  | completed
  | withdrawn
  | stopped
  | revoked
  | variationRequested
deriving DecidableEq, Repr

namespace CaseStatus

def all : List CaseStatus :=
  [.inProgress, .submitted, .processing, .completed, .withdrawn, .stopped, .revoked,
    .variationRequested]

def code : CaseStatus → String
  | .inProgress => "IN_PROGRESS"
  | .submitted => "SUBMITTED"
  | .processing => "PROCESSING"
  | .completed => "COMPLETED"
  | .withdrawn => "WITHDRAWN"
  | .stopped => "STOPPED"
  | .revoked => "REVOKED"
  | .variationRequested => "VARIATION_REQUESTED"

def label : CaseStatus → String
  | .inProgress => "In Progress"
  | .submitted => "Submitted"
  | .processing => "Processing"
  | .completed => "Completed"
  | .withdrawn => "Withdrawn"
  | .stopped => "Stopped"
  | .revoked => "Revoked"
  | .variationRequested => "Variation Requested"

def ofCode? (code : String) : Option CaseStatus := all.find? (·.code == code)

end CaseStatus

inductive Decision where
  | approve
  | refuse
deriving DecidableEq, Repr

namespace Decision

def all : List Decision := [.approve, .refuse]

def code : Decision → String
  | .approve => "APPROVE"
  | .refuse => "REFUSE"

end Decision

inductive LicenceUsage where
  | cancelled
  | exhausted
  | expired
  | surrendered
deriving DecidableEq, Repr

namespace LicenceUsage

def all : List LicenceUsage := [.cancelled, .exhausted, .expired, .surrendered]

def code : LicenceUsage → String
  | .cancelled => "C"
  | .exhausted => "E"
  | .expired => "D"
  | .surrendered => "S"

def label : LicenceUsage → String
  | .cancelled => "Cancelled"
  | .exhausted => "Exhausted"
  | .expired => "Expired"
  | .surrendered => "Surrendered"

end LicenceUsage

end Casework
