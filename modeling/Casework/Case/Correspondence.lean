import Casework.Calendar.Instant

set_option autoImplicit false

namespace Casework

open Calendar

inductive CorrespondenceStatus where
  | draft
  | opened
  | responded
  | closed
  | deleted
deriving DecidableEq, Repr

namespace CorrespondenceStatus

def all : List CorrespondenceStatus := [.draft, .opened, .responded, .closed, .deleted]

def code : CorrespondenceStatus → String
  | .draft => "DRAFT"
  | .opened => "OPEN"
  | .responded => "RESPONDED"
  | .closed => "CLOSED"
  | .deleted => "DELETED"

end CorrespondenceStatus

inductive UpdateStatus where
  | draft
  | opened
  | inProgress
  | responded
  | closed
  | deleted
deriving DecidableEq, Repr

namespace UpdateStatus

def all : List UpdateStatus := [.draft, .opened, .inProgress, .responded, .closed, .deleted]

def code : UpdateStatus → String
  | .draft => "DRAFT"
  | .opened => "OPEN"
  | .inProgress => "UPDATE_IN_PROGRESS"
  | .responded => "RESPONDED"
  | .closed => "CLOSED"
  | .deleted => "DELETED"

def isCurrent : UpdateStatus → Bool
  | .opened | .inProgress | .responded => true
  | _ => false

end UpdateStatus

inductive VariationStatus where
  | draft
  | opened
  | accepted
  | rejected
  | withdrawn
  | cancelled
  | closed
deriving DecidableEq, Repr

namespace VariationStatus

def all : List VariationStatus :=
  [.draft, .opened, .accepted, .rejected, .withdrawn, .cancelled, .closed]

def code : VariationStatus → String
  | .draft => "DRAFT"
  | .opened => "OPEN"
  | .accepted => "ACCEPTED"
  | .rejected => "REJECTED"
  | .withdrawn => "WITHDRAWN"
  | .cancelled => "CANCELLED"
  | .closed => "CLOSED"

end VariationStatus

inductive WithdrawalStatus where
  | opened
  | accepted
  | rejected
  | deleted
deriving DecidableEq, Repr

namespace WithdrawalStatus

def all : List WithdrawalStatus := [.opened, .accepted, .rejected, .deleted]

def code : WithdrawalStatus → String
  | .opened => "OPEN"
  | .accepted => "ACCEPTED"
  | .rejected => "REJECTED"
  | .deleted => "DELETED"

end WithdrawalStatus

structure InformationRequest where
  id : Nat
  status : CorrespondenceStatus
  subject : String
deriving DecidableEq, Repr

def InformationRequest.isOpen (request : InformationRequest) : Bool := request.status == .opened

structure UpdateRequest where
  id : Nat
  status : UpdateStatus
  subject : String
deriving DecidableEq, Repr

def UpdateRequest.isOpen (request : UpdateRequest) : Bool := request.status == .opened

structure CaseEmail where
  id : Nat
  status : CorrespondenceStatus
  recipient : String
deriving DecidableEq, Repr

def CaseEmail.isOpen (email : CaseEmail) : Bool := email.status == .opened

structure VariationRequest where
  id : Nat
  status : VariationStatus
  whatVaried : String
  requestedBy : Nat
  requestedAt : Instant
  closedAt : Option Instant
  rejectionReason : Option String
deriving DecidableEq, Repr

def VariationRequest.isOpen (variation : VariationRequest) : Bool := variation.status == .opened

structure Withdrawal where
  id : Nat
  status : WithdrawalStatus
  reason : String
  requestedBy : Nat
  answeredBy : Option Nat
  answer : Option String
deriving DecidableEq, Repr

def Withdrawal.isOpen (withdrawal : Withdrawal) : Bool := withdrawal.status == .opened

inductive ChecklistAnswer where
  | yes
  | no
  | notApplicable
deriving DecidableEq, Repr

namespace ChecklistAnswer

def all : List ChecklistAnswer := [.yes, .no, .notApplicable]

def code : ChecklistAnswer → String
  | .yes => "yes"
  | .no => "no"
  | .notApplicable => "not_applicable"

end ChecklistAnswer

structure Checklist where
  caseUpdate : Option ChecklistAnswer
  informationRequired : Option ChecklistAnswer
  validityPeriodCorrect : Option ChecklistAnswer
  endorsementsListed : Option ChecklistAnswer
  responsePrepared : Bool
  authorised : Bool
deriving DecidableEq, Repr

def Checklist.isComplete (checklist : Checklist) : Bool :=
  checklist.caseUpdate.isSome && checklist.informationRequired.isSome &&
    checklist.validityPeriodCorrect.isSome && checklist.endorsementsListed.isSome &&
    checklist.responsePrepared && checklist.authorised

end Casework
