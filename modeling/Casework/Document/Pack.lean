import Casework.Case.Application
import Casework.Store.Table

set_option autoImplicit false

namespace Casework

open Calendar

inductive PackStatus where
  | draft
  | active
  | archived
  | revoked
deriving DecidableEq, Repr

namespace PackStatus

def all : List PackStatus := [.draft, .active, .archived, .revoked]

def code : PackStatus → String
  | .draft => "DR"
  | .active => "AC"
  | .archived => "AR"
  | .revoked => "RE"

def recordName : PackStatus → String
  | .draft => "DRAFT"
  | .active => "ACTIVE"
  | .archived => "ARCHIVED"
  | .revoked => "REVOKED"

def shortName : PackStatus → String
  | .draft => "Draft"
  | .active => "Active"
  | .archived => "Archived"
  | .revoked => "Revoked"

def isVisible : PackStatus → Bool
  | .archived => false
  | _ => true

end PackStatus

structure Pack where
  id : Nat
  processId : Nat
  status : PackStatus
  created : Instant
  caseReference : Option String
  completed : Option Instant
  paperOnly : Option Bool
  startDate : Option Date
  endDate : Option Date
  revokeReason : Option String
  revokeEmailSent : Bool
deriving DecidableEq, Repr

instance : Numbered Pack := ⟨Pack.id⟩

inductive DocumentType where
  | licence
  | certificate
  | coverLetter
deriving DecidableEq, Repr

namespace DocumentType

def all : List DocumentType := [.licence, .certificate, .coverLetter]

def recordName : DocumentType → String
  | .licence => "LICENCE"
  | .certificate => "CERTIFICATE"
  | .coverLetter => "COVER_LETTER"

end DocumentType

structure Document where
  id : Nat
  packId : Nat
  documentType : DocumentType
  reference : Option String
  checkCode : Option String
  country : Option String
  brand : Option String
deriving DecidableEq, Repr

instance : Numbered Document := ⟨Document.id⟩

instance : Numbered Application := ⟨Application.id⟩

-- Changes to a draft licence; what is none stays as it is.
structure LicenceUpdate where
  startDate : Option Date
  endDate : Option Date
  paperOnly : Option Bool
deriving DecidableEq, Repr

def Pack.update (pack : Pack) (changes : LicenceUpdate) : Pack :=
  { pack with
    startDate := changes.startDate.or pack.startDate
    endDate := changes.endDate.or pack.endDate
    paperOnly := changes.paperOnly.or pack.paperOnly }

def Pack.issued (pack : Pack) (caseReference : Option String) (now : Instant) : Pack :=
  { pack with status := .active, caseReference, completed := some now }

def Pack.revoke (pack : Pack) (reason : Option String) (emailSent : Bool) : Pack :=
  { pack with status := .revoked, revokeReason := reason, revokeEmailSent := emailSent }

def Pack.isNoNewerThan (pack other : Pack) : Bool :=
  pack.created < other.created || (pack.created ≤ other.created && pack.id ≤ other.id)

end Casework
