import Casework.Case.Kind

set_option autoImplicit false

namespace Casework

structure LicensingTerms where
  processType : ProcessType
  typeCode : String
  typeLabel : String
  subType : Option String
  subTypeLabel : Option String
  -- Licences are sent to the customs authority.
  sentToChief : Bool
  onPaper : Bool
  electronic : Bool
  hasChecklist : Bool
deriving DecidableEq, Repr

namespace LicensingTerms

-- Licences on paper, electronic licences, sending and checklist of a process type.
def flagged (processType : ProcessType) (typeCode typeLabel : String)
    (subType subTypeLabel : Option String) : LicensingTerms :=
  let terms (sentToChief onPaper electronic hasChecklist : Bool) : LicensingTerms :=
    { processType, typeCode, typeLabel, subType, subTypeLabel
      sentToChief, onPaper, electronic, hasChecklist }
  match processType with
  | .deactivatedFirearms | .specificFirearms | .textiles => terms true true true true
  | .openFirearms | .sanctions => terms true false true true
  | .priorSurveillance => terms true true true false
  | .derogations | .outwardProcessing | .wood => terms false true false true
  | .ironSteel => terms false true false false
  | .manufacture | .freeSale | .goodManufacturing => terms false false false true

def of (processType : ProcessType) : LicensingTerms :=
  let terms := flagged processType
  match processType with
  | .derogations => terms "SAN" "Derogation from Sanctions Import Ban" none none
  | .deactivatedFirearms =>
    terms "FA" "Firearms and Ammunition" (some "DEACTIVATED")
      (some "Deactivated Firearms Import Certificate")
  | .openFirearms =>
    terms "FA" "Firearms and Ammunition" (some "OIL") (some "Open Individual Import Licence")
  | .specificFirearms =>
    terms "FA" "Firearms and Ammunition" (some "SIL") (some "Specific Individual Import Licence")
  | .ironSteel => terms "IS" "Iron and Steel (Quota)" (some "QUOTA") none
  | .outwardProcessing => terms "OPT" "Outward Processing Trade" (some "QUOTA") none
  | .sanctions => terms "ADHOC" "Sanctions and Adhoc Licence Application" (some "ADHOC1") none
  | .priorSurveillance => terms "SPS" "Prior Surveillance" (some "SPS1") none
  | .textiles => terms "TEX" "Textiles (Quota)" (some "QUOTA") none
  | .wood => terms "WD" "Wood (Quota)" (some "QUOTA") none
  | .manufacture => terms "COM" "Certificate of Manufacture" none none
  | .freeSale => terms "CFS" "Certificate of Free Sale" none none
  | .goodManufacturing => terms "GMP" "Certificate of Good Manufacturing Practice" none none

def supports (terms : LicensingTerms) (paperOnly : Bool) : Bool :=
  if paperOnly then terms.onPaper else terms.electronic

-- The paper-only choice that a new licence starts with; none leaves it to the caseworker.
def initialPaperOnly (terms : LicensingTerms) : Option Bool :=
  match terms.onPaper, terms.electronic with
  | true, false => some true
  | false, true => some false
  | _, _ => none

end LicensingTerms

def ProcessType.terms (processType : ProcessType) : LicensingTerms := .of processType

end Casework
