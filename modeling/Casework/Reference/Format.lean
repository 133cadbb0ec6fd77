import Casework.Case.Application
import Casework.Reference.CheckCode

set_option autoImplicit false

namespace Casework.Reference

open Text

inductive ReferenceError where
  | notAssigned
  | noCertificateFormat (processType : ProcessType)
  | noElectronicFormat (processType : ProcessType)
deriving DecidableEq, Repr

def ReferenceError.message : ReferenceError → String
  | .notAssigned => "application has not been assigned a case reference"
  | .noCertificateFormat processType =>
    "no certificate reference format for " ++ processType.shortName
  | .noElectronicFormat processType =>
    "no electronic licence reference format for " ++ processType.shortName

def caseSeries : ProcessType → String
  | .goodManufacturing => "GA"
  | .manufacture | .freeSale => "CA"
  | _ => "IMA"

def licenceSeries : String := "ILD"

def certificateSeries : ProcessType → Except ReferenceError String
  | .freeSale => .ok "CFS"
  | .manufacture => .ok "COM"
  | .goodManufacturing => .ok "GMP"
  | other => .error (.noCertificateFormat other)

def yearly (series : String) (year : Int) (number : Nat) : String :=
  series ++ "/" ++ signedNumeral year ++ "/" ++ String.ofList (padded 5 number)

def paperLicence (sequence : Nat) : String :=
  String.ofList (padded 7 sequence ++ [checkLetter sequence])

def licenceCategory : ProcessType → Except ReferenceError String
  | .deactivatedFirearms | .specificFirearms => .ok "SIL"
  | .openFirearms => .ok "OIL"
  | .sanctions => .ok "SAN"
  | .priorSurveillance => .ok "AOG"
  | .textiles => .ok "TEX"
  | other => .error (.noElectronicFormat other)

def electronicLicence (processType : ProcessType) (sequence : Nat) :
    Except ReferenceError String :=
  (licenceCategory processType).map fun category => "GB" ++ category ++ paperLicence sequence

def licence (paperOnly : Bool) (processType : ProcessType) (sequence : Nat) :
    Except ReferenceError String :=
  if paperOnly then .ok (paperLicence sequence) else electronicLicence processType sequence

def sections (separator : Char) : List Char → List (List Char)
  | [] => [[]]
  | letter :: rest =>
    if letter = separator then [] :: sections separator rest
    else
      match sections separator rest with
      | [] => [[letter]]
      | first :: others => (letter :: first) :: others

-- The first three sections, which a case keeps for good.
def base (reference : String) : String :=
  String.ofList (['/'].intercalate ((sections '/' reference.toList).take 3))

-- The variations that count: all of an import, the open and the closed ones of an export.
def countedVariations (application : Application) : Nat :=
  (application.variations.filter fun variation =>
    application.isImport || variation.status == .opened || variation.status == .closed).length

def variation (application : Application) : Except ReferenceError String :=
  match application.reference with
  | none => .error .notAssigned
  | some reference =>
    let count := countedVariations application
    .ok (if count = 0 then base reference else base reference ++ "/" ++ numeral count)

end Casework.Reference
