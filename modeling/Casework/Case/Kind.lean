set_option autoImplicit false

namespace Casework

inductive CaseType where
  | importing
  | exporting
deriving DecidableEq, Repr

namespace CaseType

def all : List CaseType := [.importing, .exporting]

def code : CaseType → String
  | .importing => "import"
  | .exporting => "export"

def ofCode? (code : String) : Option CaseType := all.find? (·.code == code)

end CaseType

inductive ProcessType where
  | derogations
  | deactivatedFirearms
  | openFirearms
  | specificFirearms
  | ironSteel
  | outwardProcessing
  | sanctions
  | priorSurveillance
  | textiles
  | wood
  | manufacture
  | freeSale
  | goodManufacturing
deriving DecidableEq, Repr

namespace ProcessType

def imports : List ProcessType :=
  [.derogations, .deactivatedFirearms, .openFirearms, .specificFirearms, .ironSteel,
    .outwardProcessing, .sanctions, .priorSurveillance, .textiles, .wood]

def exports : List ProcessType := [.manufacture, .freeSale, .goodManufacturing]

def all : List ProcessType := imports ++ exports

def code : ProcessType → String
  | .derogations => "DerogationsApplication"
  | .deactivatedFirearms => "DFLApplication"
  | .openFirearms => "OpenIndividualLicenceApplication"
  | .specificFirearms => "SILApplication"
  | .ironSteel => "IronSteelApplication"
  | .outwardProcessing => "OutwardProcessingTradeApplication"
  | .sanctions => "SanctionsAndAdhocApplication"
  | .priorSurveillance => "PriorSurveillanceApplication"
  | .textiles => "TextilesApplication"
  | .wood => "WoodQuotaApplication"
  | .manufacture => "CertificateOfManufactureApplication"
  | .freeSale => "CertificateOfFreeSaleApplication"
  | .goodManufacturing => "CertificateofGoodManufacturingPractice"

def ofCode? (code : String) : Option ProcessType := all.find? (·.code == code)

def label : ProcessType → String
  | .derogations => "Derogation from Sanctions Import Ban"
  | .deactivatedFirearms => "Firearms and Ammunition (Deactivated Firearms Licence)"
  | .openFirearms => "Firearms and Ammunition (Open Individual Import Licence)"
  | .specificFirearms => "Firearms and Ammunition (Specific Individual Import Licence)"
  | .ironSteel => "Iron and Steel (Quota)"
  | .outwardProcessing => "Outward Processing Trade"
  | .sanctions => "Sanctions and Adhoc Licence Application"
  | .priorSurveillance => "Prior Surveillance"
  | .textiles => "Textiles (Quota)"
  | .wood => "Wood (Quota)"
  | .manufacture => "Certificate of Manufacture"
  | .freeSale => "Certificate of Free Sale"
  | .goodManufacturing => "Certificate of Good Manufacturing Practice"

def shortName : ProcessType → String
  | .derogations => "Derogations"
  | .deactivatedFirearms => "FaDfl"
  | .openFirearms => "FaOil"
  | .specificFirearms => "FaSil"
  | .ironSteel => "IronSteel"
  | .outwardProcessing => "Opt"
  | .sanctions => "Sanctions"
  | .priorSurveillance => "Sps"
  | .textiles => "Textiles"
  | .wood => "Wood"
  | .manufacture => "Com"
  | .freeSale => "Cfs"
  | .goodManufacturing => "Gmp"

def caseType : ProcessType → CaseType
  | .manufacture | .freeSale | .goodManufacturing => .exporting
  | _ => .importing

def isFirearms : ProcessType → Bool
  | .deactivatedFirearms | .openFirearms | .specificFirearms => true
  | _ => false

def heading : ProcessType → String
  | .deactivatedFirearms | .openFirearms | .specificFirearms => "Firearms and Ammunition"
  | .textiles => "Textiles"
  | .wood => "Wood"
  | .derogations => "Sanctions Derogation"
  | .priorSurveillance => "Prior Surveillance"
  | .sanctions => "Sanctions and Adhoc"
  | .outwardProcessing => "Outward Processing Trade"
  | .freeSale => "CFS Application"
  | .manufacture => "COM Application"
  | .goodManufacturing => "GMP Application"
  | .ironSteel => "Application Details"

theorem mem_all (processType : ProcessType) : processType ∈ all := by
  cases processType <;> decide

end ProcessType

end Casework
