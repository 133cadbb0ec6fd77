import Casework.Case.Kind

set_option autoImplicit false

namespace Casework

inductive FirearmCommodity where
  | chapter93
  | chapter97
deriving DecidableEq, Repr

namespace FirearmCommodity

def all : List FirearmCommodity := [.chapter93, .chapter97]

def code : FirearmCommodity → String
  | .chapter93 => "EX_CHAPTER_93"
  | .chapter97 => "EX_CHAPTER_97"

def recordName : FirearmCommodity → String
  | .chapter93 => "EX_CHAPTER93"
  | .chapter97 => "EX_CHAPTER97"

def label : FirearmCommodity → String
  | .chapter93 => "Goods outside Chapter 93"
  | .chapter97 => "Goods outside Chapter 97"

def ofCode? (code : String) : Option FirearmCommodity := all.find? (·.code == code)

end FirearmCommodity

structure CommodityGroup where
  code : String
  name : String
deriving DecidableEq, Repr

structure SanctionedGoods where
  commodityCode : String
  description : String
deriving DecidableEq, Repr

structure CodedGoods where
  origin : Option String
  consignment : Option String
  commodityCode : Option String
deriving DecidableEq, Repr

structure FirearmGoods where
  origin : Option String
  consignment : Option String
  commodity : Option FirearmCommodity
deriving DecidableEq, Repr

structure QuotaGoods where
  origin : Option String
  consignment : Option String
  shippingYear : Option Int
  group : Option CommodityGroup
  commodityCode : Option String
deriving DecidableEq, Repr

structure ProcessedGoods where
  origin : Option String
  processing : Option String
  category : Option String
  productCodes : List String
  exportCodes : List String
deriving DecidableEq, Repr

structure SanctionsGoods where
  origin : Option String
  consignment : Option String
  goods : List SanctionedGoods
deriving DecidableEq, Repr

structure WoodGoods where
  shippingYear : Option Int
  commodityCode : Option String
deriving DecidableEq, Repr

structure CertifiedGoods where
  countries : List String
  manufacturerCountries : List String
  brands : List String
deriving DecidableEq, Repr

inductive Goods where
  | derogations (goods : CodedGoods)
  | firearms (goods : FirearmGoods)
  | ironSteel (goods : QuotaGoods)
  | outwardProcessing (goods : ProcessedGoods)
  | sanctions (goods : SanctionsGoods)
  | priorSurveillance (goods : CodedGoods)
  | textiles (goods : QuotaGoods)
  | wood (goods : WoodGoods)
  | certified (goods : CertifiedGoods)
deriving DecidableEq, Repr

namespace Goods

def processTypes : Goods → List ProcessType
  | .derogations _ => [.derogations]
  | .firearms _ => [.deactivatedFirearms, .openFirearms, .specificFirearms]
  | .ironSteel _ => [.ironSteel]
  | .outwardProcessing _ => [.outwardProcessing]
  | .sanctions _ => [.sanctions]
  | .priorSurveillance _ => [.priorSurveillance]
  | .textiles _ => [.textiles]
  | .wood _ => [.wood]
  | .certified _ => [.manufacture, .freeSale, .goodManufacturing]

def suits (goods : Goods) (processType : ProcessType) : Bool :=
  goods.processTypes.contains processType

def blank : ProcessType → Goods
  | .derogations => .derogations ⟨none, none, none⟩
  | .deactivatedFirearms | .openFirearms | .specificFirearms => .firearms ⟨none, none, none⟩
  | .ironSteel => .ironSteel ⟨none, none, none, none, none⟩
  | .outwardProcessing => .outwardProcessing ⟨none, none, none, [], []⟩
  | .sanctions => .sanctions ⟨none, none, []⟩
  | .priorSurveillance => .priorSurveillance ⟨none, none, none⟩
  | .textiles => .textiles ⟨none, none, none, none, none⟩
  | .wood => .wood ⟨none, none⟩
  | .manufacture | .freeSale | .goodManufacturing => .certified ⟨[], [], []⟩

end Goods

end Casework
