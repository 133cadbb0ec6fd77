import Casework.Search.Terms
import Casework.Search.Wildcard
import Casework.Store.Basic

set_option autoImplicit false

namespace Casework

open Calendar
open Search (Wildcard)

def passes {α : Type} (field : Option α) (test : α → Bool) : Bool :=
  match field with
  | none => true
  | some value => test value

def passesPattern (field : Option String) (test : Wildcard → Bool) : Bool :=
  passes (filledIn field) fun pattern => test (.ofPattern pattern.toList)

def passesNames (wanted : List String) (test : (String → Bool) → Bool) : Bool :=
  wanted.isEmpty || test wanted.contains

def inPeriod (day first last : Option Date) : Bool :=
  match day with
  | none => first.isNone && last.isNone
  | some day => passes first (· ≤ day) && passes last (day ≤ ·)

namespace Goods

def searchedOrigin : Goods → Option String
  | .derogations goods | .priorSurveillance goods => goods.origin
  | .firearms goods => goods.origin
  | .ironSteel goods | .textiles goods => goods.origin
  | .sanctions goods => goods.origin
  | .outwardProcessing _ | .wood _ | .certified _ => none

def searchedConsignment : Goods → Option String
  | .derogations goods | .priorSurveillance goods => goods.consignment
  | .firearms goods => goods.consignment
  | .ironSteel goods | .textiles goods => goods.consignment
  | .sanctions goods => goods.consignment
  | .outwardProcessing _ | .wood _ | .certified _ => none

def searchedYear : Goods → Option Int
  | .ironSteel goods | .textiles goods => goods.shippingYear
  | .wood goods => goods.shippingYear
  | _ => none

def isOfCategory (goods : Goods) (category : String) : Bool :=
  match FirearmCommodity.ofCode? category, goods with
  | some commodity, .firearms goods => goods.commodity == some commodity
  | some _, _ => false
  | none, .ironSteel goods | none, .textiles goods => goods.group.any (·.code == category)
  | none, .outwardProcessing goods => goods.category == some category
  | none, _ => false

def searchedCodes : Goods → List String
  | .derogations goods | .priorSurveillance goods => goods.commodityCode.toList
  | .ironSteel goods | .textiles goods => goods.commodityCode.toList
  | .wood goods => goods.commodityCode.toList
  | .outwardProcessing goods => goods.productCodes ++ goods.exportCodes
  | .sanctions goods => goods.goods.map (·.commodityCode)
  | .firearms _ | .certified _ => []

def certificateCountries : Goods → List String
  | .certified goods => goods.countries
  | _ => []

def manufacturerCountries : Goods → List String
  | .certified goods => goods.manufacturerCountries
  | _ => []

end Goods

def Store.searchedReferences (store : Store) (processId : Nat) : List (Option String) :=
  ((store.packsOf processId).filter (·.status.isVisible)).flatMap fun pack =>
    ((store.documentsOf pack.id).filter (·.documentType != .coverLetter)).map (·.reference)

def Application.isReassignable (application : Application) : Bool :=
  application.owner.isSome &&
    (application.status == .processing || application.status == .variationRequested)

namespace SearchTerms

def firearmsCode : String := "FA"

def admitsOwner (terms : SearchTerms) (application : Application) : Bool :=
  !terms.forReassignment ||
    (application.isReassignable &&
      passes terms.owner fun owner => application.owner.any (·.id == owner))

def admitsType (terms : SearchTerms) (application : Application) : Bool :=
  passes (filledIn terms.typeCode) fun code =>
    application.terms.typeCode == code &&
      passes (filledIn terms.subType) fun subType => application.terms.subType == some subType

def admitsContact (terms : SearchTerms) (application : Application) : Bool :=
  passesPattern terms.contact fun wildcard =>
    wildcard.finds application.contact.firstName.toList ||
      wildcard.finds application.contact.lastName.toList

def admitsTrader (name : Option String) (application : Application) : Bool :=
  passesPattern name fun wildcard =>
    wildcard.finds application.organisation.toList || wildcard.findsOptional application.agent

-- Firearms carry no commodity codes, so a search for firearms does not look at the code.
def admitsCommodityCode (terms : SearchTerms) (application : Application) : Bool :=
  terms.typeCode == some firearmsCode ||
    passesPattern terms.commodityCode fun wildcard =>
      wildcard == .any ||
        application.goods.searchedCodes.any fun code => wildcard.finds code.toList

def admitsMedium (terms : SearchTerms) (pack : Option Pack) : Bool :=
  passes terms.medium fun medium =>
    (pack.bind (·.paperOnly)).getD false == (medium == .paper)

def admitsLicenceDates (terms : SearchTerms) (pack : Option Pack) : Bool :=
  inPeriod (pack.bind (·.startDate)) terms.licenceFrom none &&
    inPeriod (pack.bind (·.endDate)) none terms.licenceTo

def completionDay (pack : Option Pack) : Option Date :=
  (pack.bind (·.completed)).map (·.date)

def commonFilters (terms : SearchTerms) (status : Option StatusFilter) (store : Store)
    (application : Application) : List Bool :=
  [terms.admitsOwner application,
    terms.admitsType application,
    passesPattern terms.reference (·.findsOptional application.reference),
    passesPattern terms.documentReference fun wildcard =>
      (store.searchedReferences application.id).any wildcard.findsOptional,
    passes status (·.admits application),
    passes terms.decision fun decision => application.decision == some decision,
    inPeriod (application.submitted.map (·.date)) terms.submittedFrom terms.submittedTo,
    terms.admitsContact application,
    !terms.awaitsInformation || application.hasOpenInformationRequests,
    !terms.awaitsUpdate || application.hasOpenUpdateRequests]

-- The filters of searches for imports, which find nothing that has not been submitted.
def importFilters (terms : SearchTerms) (store : Store) (application : Application) : List Bool :=
  let pack := store.latestPack application.id
  [application.submitted.isSome,
    passesPattern terms.applicantReference (·.findsOptional application.applicantReference),
    admitsTrader terms.importer application,
    terms.admitsMedium pack,
    passes terms.usage fun usage => application.usage == some usage,
    passesNames terms.origins application.goods.searchedOrigin.any,
    passesNames terms.consignments application.goods.searchedConsignment.any,
    passes terms.shippingYear fun year => application.goods.searchedYear == some year,
    passes (filledIn terms.goodsCategory) application.goods.isOfCategory,
    terms.admitsCommodityCode application,
    terms.admitsLicenceDates pack,
    inPeriod (completionDay pack) terms.issuedFrom terms.issuedTo]

-- The filters of searches for exports; only free sale certificates name a country of manufacture.
def exportFilters (terms : SearchTerms) (store : Store) (application : Application) : List Bool :=
  let pack := store.latestPack application.id
  [admitsTrader terms.exporter application,
    inPeriod (completionDay pack) terms.closedFrom terms.closedTo,
    passesNames terms.certificateCountries application.goods.certificateCountries.any,
    passesNames terms.manufactureCountries fun wanted =>
      application.processType == .freeSale && application.goods.manufacturerCountries.any wanted]

def typeFilters (terms : SearchTerms) (store : Store) (application : Application) : List Bool :=
  match terms.caseType with
  | .importing => terms.importFilters store application
  | .exporting => terms.exportFilters store application

def admits (terms : SearchTerms) (status : Option StatusFilter) (store : Store)
    (application : Application) : Bool :=
  application.caseType == terms.caseType &&
    (terms.commonFilters status store application).and &&
    (terms.typeFilters store application).and

end SearchTerms

end Casework
