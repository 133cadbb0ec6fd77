import Casework.Proofs.Search.Paging

set_option autoImplicit false

namespace Casework

open Calendar

-- The filters skip a text that is empty as they skip one that is missing.
def Blank (text : Option String) : Prop := filledIn text = none

def eitherText (first second : Option String) : Option String :=
  (filledIn first).or (second.or first)

namespace SearchTerms

def union (first second : SearchTerms) : SearchTerms where
  caseType := first.caseType
  typeCode := eitherText first.typeCode second.typeCode
  status := eitherText first.status second.status
  reference := eitherText first.reference second.reference
  documentReference := eitherText first.documentReference second.documentReference
  decision := first.decision.or second.decision
  submittedFrom := first.submittedFrom.or second.submittedFrom
  submittedTo := first.submittedTo.or second.submittedTo
  forReassignment := first.forReassignment || second.forReassignment
  owner := first.owner.or second.owner
  contact := eitherText first.contact second.contact
  awaitsInformation := first.awaitsInformation || second.awaitsInformation
  awaitsUpdate := first.awaitsUpdate || second.awaitsUpdate
  subType := eitherText first.subType second.subType
  applicantReference := eitherText first.applicantReference second.applicantReference
  importer := eitherText first.importer second.importer
  medium := first.medium.or second.medium
  usage := first.usage.or second.usage
  origins := first.origins ++ second.origins
  consignments := first.consignments ++ second.consignments
  shippingYear := first.shippingYear.or second.shippingYear
  goodsCategory := eitherText first.goodsCategory second.goodsCategory
  commodityCode := eitherText first.commodityCode second.commodityCode
  underAppeal := first.underAppeal.or second.underAppeal
  licenceFrom := first.licenceFrom.or second.licenceFrom
  licenceTo := first.licenceTo.or second.licenceTo
  issuedFrom := first.issuedFrom.or second.issuedFrom
  issuedTo := first.issuedTo.or second.issuedTo
  exporter := eitherText first.exporter second.exporter
  closedFrom := first.closedFrom.or second.closedFrom
  closedTo := first.closedTo.or second.closedTo
  certificateCountries := first.certificateCountries ++ second.certificateCountries
  manufactureCountries := first.manufactureCountries ++ second.manufactureCountries

structure SeeksNoOwner (terms : SearchTerms) : Prop where
  flag : terms.forReassignment = false
  owner : terms.owner = none

structure NamesNoType (terms : SearchTerms) : Prop where
  typeCode : Blank terms.typeCode
  subType : Blank terms.subType
  commodityCode : Blank terms.commodityCode

/-- No field is filled in in both forms, and of linked fields all in one form. -/
structure Separate (first second : SearchTerms) : Prop where
  caseType : first.caseType = second.caseType
  reassignment : first.SeeksNoOwner ∨ second.SeeksNoOwner
  typed : first.NamesNoType ∨ second.NamesNoType
  status : Blank first.status ∨ Blank second.status
  reference : Blank first.reference ∨ Blank second.reference
  documentReference : Blank first.documentReference ∨ Blank second.documentReference
  decision : first.decision = none ∨ second.decision = none
  submittedFrom : first.submittedFrom = none ∨ second.submittedFrom = none
  submittedTo : first.submittedTo = none ∨ second.submittedTo = none
  contact : Blank first.contact ∨ Blank second.contact
  awaitsInformation : first.awaitsInformation = false ∨ second.awaitsInformation = false
  awaitsUpdate : first.awaitsUpdate = false ∨ second.awaitsUpdate = false
  applicantReference : Blank first.applicantReference ∨ Blank second.applicantReference
  importer : Blank first.importer ∨ Blank second.importer
  medium : first.medium = none ∨ second.medium = none
  usage : first.usage = none ∨ second.usage = none
  origins : first.origins = [] ∨ second.origins = []
  consignments : first.consignments = [] ∨ second.consignments = []
  shippingYear : first.shippingYear = none ∨ second.shippingYear = none
  goodsCategory : Blank first.goodsCategory ∨ Blank second.goodsCategory
  underAppeal : first.underAppeal = none ∨ second.underAppeal = none
  licenceFrom : first.licenceFrom = none ∨ second.licenceFrom = none
  licenceTo : first.licenceTo = none ∨ second.licenceTo = none
  issuedFrom : first.issuedFrom = none ∨ second.issuedFrom = none
  issuedTo : first.issuedTo = none ∨ second.issuedTo = none
  exporter : Blank first.exporter ∨ Blank second.exporter
  closedFrom : first.closedFrom = none ∨ second.closedFrom = none
  closedTo : first.closedTo = none ∨ second.closedTo = none
  certificateCountries : first.certificateCountries = [] ∨ second.certificateCountries = []
  manufactureCountries : first.manufactureCountries = [] ∨ second.manufactureCountries = []

end SearchTerms

section Fields

variable {α : Type}

theorem filledIn_eitherText (first second : Option String) :
    filledIn (eitherText first second) = (filledIn first).or (filledIn second) := by
  unfold eitherText filledIn
  cases first with
  | none => simp
  | some text =>
    by_cases empty : text.isEmpty = true
    · cases second <;> simp [Option.filter, empty]
    · simp [Option.filter, empty]

theorem passes_or {first second : Option α} (apart : first = none ∨ second = none)
    (test : α → Bool) :
    passes (first.or second) test = (passes first test && passes second test) := by
  rcases apart with rfl | rfl <;> simp [passes]

theorem passes_eitherText {first second : Option String} (apart : Blank first ∨ Blank second)
    (test : String → Bool) :
    passes (filledIn (eitherText first second)) test =
      (passes (filledIn first) test && passes (filledIn second) test) := by
  rw [filledIn_eitherText, passes_or apart]

theorem passesPattern_eitherText {first second : Option String}
    (apart : Blank first ∨ Blank second) (test : Search.Wildcard → Bool) :
    passesPattern (eitherText first second) test =
      (passesPattern first test && passesPattern second test) :=
  passes_eitherText apart _

theorem passesNames_append {first second : List String} (apart : first = [] ∨ second = [])
    (test : (String → Bool) → Bool) :
    passesNames (first ++ second) test = (passesNames first test && passesNames second test) := by
  rcases apart with rfl | rfl <;> simp [passesNames]

theorem inPeriod_or {first second last final : Option Date}
    (starts : first = none ∨ second = none) (ends : last = none ∨ final = none)
    (day : Option Date) :
    inPeriod day (first.or second) (last.or final) =
      (inPeriod day first last && inPeriod day second final) := by
  cases day with
  | none =>
    rcases starts with rfl | rfl <;> rcases ends with rfl | rfl <;> simp [inPeriod, Bool.and_comm]
  | some day =>
    simp only [inPeriod, passes_or starts, passes_or ends]
    ac_rfl

theorem flagged_or (first second wanted : Bool) :
    (!(first || second) || wanted) = ((!first || wanted) && (!second || wanted)) := by
  cases first <;> cases second <;> simp

theorem and_zipWith {first second : List Bool} (same : first.length = second.length) :
    (List.zipWith (· && ·) first second).and = (first.and && second.and) := by
  induction first generalizing second with
  | nil =>
    obtain rfl := List.length_eq_zero_iff.1 same.symm
    rfl
  | cons head tail ih =>
    cases second with
    | nil => simp at same
    | cons other others =>
      have rest := ih (Nat.succ.inj same)
      simp only [List.zipWith_cons_cons, List.and_cons, rest]
      ac_rfl

end Fields

namespace SearchTerms

theorem admitsCommodityCode_eq (terms : SearchTerms) (application : Application) :
    terms.admitsCommodityCode application =
      (filledIn terms.typeCode == some firearmsCode ||
        passesPattern terms.commodityCode fun wildcard =>
          wildcard == .any ||
            application.goods.searchedCodes.any fun code => wildcard.finds code.toList) := by
  have same : (terms.typeCode == some firearmsCode) =
      (filledIn terms.typeCode == some firearmsCode) := by
    unfold filledIn
    cases terms.typeCode with
    | none => rfl
    | some code =>
      by_cases empty : code = "" <;> simp [Option.filter, empty, firearmsCode]
  rw [admitsCommodityCode, same]

section Filters

variable {first second : SearchTerms} (apart : first.Separate second) (application : Application)

include apart

theorem admitsOwner_union : (first.union second).admitsOwner application =
    (first.admitsOwner application && second.admitsOwner application) := by
  rcases apart.reassignment with ⟨flag, owner⟩ | ⟨flag, owner⟩ <;>
    simp [admitsOwner, union, flag, owner]

theorem admitsType_union : (first.union second).admitsType application =
    (first.admitsType application && second.admitsType application) := by
  simp only [admitsType, union, filledIn_eitherText]
  rcases apart.typed with ⟨code, subType, -⟩ | ⟨code, subType, -⟩ <;>
    rw [Blank] at code subType <;> simp [code, subType, passes]

theorem admitsCommodityCode_union : (first.union second).admitsCommodityCode application =
    (first.admitsCommodityCode application && second.admitsCommodityCode application) := by
  simp only [admitsCommodityCode_eq, passesPattern, union, filledIn_eitherText]
  rcases apart.typed with ⟨code, -, goods⟩ | ⟨code, -, goods⟩ <;>
    rw [Blank] at code goods <;> simp [code, goods, passes]

theorem admitsLicenceDates_union (pack : Option Pack) :
    (first.union second).admitsLicenceDates pack =
      (first.admitsLicenceDates pack && second.admitsLicenceDates pack) := by
  have starts (day : Option Date) : inPeriod day (first.licenceFrom.or second.licenceFrom) none =
      (inPeriod day first.licenceFrom none && inPeriod day second.licenceFrom none) :=
    inPeriod_or apart.licenceFrom (.inl rfl) day
  have ends (day : Option Date) : inPeriod day none (first.licenceTo.or second.licenceTo) =
      (inPeriod day none first.licenceTo && inPeriod day none second.licenceTo) :=
    inPeriod_or (.inl rfl) apart.licenceTo day
  simp only [admitsLicenceDates, union, starts, ends]
  ac_rfl

theorem commonFilters_union {status other : Option StatusFilter}
    (either : status = none ∨ other = none) (store : Store) :
    (first.union second).commonFilters (status.or other) store application =
      List.zipWith (· && ·) (first.commonFilters status store application)
        (second.commonFilters other store application) := by
  simp only [commonFilters, List.zipWith_cons_cons, List.zipWith_nil_left, List.cons.injEq,
    and_true]
  exact ⟨admitsOwner_union apart application, admitsType_union apart application,
    passesPattern_eitherText apart.reference _, passesPattern_eitherText apart.documentReference _,
    passes_or either _, passes_or apart.decision _,
    inPeriod_or apart.submittedFrom apart.submittedTo _, passesPattern_eitherText apart.contact _,
    flagged_or _ _ _, flagged_or _ _ _⟩

theorem importFilters_union (store : Store) :
    (first.union second).importFilters store application =
      List.zipWith (· && ·) (first.importFilters store application)
        (second.importFilters store application) := by
  simp only [importFilters, List.zipWith_cons_cons, List.zipWith_nil_left, List.cons.injEq,
    and_true]
  exact ⟨(Bool.and_self _).symm, passesPattern_eitherText apart.applicantReference _,
    passesPattern_eitherText apart.importer _, passes_or apart.medium _, passes_or apart.usage _,
    passesNames_append apart.origins _, passesNames_append apart.consignments _,
    passes_or apart.shippingYear _, passes_eitherText apart.goodsCategory _,
    admitsCommodityCode_union apart application, admitsLicenceDates_union apart _,
    inPeriod_or apart.issuedFrom apart.issuedTo _⟩

theorem exportFilters_union (store : Store) :
    (first.union second).exportFilters store application =
      List.zipWith (· && ·) (first.exportFilters store application)
        (second.exportFilters store application) := by
  simp only [exportFilters, List.zipWith_cons_cons, List.zipWith_nil_left, List.cons.injEq,
    and_true]
  exact ⟨passesPattern_eitherText apart.exporter _, inPeriod_or apart.closedFrom apart.closedTo _,
    passesNames_append apart.certificateCountries _,
    passesNames_append apart.manufactureCountries _⟩

theorem typeFilters_union (store : Store) :
    (first.union second).typeFilters store application =
      List.zipWith (· && ·) (first.typeFilters store application)
        (second.typeFilters store application) := by
  have kind : (first.union second).caseType = first.caseType := rfl
  simp only [typeFilters, kind, ← apart.caseType]
  cases first.caseType with
  | importing => exact importFilters_union apart application store
  | exporting => exact exportFilters_union apart application store

theorem admits_union {status other : Option StatusFilter}
    (either : status = none ∨ other = none) (store : Store) :
    (first.union second).admits (status.or other) store application =
      (first.admits status store application && second.admits other store application) := by
  have kind : (first.union second).caseType = first.caseType := rfl
  have common : (first.commonFilters status store application).length =
      (second.commonFilters other store application).length := rfl
  have typed : (first.typeFilters store application).length =
      (second.typeFilters store application).length := by
    simp only [typeFilters, ← apart.caseType]
    cases first.caseType <;> rfl
  simp only [admits, kind, ← apart.caseType, commonFilters_union apart application either,
    typeFilters_union apart, and_zipWith common, and_zipWith typed]
  cases application.caseType == first.caseType <;> simp
  ac_rfl

theorem statusFilter_union {status other : Option StatusFilter}
    (compiles : first.statusFilter = .ok status)
    (other_compiles : second.statusFilter = .ok other) :
    (first.union second).statusFilter = .ok (status.or other) ∧
      (status = none ∨ other = none) := by
  unfold statusFilter at *
  simp only [union, filledIn_eitherText]
  rcases apart.status with blank | blank <;> rw [Blank] at blank
  · rw [blank] at compiles
    obtain rfl := Except.ok.inj compiles
    simpa [blank, apart.caseType] using other_compiles
  · rw [blank] at other_compiles
    obtain rfl := Except.ok.inj other_compiles
    simpa [blank] using compiles

end Filters

end SearchTerms

theorem newestFirst_filter (store : Store) (wanted further : Application → Bool) :
    newestFirst Application.listing
        (store.applications.rows.filter fun application =>
          wanted application && further application) =
      (newestFirst Application.listing (store.applications.rows.filter wanted)).filter further := by
  have member {application : Application} (listed : application ∈
      (newestFirst Application.listing (store.applications.rows.filter wanted)).filter further) :
      application ∈ store.applications.rows := by
    have found := (List.mem_filter.1 listed).1
    exact (List.mem_filter.1 ((newestFirst_perm _ _).mem_iff.1 found)).1
  refine newestFirst_eq_of_perm ?_ ((pairwise_newestFirst _ _).filter _) ?_
  · simp only [Bool.and_comm (wanted _), ← List.filter_filter]
    exact ((newestFirst_perm _ _).filter _).symm
  · intro application listed other other_listed
    exact Table.eq_of_number_eq (member listed) (member other_listed)

/-- Two forms with no field in common find together what each of them finds, in the same order, so
a further form never adds to what is found. -/
theorem found_union {first second : SearchTerms} {store : Store} {found others : List Application}
    (apart : first.Separate second) (searched : first.found store = .ok found)
    (others_searched : second.found store = .ok others) :
    ∃ both, (first.union second).found store = .ok both ∧
      (∀ application, application ∈ both ↔ application ∈ found ∧ application ∈ others) ∧
      both.Sublist found ∧ both.Sublist others := by
  obtain ⟨status, compiles, rfl⟩ := found_eq_ok_iff.1 searched
  obtain ⟨other, other_compiles, rfl⟩ := found_eq_ok_iff.1 others_searched
  obtain ⟨together, either⟩ := SearchTerms.statusFilter_union apart compiles other_compiles
  have admits : (first.union second).admits (status.or other) store = fun application =>
      first.admits status store application && second.admits other store application :=
    funext fun application => SearchTerms.admits_union apart application either store
  refine ⟨_, found_eq_ok_iff.2 ⟨_, together, rfl⟩, fun application => ?_, ?_, ?_⟩
  · rw [admits]
    simp only [(newestFirst_perm _ _).mem_iff, List.mem_filter, Bool.and_eq_true]
    constructor
    · rintro ⟨stored, one, another⟩
      exact ⟨⟨stored, one⟩, stored, another⟩
    · rintro ⟨⟨stored, one⟩, -, another⟩
      exact ⟨stored, one, another⟩
  · rw [admits, newestFirst_filter]
    exact List.filter_sublist
  · simp only [admits, Bool.and_comm (first.admits _ _ _)]
    rw [newestFirst_filter]
    exact List.filter_sublist

namespace Sample

def inProgress : SearchTerms := { caseType := .exporting, status := some "PROCESSING" }

def abroad : SearchTerms :=
  { caseType := .exporting, certificateCountries := ["France", "Norway"] }

theorem inProgress_separate : inProgress.Separate abroad := by
  constructor
  case reassignment => exact .inl ⟨rfl, rfl⟩
  case typed => exact .inl ⟨rfl, rfl, rfl⟩
  all_goals first | rfl | exact .inl rfl | exact .inr rfl

end Sample

theorem pair_narrowed :
    Sample.inProgress.Separate Sample.abroad ∧
      ∃ both, (Sample.inProgress.union Sample.abroad).found Sample.pair = .ok both ∧
        ∀ application ∈ Sample.pair.applications.rows,
          (application ∈ both ↔ application.id = 1) := by
  have status : Sample.inProgress.statusFilter = .ok (some (.exactly .processing)) := by
    decide +kernel
  have unnamed : Sample.abroad.statusFilter = .ok none := rfl
  obtain ⟨found, searched⟩ := exists_found status Sample.pair
  obtain ⟨others, others_searched⟩ := exists_found unnamed Sample.pair
  obtain ⟨both, together, mem, -, -⟩ :=
    found_union Sample.inProgress_separate searched others_searched
  refine ⟨Sample.inProgress_separate, both, together, fun application stored => ?_⟩
  rw [mem, mem_found status searched, mem_found unnamed others_searched]
  simp only [stored, true_and]
  revert application
  decide +kernel

end Casework
