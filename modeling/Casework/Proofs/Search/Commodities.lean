import Casework.Proofs.CaseFile.Run
import Casework.Proofs.Search.Combined
import Casework.Proofs.Search.Patterns

set_option autoImplicit false

namespace Casework

open Calendar
open Search (Wildcard)

namespace Text

theorem mem_of_mem_trim {text : List Char} {letter : Char} (member : letter ∈ trim text) :
    letter ∈ text := by
  have inner : letter ∈ (dropBlanks text).reverse :=
    (List.dropWhile_sublist _).subset (List.mem_reverse.1 member)
  exact (List.dropWhile_sublist _).subset (List.mem_reverse.1 inner)

end Text

theorem Search.Wildcard.ofPattern_plain {pattern : List Char} (plain : '%' ∉ pattern) :
    ofPattern pattern = .exact pattern := by
  have lone : Text.trim pattern ≠ ['%'] := fun lone =>
    plain (Text.mem_of_mem_trim (lone ▸ List.mem_singleton_self '%'))
  have split : splitAt '%' pattern = (pattern, []) :=
    splitAt_eq_iff.2 ⟨by simp, by simpa using plain⟩
  rw [ofPattern, if_neg lone, split]

def CommoditySummary.shownCodes (summary : CommoditySummary) : List String :=
  summary.codes.getD []

theorem Application.shownCodes_perm (application : Application) :
    application.commoditySummary.shownCodes.Perm application.goods.searchedCodes := by
  unfold commoditySummary Goods.searchedCodes
  cases application.goods with
  | outwardProcessing | sanctions => exact List.mergeSort_perm _ _
  | _ => exact .refl _

def ResultRow.lists (code : String) : ResultRow → Bool
  | .imported row => row.commodity.shownCodes.contains code
  | .exported _ => false

theorem inPeriod_open (day : Option Date) : inPeriod day none none = true := by
  cases day <;> rfl

namespace SearchTerms

theorem admits_of_few (caseType : CaseType) (forReassignment : Bool)
    (commodityCode : Option String) (store : Store) (application : Application) :
    SearchTerms.admits { caseType, forReassignment, commodityCode } none store application =
      (application.caseType == caseType && (!forReassignment || application.isReassignable) &&
        (caseType == .exporting || (application.submitted.isSome &&
          SearchTerms.admitsCommodityCode { caseType, forReassignment, commodityCode }
            application))) := by
  have apart : (CaseType.importing == .exporting) = false := rfl
  cases caseType <;>
    simp [admits, commonFilters, typeFilters, importFilters, exportFilters, passes, passesPattern,
      passesNames, filledIn, inPeriod_open, admitsOwner, admitsType, admitsContact, admitsTrader,
      admitsMedium, admitsLicenceDates, apart, Bool.and_assoc]

def ofCommodity (code : Option String) : SearchTerms :=
  { caseType := .importing, commodityCode := code }

theorem admits_ofCommodity (code : Option String) (store : Store) (application : Application) :
    (ofCommodity code).admits none store application =
      (application.caseType == .importing && (application.submitted.isSome &&
        (ofCommodity code).admitsCommodityCode application)) := by
  rw [ofCommodity, admits_of_few, Bool.not_false, Bool.true_or, Bool.and_true]
  rfl

theorem admitsCommodityCode_none (application : Application) :
    (ofCommodity none).admitsCommodityCode application = true := Bool.or_true _

theorem admitsCommodityCode_ofCommodity {code : String} (given : code ≠ "")
    (plain : '%' ∉ code.toList) (application : Application) :
    (ofCommodity (some code)).admitsCommodityCode application =
      application.commoditySummary.shownCodes.contains code := by
  have wanted : filledIn (some code) = some code := by simp [filledIn, given]
  have found : ∀ other : String,
      (Wildcard.exact code.toList).finds other.toList = (other == code) := by
    simp [Wildcard.finds, String.toList_inj]
  rw [admitsCommodityCode, passesPattern]
  simp only [ofCommodity, wanted, passes, Wildcard.ofPattern_plain plain, found]
  rw [Bool.eq_iff_iff]
  simp [application.shownCodes_perm.mem_iff]

theorem lists_row (code : String) (commodity : Option String) (store : Store) (today : Date)
    (application : Application) :
    ((ofCommodity commodity).row store today application).lists code =
      application.commoditySummary.shownCodes.contains code := rfl

end SearchTerms

open SearchTerms in
/-- The codes that are shown of an application are those a search looks at. So a search for a code,
and for nothing else, finds of all submitted imports those with the code in their rows. -/
theorem listed_codes_searched :
    (∀ application : Application,
      application.commoditySummary.shownCodes.Perm application.goods.searchedCodes) ∧
    ∀ (store : Store) (today : Date) (code : String), code ≠ "" → '%' ∉ code.toList →
      ∃ found submitted,
        (ofCommodity (some code)).found store = .ok found ∧
        (ofCommodity none).found store = .ok submitted ∧
        (∀ application, application ∈ submitted ↔ application ∈ store.applications.rows ∧
          application.caseType = .importing ∧ application.submitted.isSome = true) ∧
        (∀ application ∈ submitted, application ∈ found ↔
          ((ofCommodity (some code)).row store today application).lists code = true) ∧
        found.Sublist submitted ∧
        ∀ limit, (ofCommodity (some code)).results store today limit =
          .ok ⟨found.length,
            (found.take limit).map ((ofCommodity (some code)).row store today)⟩ := by
  refine ⟨Application.shownCodes_perm, fun store today code given plain => ?_⟩
  have coded : ∀ application, (ofCommodity (some code)).admits none store application =
      ((ofCommodity none).admits none store application &&
        ((ofCommodity (some code)).row store today application).lists code) := by
    intro application
    rw [admits_ofCommodity, admits_ofCommodity, admitsCommodityCode_ofCommodity given plain,
      admitsCommodityCode_none, lists_row, Bool.and_true, Bool.and_assoc]
  let listed := fun application =>
    ((ofCommodity (some code)).row store today application).lists code
  have same : (ofCommodity (some code)).found store =
      .ok ((newestFirst Application.listing
        (store.applications.rows.filter ((ofCommodity none).admits none store))).filter
          listed) := by
    refine found_eq_ok_iff.2 ⟨none, rfl, ?_⟩
    rw [funext coded, newestFirst_filter]
  refine ⟨_, _, same, found_eq_ok_iff.2 ⟨none, rfl, rfl⟩, ?_, ?_, List.filter_sublist,
    results_of_found same today⟩
  · intro application
    rw [(newestFirst_perm _ _).mem_iff, List.mem_filter, admits_ofCommodity,
      admitsCommodityCode_none, Bool.and_true, Bool.and_eq_true, beq_iff_eq]
  · intro application listed
    rw [List.mem_filter, and_iff_right listed]

namespace Sample

def sanctions : Goods :=
  .sanctions ⟨some "Iran", some "Iran", [⟨"7214", "bars"⟩, ⟨"2709", "oil"⟩]⟩

def sanctioned : List Step :=
  [step false (.create user ⟨.sanctions, user, "Acme Ltd", none, none, some sanctions⟩),
    step false (.submit .importing 1 user)]

theorem sanctioned_submitted :
    ∃ application ∈ (System.initial.follow sanctioned).store.applications.rows,
      application.caseType = .importing ∧ application.submitted.isSome = true ∧
        application.goods = sanctions := by
  decide +kernel

end Sample

theorem sanctioned_code_found :
    "2709" ≠ "" ∧ '%' ∉ "2709".toList ∧
      ∃ found, (SearchTerms.ofCommodity (some "2709")).found
          (System.initial.follow Sample.sanctioned).store = .ok found ∧
        ∃ application ∈ found, application.goods = Sample.sanctions := by
  have given : "2709" ≠ "" := by decide
  have plain : '%' ∉ "2709".toList := by decide
  obtain ⟨found, submitted, searched, -, all, listed, -⟩ := listed_codes_searched.2
    (System.initial.follow Sample.sanctioned).store
    (Sample.step false .failedLicences).setting.now.date "2709" given plain
  obtain ⟨application, stored, imported, handed_in, goods⟩ := Sample.sanctioned_submitted
  refine ⟨given, plain, found, searched, application, ?_, goods⟩
  refine (listed application ((all application).2 ⟨stored, imported, handed_in⟩)).2 ?_
  rw [SearchTerms.lists_row, List.contains_iff_mem, application.shownCodes_perm.mem_iff, goods]
  decide

end Casework
