import Casework.Proofs.Document.Created
import Casework.Proofs.Store.Solo

set_option autoImplicit false

namespace Casework

open Calendar
open Numbered (number)

namespace Table

variable {α : Type} [Numbered α] {wanted : α → Bool}

theorem eq_of_find? {first second : Table α} (same : ∀ id, first.find? id = second.find? id) :
    first = second := by
  have nodup (table : Table α) : table.rows.Nodup := table.increasing.imp fun before equal =>
    Nat.ne_of_lt before (congrArg number equal)
  have members (row : α) : row ∈ first.rows ↔ row ∈ second.rows := by
    have found := same (number row)
    constructor <;> intro member
    · rw [find?_eq_some_iff.2 ⟨member, rfl⟩] at found
      exact (find?_eq_some_iff.1 found.symm).1
    · rw [find?_eq_some_iff.2 ⟨member, rfl⟩] at found
      exact (find?_eq_some_iff.1 found).1
  refine eq_of_rows (List.Perm.eq_of_pairwise (fun row other _ _ before after => ?_)
    first.increasing second.increasing
    ((List.perm_ext_iff_of_nodup (nodup first) (nodup second)).2 members))
  exact absurd before (Nat.lt_asymm after)

theorem keep_insert_passed (table : Table α) {row : α} (passed : wanted row = false) :
    (table.insert row).keep wanted = (table.keep wanted).erase (number row) := by
  refine eq_of_find? fun id => ?_
  rw [find?_keep, find?_insert, find?_erase, find?_keep]
  by_cases same : number row = id
  · rw [if_pos same, if_pos same.symm, Option.filter_some, passed]
    rfl
  · rw [if_neg same, if_neg (Ne.symm same)]

theorem keep_foldl_insert (table : Table α) {rows : List α}
    (picked : ∀ row ∈ rows, wanted row = true) :
    (rows.foldl insert table).keep wanted = rows.foldl insert (table.keep wanted) := by
  induction rows generalizing table with
  | nil => rfl
  | cons row rest ih =>
    obtain ⟨first, others⟩ := List.forall_mem_cons.1 picked
    rw [List.foldl_cons, ih _ others, keep_insert table first, List.foldl_cons]

theorem keep_foldl_insert_passed (table : Table α) {rows : List α}
    (passed : ∀ row ∈ rows, wanted row = false) :
    (rows.foldl insert table).keep wanted =
      (table.keep wanted).keep fun row => !(rows.map number).contains (number row) := by
  induction rows generalizing table with
  | nil => exact eq_of_rows (List.filter_eq_self.2 fun _ _ => rfl).symm
  | cons row rest ih =>
    obtain ⟨first, others⟩ := List.forall_mem_cons.1 passed
    rw [List.foldl_cons, ih _ others, keep_insert_passed table first]
    refine eq_of_rows ?_
    simp only [erase, keep, List.filter_filter]
    refine List.filter_congr fun found _ => ?_
    rw [List.map_cons, List.contains_cons, Bool.not_or, bne]
    ac_rfl

end Table

structure Sorts (names sorted : List String) : Prop where
  perm : sorted.Perm names
  ordered : sorted.Pairwise (· ≤ ·)

theorem sorts_inOrder (names : List String) : Sorts names (Work.inOrder names) := by
  have before (first second : String) : (!decide (second < first)) = true ↔ first ≤ second := by
    rw [Bool.not_eq_true', decide_eq_false_iff_not, String.not_lt]
  refine ⟨List.mergeSort_perm _ _, ?_⟩
  refine (List.pairwise_mergeSort ?_ ?_ names).imp fun {first second} => (before first second).1
  · intro first second third
    simp only [before]
    exact String.le_trans
  · intro first second
    rw [Bool.or_eq_true, before, before]
    exact String.le_total first second

theorem Sorts.unique {names sorted other : List String} (sorts : Sorts names sorted)
    (also : Sorts names other) : sorted = other :=
  (sorts.perm.trans also.perm.symm).eq_of_pairwise (fun _ _ _ _ => String.le_antisymm)
    sorts.ordered also.ordered

def Precedes (first second : String × String) : Prop :=
  first.1 < second.1 ∨ first.1 = second.1 ∧ first.2 ≤ second.2

def pairs (countries brands : List String) : List (String × String) :=
  countries.flatMap fun country => brands.map (country, ·)

theorem pairwise_precedes_iff {countries brands : List String}
    (ordered : countries.Pairwise (· ≤ ·)) (also : brands.Pairwise (· ≤ ·)) :
    (pairs countries brands).Pairwise Precedes ↔
      countries.Nodup ∨ ∀ brand ∈ brands, ∀ other ∈ brands, brand = other := by
  have within : ∀ country ∈ countries, (brands.map (country, ·)).Pairwise Precedes :=
    fun _ _ => List.pairwise_map.2 (also.imp fun before => .inr ⟨rfl, before⟩)
  rw [pairs, List.pairwise_flatMap, and_iff_right within]
  simp only [List.forall_mem_map]
  constructor
  · intro across
    by_cases single : ∀ brand ∈ brands, ∀ other ∈ brands, brand = other
    · exact .inr single
    · refine .inl (List.nodup_iff_pairwise_ne.2 (across.imp fun {country _} precedes same => ?_))
      subst same
      refine single ?_
      -- A country that comes twice has each brand both before and after each other one.
      have below : ∀ brand ∈ brands, ∀ other ∈ brands, brand ≤ other := by
        intro brand member other listed
        rcases precedes brand member other listed with before | ⟨-, before⟩
        · exact absurd before (String.lt_irrefl country)
        · exact before
      exact fun brand member other listed =>
        String.le_antisymm (below brand member other listed) (below other listed brand member)
  · rintro (nodup | single)
    · refine (ordered.and nodup).imp fun distinct brand _ other _ => ?_
      exact .inl (Std.lt_of_le_of_ne distinct.1 distinct.2)
    · refine ordered.imp fun {first second} before brand member other listed => ?_
      by_cases same : first = second
      · exact .inr ⟨same, single brand member other listed ▸ String.le_refl brand⟩
      · exact .inl (Std.lt_of_le_of_ne before same)

namespace Application

def countries (application : Application) : List String :=
  match application.goods with
  | .certified goods => goods.countries
  | _ => []

def brands (application : Application) : List String :=
  match application.goods with
  | .certified goods => goods.brands
  | _ => []

/-- One subject for each country, or for each country with each brand where brands count. The pairs
are in order unless a country is listed twice and has brands to be listed between. -/
structure Subjects (application : Application) (subjects : List (String × Option String)) :
    Prop where
  plain : application.processType ≠ .goodManufacturing → ∃ countries,
    Sorts application.countries countries ∧ subjects = countries.map (·, none)
  branded : application.processType = .goodManufacturing → ∃ countries brands,
    Sorts application.countries countries ∧ Sorts application.brands brands ∧
      subjects = (pairs countries brands).map (fun pair => (pair.1, some pair.2)) ∧
      ((pairs countries brands).Pairwise Precedes ↔ application.countries.Nodup ∨
        ∀ brand ∈ application.brands, ∀ other ∈ application.brands, brand = other)

theorem certificateSubjects_eq (application : Application) :
    Work.certificateSubjects application =
      (Work.inOrder application.countries).flatMap fun country =>
        if application.processType = .goodManufacturing then
          (Work.inOrder application.brands).map fun brand => (country, some brand)
        else [(country, none)] := by
  have empty : Work.inOrder [] = [] := List.mergeSort_nil
  rw [Work.certificateSubjects, countries, brands]
  cases application.goods with
  | certified => rfl
  | _ => rw [empty, List.flatMap_nil]

theorem subjects (application : Application) :
    application.Subjects (Work.certificateSubjects application) := by
  have countries := sorts_inOrder application.countries
  have brands := sorts_inOrder application.brands
  rw [certificateSubjects_eq]
  constructor
  · intro plain
    refine ⟨_, countries, ?_⟩
    simp only [if_neg plain]
    exact List.map_eq_flatMap.symm
  · intro branded
    refine ⟨_, _, countries, brands, ?_, ?_⟩
    · simp only [if_pos branded, pairs, List.map_flatMap, List.map_map]
      rfl
    · rw [pairwise_precedes_iff countries.ordered brands.ordered, countries.perm.nodup_iff]
      simp only [brands.perm.mem_iff]

end Application

section Refilled

variable {store : Store} {packId : Nat} {new : List Document} {later : Sequences}

theorem Store.documentsOf_refilled (own : ∀ document ∈ new, document.packId = packId)
    (increasing : new.Pairwise fun earlier later => number earlier < number later) :
    (store.refilled packId new later).documentsOf packId = new := by
  let kept := store.documents.keep (·.packId != packId)
  let mine : Document → Bool := (·.packId == packId)
  have none_left : (kept.keep mine).rows = [] := by
    refine List.filter_eq_nil_iff.2 fun document member same => ?_
    exact bne_iff_ne.1 (List.mem_filter.1 member).2 (beq_iff_eq.1 same)
  have filled : (new.foldl Table.insert kept).keep mine = new.foldl Table.insert (kept.keep mine) :=
    Table.keep_foldl_insert kept fun document member => beq_iff_eq.2 (own document member)
  calc (store.refilled packId new later).documentsOf packId
    _ = (new.foldl Table.insert (kept.keep mine)).rows := congrArg Table.rows filled
    _ = (kept.keep mine).rows ++ new := Table.rows_foldl_newest (by rwa [none_left])
    _ = new := by rw [none_left, List.nil_append]

theorem Store.documentsOf_refilled_of_ne (own : ∀ document ∈ new, document.packId = packId)
    {other : Nat} (apart : other ≠ packId) :
    (store.refilled packId new later).documentsOf other =
      (store.documentsOf other).filter fun document => !(new.map (·.id)).contains document.id := by
  let kept := store.documents.keep (·.packId != packId)
  let others : Document → Bool := (·.packId == other)
  have all_left : kept.keep others = store.documents.keep others := by
    refine Table.eq_of_rows ((List.filter_filter ..).trans (List.filter_congr fun document _ => ?_))
    cases theirs : others document with
    | false => rfl
    | true =>
      have named : document.packId = other := beq_iff_eq.1 theirs
      rw [named, bne_iff_ne.2 apart]
      rfl
  have passed : ∀ document ∈ new, others document = false := fun document member =>
    beq_eq_false_iff_ne.2 fun same => apart (same.symm.trans (own document member))
  have filled := congrArg Table.rows (Table.keep_foldl_insert_passed kept passed)
  rw [all_left] at filled
  exact filled

def Store.givesOut (store : Store) (count id : Nat) : Bool :=
  decide (store.lastDocument < id ∧ id ≤ store.lastDocument + count)

theorem Work.Fills.contains_id {context : Context} {application answer : Application}
    {draft : Pack} {sequences later : Sequences} {new : List Document}
    (fills : Work.Fills context application draft store.lastDocument sequences new answer later)
    (id : Nat) : (new.map (·.id)).contains id = store.givesOut new.length id := by
  rw [fills.map_id, List.contains_eq_mem, Store.givesOut]
  refine decide_eq_decide.2 ?_
  rw [List.mem_range'_1]
  omega

end Refilled

def Document.subject (document : Document) : DocumentType × Option String × Option String :=
  (document.documentType, document.country, document.brand)

theorem map_subject_certificates (packId : Nat) (series : String) (year : Nat → Int) (last : Nat)
    (sequences : Sequences) (subjects : List (String × Option String)) :
    (certificates packId series year last sequences subjects).map Document.subject =
      subjects.map fun subject => (.certificate, some subject.1, subject.2) := by
  induction subjects generalizing year last sequences with
  | nil => rfl
  | cons subject subjects ih =>
    rw [certificates_cons, List.map_cons, ih]
    rfl

structure Renews (isImport : Bool) (documents renewed : List Document) : Prop where
  subjects : renewed.map Document.subject = documents.map Document.subject
  licence : isImport = true → renewed.map (·.reference) = documents.map (·.reference)

-- Sequences are kept in words of 32 bits.
def Sequences.largest : Nat := 4294967295

def Sequences.Fit (sequences : Sequences) : Prop :=
  ∀ series year, sequences series year ≤ Sequences.largest

/-- Each certificate of a call bears the next number of the year that the clock shows when it is
drawn; in one year these follow each other. -/
structure Work.Draws (context : Context) (sequences : Sequences) (series : String)
    (new : List Document) : Prop where
  each : ∀ index document, new[index]? = some document → ∃ number ≤ Sequences.largest,
    number = sequences.nth series context.year index ∧
      document.reference = some (Reference.yearly series (context.year index) number)
  consecutive : ∀ year, (∀ index < new.length, context.year index = year) →
    new.map (·.reference) = (List.range' (sequences series (some year) + 1) new.length).map
      fun number => some (Reference.yearly series year number)

theorem Sequences.advance_le (sequences : Sequences) (series : String) (year : Option Int)
    (other : String) (period : Option Int) :
    sequences.advance series year other period ≤ sequences other period + 1 := by
  unfold advance
  split
  next same =>
    obtain ⟨rfl, rfl⟩ := same
    exact Nat.le_refl _
  next => exact Nat.le_succ _

namespace Work

variable {context : Context} {application answer : Application} {draft : Pack} {last : Nat}
  {sequences later : Sequences} {new : List Document}

theorem Fills.later_le (fills : Fills context application draft last sequences new answer later)
    (series : String) (year : Option Int) :
    later series year ≤ sequences series year + new.length := by
  cases fills with
  | licence imported numbers =>
    cases numbers with
    | kept => exact Nat.le_add_right _ _
    | drawn => exact Nat.le_succ_of_le (sequences.advance_le _ _ series year)
  | certificates =>
    rw [Casework.certificates, List.length_mapIdx]
    exact sequences.advanceOver_le _ _ _ series year

theorem Fills.draws (fills : Fills context application draft last sequences new answer later)
    (fit : later.Fit) (exported : application.isImport = false) :
    ∃ series, Reference.certificateSeries application.processType = .ok series ∧
      Draws context sequences series new := by
  cases fills with
  | licence imported => cases exported.symm.trans imported
  | @certificates series _ known =>
    refine ⟨series, known, fun index document listed => ?_, fun year one => ?_⟩
    · rw [Casework.certificates, List.getElem?_mapIdx, Option.map_eq_some_iff] at listed
      obtain ⟨subject, found, rfl⟩ := listed
      obtain ⟨bound, -⟩ := List.getElem?_eq_some_iff.1 found
      have drawn := sequences.nth_le_advanceOver series context.year bound
      exact ⟨_, Nat.le_trans drawn (fit _ _), rfl, rfl⟩
    · refine List.ext_getElem (by simp) fun index bound _ => ?_
      rw [List.length_map] at bound
      have shown : ∀ earlier ≤ index, context.year earlier = year := fun earlier before =>
        one earlier (Nat.lt_of_le_of_lt before bound)
      simp only [Casework.certificates, List.getElem_map, List.getElem_mapIdx,
        List.getElem_range', Document.filed, shown index (Nat.le_refl index),
        sequences.nth_of_one_year series context.year shown]
      congr 2
      omega

-- The licence of an import is written anew under the number that it has, so only certificates draw.
theorem Fills.again (fills : Fills context application draft last sequences new answer later)
    (another : Context) {next : Pack} (same : next.paperOnly = draft.paperOnly) (count : Nat)
    (others : Sequences) :
    ∃ renewed final, Fills another answer next count others renewed answer final ∧
      (∀ series year, final series year ≤
        others series year + (certificateSubjects application).length) ∧
      Renews application.isImport new renewed := by
  cases fills with
  | licence imported numbers written =>
    exact ⟨_, _, .licence imported (.kept rfl) (same ▸ written), fun _ _ => Nat.le_add_right _ _,
      rfl, fun _ => rfl⟩
  | certificates exported known =>
    refine ⟨_, _, .certificates exported known, others.advanceOver_le _ _ _, ?_,
      fun imported => ?_⟩
    · rw [map_subject_certificates, map_subject_certificates]
    · cases exported.symm.trans imported

end Work

/-- A filled draft holds its new documents and no others. Of the documents of another pack, those
are gone that have the numbers given to new ones, which are none where all numbers stay below their
counter. To fill a draft of the case again renews what it holds. -/
theorem draft_filled {context : Context} {application answer : Application} {desk after : Desk}
    (ran : Work.createDocuments application context desk = (.ok answer, after))
    (fit : after.store.sequences.Fit) :
    ∃ draft new, desk.store.singlePack application.id .draft = .ok draft ∧
      after.store.documentsOf draft.id = new ∧
      Work.Fills context application draft desk.store.lastDocument desk.store.sequences new answer
        after.store.sequences ∧
      (application.isImport = false → ∃ series,
        Reference.certificateSeries application.processType = .ok series ∧
          Work.Draws context desk.store.sequences series new) ∧
      application.Subjects (Work.certificateSubjects application) ∧
      (∀ packId, packId ≠ draft.id → after.store.documentsOf packId =
        (desk.store.documentsOf packId).filter fun document =>
          !desk.store.givesOut new.length document.id) ∧
      (desk.store.Listed → ∀ packId, packId ≠ draft.id →
        after.store.documentsOf packId = desk.store.documentsOf packId) ∧
      ∀ another later next, later.store.singlePack application.id .draft = .ok next →
        next.paperOnly = draft.paperOnly →
        (∀ series year, later.store.sequences series year +
          (Work.certificateSubjects application).length ≤ Sequences.largest) →
          ∃ final, Work.createDocuments answer another later = (.ok answer, final) ∧
            final.store.sequences.Fit ∧
            Renews application.isImport new (final.store.documentsOf next.id) := by
  obtain ⟨draft, new, sequences, only, fills, rfl⟩ := Work.createDocuments_eq_ok_iff.1 ran
  have own : ∀ document ∈ new, document.packId = draft.id := fun _ member => (fills.filed member).1
  have others : ∀ packId, packId ≠ draft.id →
      (desk.store.refilled draft.id new sequences).documentsOf packId =
        (desk.store.documentsOf packId).filter fun document =>
          !desk.store.givesOut new.length document.id := by
    intro packId apart
    simp only [Store.documentsOf_refilled_of_ne own apart, fills.contains_id]
  refine ⟨draft, new, only, Store.documentsOf_refilled own fills.increasing, fills,
    fills.draws fit, application.subjects, others, fun listed packId apart => ?_,
    fun another later next also same room => ?_⟩
  · rw [others packId apart]
    refine List.filter_eq_self.2 fun document member => ?_
    have below := listed document (List.mem_filter.1 member).1
    rw [Bool.not_eq_true', Store.givesOut, decide_eq_false_iff_not]
    omega
  · obtain ⟨renewed, final, refills, drawn, renews⟩ := fills.again another same
      later.store.lastDocument later.store.sequences
    have named : later.store.singlePack answer.id .draft = .ok next := by rwa [fills.id_eq]
    refine ⟨_, Work.createDocuments_eq_ok_iff.2 ⟨next, renewed, final, named, refills, rfl⟩,
      fun series year => Nat.le_trans (drawn series year) (room series year), ?_⟩
    · have held : (later.store.refilled next.id renewed final).documentsOf next.id = renewed :=
        Store.documentsOf_refilled (fun _ member => (refills.filed member).1) refills.increasing
      rw [held]
      exact renews

namespace Sample

def noon : Context where
  now := (step false .failedLicences).setting.now
  clock := fun _ => (step false .failedLicences).setting.now
  sendsLicences := false
  searchLimit := 200
  transport := fun _ => none
  available := true

-- The year turns after the first reference.
def newYear : Context :=
  { noon with clock := fun reading =>
      if reading = 0 then noon.now
      else { noon.now with date := { year := 2025, month := 1, day := 1 } } }

def cosmetics (countries : List String) : Application :=
  NewApplication.toApplication ⟨.goodManufacturing, user, "Acme Ltd", none, none,
    some (.certified ⟨countries, ["United Kingdom"], ["Beta", "Alpha"]⟩)⟩ 1 noon.now

def blank : Pack := .drafted 1 1 ⟨none, none, none⟩ noon.now

def drawer (lastDocument : Nat) : Desk where
  store := { Store.empty with
    packs := (Table.empty.insert blank).insert (.drafted 2 2 ⟨none, none, none⟩ noon.now)
    documents := Table.empty.insert
      (.filed 1 2 .certificate (some "COM/2024/00001") (some "Japan") none)
    lastDocument }
  accepted := []

theorem cosmetics_subjects {countries sorted : List String} (sorts : Sorts countries sorted) :
    Work.certificateSubjects (cosmetics countries) =
      sorted.flatMap fun country => [(country, some "Alpha"), (country, some "Beta")] := by
  have given : Work.inOrder (cosmetics countries).countries = sorted :=
    (sorts_inOrder countries).unique sorts
  have ordered : Sorts ["Beta", "Alpha"] ["Alpha", "Beta"] := ⟨by decide, by decide⟩
  have brands : Work.inOrder (cosmetics countries).brands = ["Alpha", "Beta"] :=
    (sorts_inOrder _).unique ordered
  rw [Application.certificateSubjects_eq, given, brands]
  rfl

theorem blank_fills (context : Context) {countries sorted : List String}
    (sorts : Sorts countries sorted) (lastDocument : Nat) :
    ∃ later, Work.Fills context (cosmetics countries) blank lastDocument .unused
      (certificates 1 "GMP" context.year lastDocument .unused
        (sorted.flatMap fun country => [(country, some "Alpha"), (country, some "Beta")]))
      (cosmetics countries) later := by
  rw [← cosmetics_subjects sorts]
  exact ⟨_, .certificates rfl rfl⟩

end Sample

theorem cosmetics_filled :
    ∃ after, Work.createDocuments (Sample.cosmetics ["Japan", "Brazil"]) Sample.noon
        (Sample.drawer 1) = (.ok (Sample.cosmetics ["Japan", "Brazil"]), after) ∧
      after.store.sequences.Fit ∧
      (after.store.documentsOf Sample.blank.id).map (fun document =>
        (document.id, document.reference, document.country, document.brand)) =
          [(2, some "GMP/2024/00001", some "Brazil", some "Alpha"),
            (3, some "GMP/2024/00002", some "Brazil", some "Beta"),
            (4, some "GMP/2024/00003", some "Japan", some "Alpha"),
            (5, some "GMP/2024/00004", some "Japan", some "Beta")] ∧
      after.store.documentsOf 2 = (Sample.drawer 1).store.documentsOf 2 := by
  obtain ⟨later, fills⟩ := Sample.blank_fills Sample.noon
    (show Sorts ["Japan", "Brazil"] ["Brazil", "Japan"] from ⟨by decide, by decide⟩) 1
  have ran : Work.createDocuments (Sample.cosmetics ["Japan", "Brazil"]) Sample.noon
      (Sample.drawer 1) = (.ok _, _) :=
    Work.createDocuments_eq_ok_iff.2 ⟨Sample.blank, _, later, rfl, fills, rfl⟩
  have fit : later.Fit := fun series year =>
    Nat.le_trans (fills.later_le series year) (show 0 + 4 ≤ Sequences.largest by decide)
  obtain ⟨draft, -, only, -, -, -, -, -, kept, -⟩ := draft_filled ran fit
  obtain rfl : Sample.blank = draft := Except.ok.inj only
  have listed : (Sample.drawer 1).store.Listed := by
    unfold Store.Listed
    decide
  refine ⟨_, ran, fit, ?_, kept listed 2 (by decide)⟩
  dsimp only
  rw [Store.documentsOf_refilled (fun _ member => (fills.filed member).1) fills.increasing]
  decide +kernel

/-- A country that is listed twice breaks the order of the pairs, a year that turns breaks the
numbers, and a counter that stays behind takes a certificate from another pack. -/
theorem certificates_misplaced :
    ∃ after, Work.createDocuments (Sample.cosmetics ["France", "France"]) Sample.newYear
        (Sample.drawer 0) = (.ok (Sample.cosmetics ["France", "France"]), after) ∧
      (after.store.documentsOf Sample.blank.id).map (fun document =>
        (document.reference, document.country, document.brand)) =
          [(some "GMP/2024/00001", some "France", some "Alpha"),
            (some "GMP/2025/00001", some "France", some "Beta"),
            (some "GMP/2025/00002", some "France", some "Alpha"),
            (some "GMP/2025/00003", some "France", some "Beta")] ∧
      ¬ [("France", "Alpha"), ("France", "Beta"), ("France", "Alpha"),
        ("France", "Beta")].Pairwise Precedes ∧
      (Sample.drawer 0).store.documentsOf 2 ≠ [] ∧ after.store.documentsOf 2 = [] := by
  obtain ⟨later, fills⟩ := Sample.blank_fills Sample.newYear
    (show Sorts ["France", "France"] ["France", "France"] from ⟨by decide, by decide⟩) 0
  refine ⟨_, Work.createDocuments_eq_ok_iff.2 ⟨Sample.blank, _, later, rfl, fills, rfl⟩, ?_, ?_, ?_,
    ?_⟩
  · dsimp only
    rw [Store.documentsOf_refilled (fun _ member => (fills.filed member).1) fills.increasing]
    decide +kernel
  · unfold Precedes
    decide
  · decide
  · dsimp only
    rw [Store.documentsOf_refilled_of_ne (fun _ member => (fills.filed member).1) (by decide)]
    decide +kernel

end Casework
