import Casework.Proofs.CaseFile.Run
import Mathlib.Data.List.Nodup

set_option autoImplicit false

namespace Casework

open Calendar
open Numbered (number)

theorem Table.filterMap_find? {α : Type} [Numbered α] {table : Table α} {rows : List α}
    (stored : ∀ row ∈ rows, row ∈ table.rows) :
    (rows.map number).filterMap table.find? = rows := by
  rw [List.filterMap_map]
  have each : ∀ row ∈ rows, (table.find? ∘ number) row = some row :=
    fun row member => find?_eq_some_iff.2 ⟨stored row member, rfl⟩
  exact (List.filterMap_congr each).trans List.filterMap_some

namespace Listing

variable {listing other third : Listing}

theorem isBefore_iff : listing.isBefore other = true ↔
    other.ordered.rank < listing.ordered.rank ∨
      other.ordered.rank ≤ listing.ordered.rank ∧ other.id ≤ listing.id := by
  simp only [isBefore, Bool.or_eq_true, Bool.and_eq_true, decide_eq_true_eq]
  exact Iff.rfl

theorem isBefore_trans (first : listing.isBefore other = true)
    (second : other.isBefore third = true) : listing.isBefore third = true := by
  rw [isBefore_iff] at *
  omega

theorem isBefore_total (listing other : Listing) :
    (listing.isBefore other || other.isBefore listing) = true := by
  rw [Bool.or_eq_true, isBefore_iff, isBefore_iff]
  omega

theorem id_eq_of_isBefore (first : listing.isBefore other = true)
    (second : other.isBefore listing = true) : listing.id = other.id := by
  rw [isBefore_iff] at *
  omega

theorem isBefore_strict (before : listing.isBefore other = true) (apart : listing.id ≠ other.id) :
    other.ordered < listing.ordered ∨
      other.ordered = listing.ordered ∧ other.id < listing.id := by
  rw [isBefore_iff] at before
  by_cases same : other.ordered.rank = listing.ordered.rank
  · exact .inr ⟨Instant.rank_inj same, by omega⟩
  · exact .inl (show other.ordered.rank < listing.ordered.rank by omega)

end Listing

section Sorting

variable {α : Type} {listing : α → Listing}

theorem newestFirst_perm (listing : α → Listing) (items : List α) :
    (newestFirst listing items).Perm items :=
  List.mergeSort_perm _ _

theorem pairwise_newestFirst (listing : α → Listing) (items : List α) :
    (newestFirst listing items).Pairwise fun item other =>
      (listing item).isBefore (listing other) = true := by
  have trans (item other third : α) (first : (listing item).isBefore (listing other) = true)
      (second : (listing other).isBefore (listing third) = true) :
      (listing item).isBefore (listing third) = true :=
    Listing.isBefore_trans first second
  exact List.pairwise_mergeSort trans (fun _ _ => Listing.isBefore_total _ _) items

theorem newestFirst_eq_of_perm {items ordered : List α} (perm : items.Perm ordered)
    (pairwise : ordered.Pairwise fun item other => (listing item).isBefore (listing other) = true)
    (apart : ∀ item ∈ ordered, ∀ other ∈ ordered,
      (listing item).id = (listing other).id → item = other) :
    newestFirst listing items = ordered := by
  have same : (newestFirst listing items).Perm ordered := (newestFirst_perm _ _).trans perm
  refine same.eq_of_pairwise (fun item other item_mem other_mem first second => ?_)
    (pairwise_newestFirst listing items) pairwise
  exact apart item (same.mem_iff.1 item_mem) other other_mem
    (Listing.id_eq_of_isBefore first second)

end Sorting

section Page

variable {terms : SearchTerms} {store : Store} {today : Date} {applications : List Application}

def SearchTerms.row (terms : SearchTerms) (store : Store) (today : Date)
    (application : Application) : ResultRow :=
  (Finding.of store application).row store terms.caseType today

theorem SearchTerms.listing_row (terms : SearchTerms) (store : Store) (today : Date)
    (application : Application) :
    (terms.row store today application).listing = application.listing := by
  unfold row Finding.row
  cases terms.caseType <;> rfl

theorem findings_of_stored {processType : ProcessType}
    (stored : ∀ application ∈ applications, application ∈ store.applications.rows) :
    store.findings processType
        ((applications.filter (·.processType == processType)).map (·.id)) =
      (applications.filter (·.processType == processType)).map (Finding.of store) := by
  have looked : ((applications.filter (·.processType == processType)).map (·.id)).filterMap
      store.applications.find? = applications.filter (·.processType == processType) :=
    Table.filterMap_find? fun row member => stored row (List.mem_filter.1 member).1
  rw [Store.findings, looked, List.filter_filter]
  simp only [Bool.and_self]

theorem perm_byType (nodup : applications.Nodup) :
    (ProcessType.all.flatMap fun processType =>
      applications.filter (·.processType == processType)).Perm applications := by
  have grouped : (ProcessType.all.flatMap fun processType =>
      applications.filter (·.processType == processType)).Nodup := by
    refine List.nodup_flatMap.2 ⟨fun processType _ => nodup.filter _, ?_⟩
    have types : ProcessType.all.Pairwise (· ≠ ·) := by decide
    refine types.imp fun different application first second => different ?_
    rw [← eq_of_beq (List.mem_filter.1 first).2, ← eq_of_beq (List.mem_filter.1 second).2]
  refine (List.perm_ext_iff_of_nodup grouped nodup).2 fun application => ?_
  simp [List.mem_flatMap, ProcessType.mem_all]

theorem rows_eq_map
    (stored : ∀ application ∈ applications, application ∈ store.applications.rows)
    (nodup : applications.Nodup)
    (ordered : applications.Pairwise fun application other =>
      application.listing.isBefore other.listing = true) :
    terms.rows store today applications = applications.map (terms.row store today) := by
  have looked : (ProcessType.all.flatMap fun processType => store.findings processType
        ((applications.filter (·.processType == processType)).map (·.id))).map
          (·.row store terms.caseType today) =
      (ProcessType.all.flatMap fun processType =>
        applications.filter (·.processType == processType)).map (terms.row store today) := by
    simp only [findings_of_stored stored, ← List.map_flatMap, List.map_map]
    rfl
  unfold SearchTerms.rows
  rw [looked]
  refine newestFirst_eq_of_perm ((perm_byType nodup).map _) ?_ ?_
  · refine List.pairwise_map.2 (ordered.imp fun before => ?_)
    rwa [SearchTerms.listing_row, SearchTerms.listing_row]
  · intro row row_mem other other_mem same
    obtain ⟨application, member, rfl⟩ := List.mem_map.1 row_mem
    obtain ⟨another, another_mem, rfl⟩ := List.mem_map.1 other_mem
    rw [SearchTerms.listing_row, SearchTerms.listing_row] at same
    rw [Table.eq_of_number_eq (stored _ member) (stored _ another_mem) same]

end Page

section Found

variable {terms : SearchTerms} {store : Store} {status : Option StatusFilter}
  {found : List Application}

theorem found_eq_ok_iff : terms.found store = .ok found ↔
    ∃ status, terms.statusFilter = .ok status ∧
      newestFirst Application.listing
        (store.applications.rows.filter (terms.admits status store)) = found := by
  unfold SearchTerms.found
  cases terms.statusFilter <;> simp [bind, Except.bind, pure, Except.pure]

theorem exists_found (compiles : terms.statusFilter = .ok status) (store : Store) :
    ∃ found, terms.found store = .ok found :=
  ⟨_, found_eq_ok_iff.2 ⟨status, compiles, rfl⟩⟩

theorem mem_found (compiles : terms.statusFilter = .ok status)
    (searched : terms.found store = .ok found) {application : Application} :
    application ∈ found ↔
      application ∈ store.applications.rows ∧ terms.admits status store application = true := by
  obtain ⟨compiled, same, rfl⟩ := found_eq_ok_iff.1 searched
  obtain rfl := Except.ok.inj (same.symm.trans compiles)
  rw [(newestFirst_perm _ _).mem_iff, List.mem_filter]

theorem stored_of_found (searched : terms.found store = .ok found) {application : Application}
    (member : application ∈ found) : application ∈ store.applications.rows := by
  obtain ⟨status, compiles, -⟩ := found_eq_ok_iff.1 searched
  exact ((mem_found compiles searched).1 member).1

theorem nodup_found (searched : terms.found store = .ok found) :
    (found.map (·.id)).Nodup := by
  obtain ⟨status, -, rfl⟩ := found_eq_ok_iff.1 searched
  refine ((newestFirst_perm _ _).map _).nodup_iff.2 ?_
  refine List.Nodup.sublist (List.filter_sublist.map _) ?_
  have numbers : (store.applications.rows.map number).Nodup :=
    List.pairwise_map.2 (store.applications.increasing.imp Nat.ne_of_lt)
  exact numbers

theorem ordered_found (searched : terms.found store = .ok found) :
    found.Pairwise fun application other =>
      application.listing.isBefore other.listing = true := by
  obtain ⟨status, -, rfl⟩ := found_eq_ok_iff.1 searched
  exact pairwise_newestFirst _ _

theorem newest_first (searched : terms.found store = .ok found) :
    found.Pairwise fun earlier later =>
      later.searchedAt < earlier.searchedAt ∨
        later.searchedAt = earlier.searchedAt ∧ later.id < earlier.id := by
  have apart : found.Pairwise fun earlier later => earlier.id ≠ later.id :=
    List.pairwise_map.1 (nodup_found searched)
  refine ((ordered_found searched).and apart).imp fun {earlier later} both => ?_
  exact @Listing.isBefore_strict earlier.listing later.listing both.1 both.2

theorem results_of_found (searched : terms.found store = .ok found) (today : Date) (limit : Nat) :
    terms.results store today limit =
      .ok ⟨found.length, (found.take limit).map (terms.row store today)⟩ := by
  have rows : terms.rows store today (found.take limit) =
      (found.take limit).map (terms.row store today) :=
    rows_eq_map (fun _ member => stored_of_found searched (List.mem_of_mem_take member))
      ((List.Nodup.of_map _ (nodup_found searched)).sublist (List.take_sublist _ _))
      ((ordered_found searched).sublist (List.take_sublist _ _))
  simp only [SearchTerms.results, searched, bind, Except.bind, pure, Except.pure, rows]

end Found

/-- A search lists what matches it once, the newest first, and shows the beginning of that list, up
to the limit, under the length of the whole. Each row stands for its application, under its number
and in its place of the order. -/
theorem search_pages (terms : SearchTerms) (store : Store) (today : Date)
    {status : Option StatusFilter} (compiles : terms.statusFilter = .ok status) :
    ∃ found, terms.found store = .ok found ∧
      (∀ application, application ∈ found ↔ application ∈ store.applications.rows ∧
        terms.admits status store application = true) ∧
      (found.map (·.id)).Nodup ∧
      (found.Pairwise fun earlier later =>
        later.searchedAt < earlier.searchedAt ∨
          later.searchedAt = earlier.searchedAt ∧ later.id < earlier.id) ∧
      (∀ limit, terms.results store today limit =
        .ok ⟨found.length, (found.take limit).map (terms.row store today)⟩) ∧
      (∀ limit page, terms.results store today limit = .ok page →
        page.rows.map ResultRow.listing = (found.take limit).map Application.listing) ∧
      ∀ fewer more page longer, fewer ≤ more →
        terms.results store today fewer = .ok page →
        terms.results store today more = .ok longer → page.rows <+: longer.rows := by
  obtain ⟨found, searched⟩ := exists_found compiles store
  have cut := results_of_found searched today
  refine ⟨found, searched, fun _ => mem_found compiles searched, nodup_found searched,
    newest_first searched, cut, ?_, ?_⟩
  · intro limit page shown
    obtain rfl := Except.ok.inj ((cut limit).symm.trans shown)
    rw [List.map_map]
    exact List.map_congr_left fun application _ => terms.listing_row store today application
  · intro fewer more page longer fewer_le shown shown_more
    obtain rfl := Except.ok.inj ((cut fewer).symm.trans shown)
    obtain rfl := Except.ok.inj ((cut more).symm.trans shown_more)
    exact (List.take_prefix_take_left fewer_le).map _

namespace Sample

def pair : Store :=
  let another : List Operation :=
    [.create user ⟨.freeSale, user, "Acme Ltd", none, none, some (.certified ⟨["Norway"], [], []⟩)⟩,
      .submit .exporting 2 user]
  (System.initial.follow ((certificate ++ another).map (step false))).store

def exports : SearchTerms := { caseType := .exporting }

def today : Date := { year := 2024, month := 3, day := 1 }

theorem pair_found : exports.found pair = .ok pair.applications.rows.reverse := by
  have all : ∀ application ∈ pair.applications.rows, exports.admits none pair application := by
    decide +kernel
  have ordered : pair.applications.rows.reverse.Pairwise fun application other =>
      application.listing.isBefore other.listing = true := by
    decide +kernel
  refine found_eq_ok_iff.2 ⟨none, rfl, ?_⟩
  rw [List.filter_eq_self.2 all]
  exact newestFirst_eq_of_perm (List.reverse_perm _).symm ordered
    fun application member other other_mem =>
      Table.eq_of_number_eq (List.mem_reverse.1 member) (List.mem_reverse.1 other_mem)

end Sample

theorem pair_paged :
    Sample.exports.statusFilter = .ok none ∧
      (Sample.exports.found Sample.pair).map (·.map (·.id)) = .ok [2, 1] ∧
      ∃ page, Sample.exports.results Sample.pair Sample.today 1 = .ok page ∧
        page.total = 2 ∧ page.rows.map (·.listing.id) = [2] := by
  obtain ⟨found, searched, -, -, -, cut, -⟩ :=
    search_pages Sample.exports Sample.pair Sample.today rfl
  obtain rfl := Except.ok.inj (Sample.pair_found.symm.trans searched)
  have numbers : Sample.pair.applications.rows.reverse.map (·.id) = [2, 1] := by decide +kernel
  have total : Sample.pair.applications.rows.reverse.length = 2 := by decide +kernel
  refine ⟨rfl, ?_, _, cut 1, total, ?_⟩
  · rw [Sample.pair_found]
    exact congrArg _ numbers
  · decide +kernel

end Casework
