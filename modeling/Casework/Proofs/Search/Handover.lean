import Casework.Proofs.Case.Closing
import Casework.Proofs.Case.Particulars
import Casework.Proofs.Document.Filled
import Casework.Proofs.Packs.Latest
import Casework.Proofs.Search.Commodities

set_option autoImplicit false

namespace Casework

open Calendar
open Numbered (number)

theorem Table.find?_mapRows {α : Type} [Numbered α] (table : Table α) (change : α → α)
    (same : ∀ row, number (change row) = number row) (id : Nat) :
    (table.mapRows change same).find? id = (table.find? id).map change := by
  have numbers : (number · == id) ∘ change = (number · == id) := by
    funext row
    simp only [Function.comp, same]
  simp only [find?, mapRows, List.find?_map, numbers]

def Application.heldBy (application : Application) (owner : User) : Application :=
  { application with owner := some owner }

theorem Application.id_heldBy (application : Application) (owner : User) :
    (application.heldBy owner).id = application.id := rfl

namespace Store

/-- There is such a case, and it is of the type. -/
def keeps (store : Store) (caseType : CaseType) (id : Nat) : Bool :=
  (store.applications.find? id).any (·.caseType == caseType)

def isProcessed (store : Store) (id : Nat) : Bool :=
  (store.applications.find? id).any fun application =>
    decide (application.status ∈ processingStates)

def isUntaken (store : Store) (id : Nat) : Bool :=
  (store.applications.find? id).any fun application =>
    application.status == .variationRequested && application.owner.isNone

def handOver (store : Store) (ids : List Nat) (owner : User) : Store :=
  { store with
    applications := store.applications.mapRows
      (fun application => if application.id ∈ ids then application.heldBy owner else application)
      fun application => by split <;> rfl }

variable {store : Store} {caseType : CaseType} {id : Nat} {owner : User}

theorem with_applications_eq {first second : Table Application}
    (same : ∀ id, first.find? id = second.find? id) :
    { store with applications := first } = { store with applications := second } := by
  rw [Table.eq_of_find? same]

theorem handOver_nil : store.handOver [] owner = store := by
  refine with_applications_eq fun id => ?_
  rw [Table.find?_mapRows]
  simp

theorem handOver_append (first later : List Nat) :
    (store.handOver first owner).handOver later owner = store.handOver (first ++ later) owner := by
  refine with_applications_eq fun id => ?_
  simp only [handOver, Table.find?_mapRows, Option.map_map]
  congr 1
  funext application
  by_cases early : application.id ∈ first <;> by_cases late : application.id ∈ later <;>
    simp [early, late, Application.heldBy]

theorem insert_heldBy {application : Application}
    (stored : store.applications.find? id = some application) :
    { store with applications := store.applications.insert (application.heldBy owner) } =
      store.handOver [id] owner := by
  have mine : number (application.heldBy owner) = id := (Table.find?_eq_some_iff.1 stored).2
  refine with_applications_eq fun other => ?_
  rw [Table.find?_insert, Table.find?_mapRows]
  by_cases same : id = other
  · subst same
    have listed : application.id ∈ [id] := List.mem_singleton.2 mine
    rw [if_pos mine, stored, Option.map_some, if_pos listed]
  · rw [if_neg fun equal => same (mine.symm.trans equal)]
    cases found : store.applications.find? other with
    | none => rfl
    | some row =>
      have apart : row.id ≠ id := fun equal =>
        same (equal.symm.trans (Table.find?_eq_some_iff.1 found).2)
      rw [Option.map_some, if_neg (mt List.mem_singleton.1 apart)]

theorem any_handOver (ids : List Nat) {test : Application → Bool}
    (same : ∀ application : Application, test (application.heldBy owner) = test application) :
    ((store.handOver ids owner).applications.find? id).any test =
      (store.applications.find? id).any test := by
  simp only [handOver, Table.find?_mapRows]
  cases store.applications.find? id with
  | none => rfl
  | some application =>
    simp only [Option.map_some, Option.any_some]
    split
    · exact same application
    · rfl

theorem keeps_handOver (ids : List Nat) :
    (store.handOver ids owner).keeps caseType = store.keeps caseType :=
  funext fun _ => any_handOver ids fun _ => rfl

theorem isProcessed_handOver (ids : List Nat) :
    (store.handOver ids owner).isProcessed = store.isProcessed :=
  funext fun _ => any_handOver ids fun _ => rfl

theorem keeps_iff : store.keeps caseType id = true ↔
    ∃ application, store.applications.find? id = some application ∧
      application.caseType = caseType := by
  simp [keeps, Option.any_eq_true]

theorem isUntaken_of_unprocessed (unprocessed : ¬ store.isProcessed id = true) :
    store.isUntaken id = false := by
  unfold isProcessed at unprocessed
  unfold isUntaken
  cases found : store.applications.find? id with
  | none => rfl
  | some application =>
    have varied : application.status ≠ .variationRequested := by
      intro same
      simp [found, same, processingStates] at unprocessed
    simp [varied]

end Store

namespace Work

variable {context : Context} {desk : Desk} {caseType : CaseType} {owner : User} {id : Nat}
  {ids : List Nat}

theorem bind_of_ok {α β : Type} {first : Work α} {next : α → Work β} {middle : α} {between : Desk}
    (ran : first context desk = (.ok middle, between)) :
    (first >>= next) context desk = next middle context between := by
  rw [bind_def, andThen, ran]

theorem load_missing (available : context.available = true)
    (missing : desk.store.keeps caseType id = false) :
    load caseType id context desk = (.error (.repository (.notFound id)), desk) := by
  have entered : enter context desk = (.ok (), desk) := enter_eq_ok_iff.2 ⟨available, rfl⟩
  rw [load, bind_of_ok entered, bind_eq_error_iff]
  cases found : desk.store.applications.find? id with
  | none => exact .inl (findApplication_eq_error_iff.2 ⟨found, rfl, rfl⟩)
  | some application =>
    have other : (application.caseType == caseType) = false := by
      simpa [Store.keeps, found] using missing
    refine .inr ⟨application, desk, findApplication_eq_ok_iff.2 ⟨found, rfl⟩, ?_⟩
    exact bind_eq_error_iff.2 (.inl (require_eq_error_iff.2 ⟨other, rfl, rfl⟩))

theorem reassignEach_cons (available : context.available = true)
    (kept : desk.store.keeps caseType id = true) :
    let first := [id].filter desk.store.isProcessed
    let rest := reassignEach caseType owner ids context
      { desk with store := desk.store.handOver first owner }
    reassignEach caseType owner (id :: ids) context desk = (rest.1.map (first ++ ·), rest.2) := by
  obtain ⟨application, stored, kind⟩ := Store.keeps_iff.1 kept
  have loaded : load caseType id context desk = (.ok application, desk) :=
    load_eq_ok_iff.2 ⟨available, stored, kind, rfl⟩
  intro first
  rw [reassignEach, bind_of_ok loaded]
  by_cases stage : application.status ∈ processingStates
  · have processed : first = [id] :=
      List.filter_cons_of_pos (by simpa [Store.isProcessed, stored] using stage)
    have saved : save (application.heldBy owner) context desk =
        (.ok (), { desk with store := desk.store.handOver [id] owner }) := by
      refine save_eq_ok_iff.2 ⟨?_, by rw [Store.insert_heldBy stored]⟩
      have mine : application.id = id := (Table.find?_eq_some_iff.1 stored).2
      rw [Table.contains, application.id_heldBy, mine, stored]
      rfl
    rw [if_pos stage, processed]
    refine (bind_of_ok saved).trans ?_
    rw [bind_def, andThen]
    rcases reassignEach caseType owner ids context
      { desk with store := desk.store.handOver [id] owner } with ⟨error | others, after⟩ <;> rfl
  · have unprocessed : first = [] :=
      List.filter_cons_of_neg (by simpa [Store.isProcessed, stored] using stage)
    rw [if_neg stage, unprocessed, Store.handOver_nil]
    rcases reassignEach caseType owner ids context desk with ⟨error | others, after⟩ <;> rfl

theorem reassignEach_ok (available : context.available = true)
    (kept : ∀ id ∈ ids, desk.store.keeps caseType id = true) :
    reassignEach caseType owner ids context desk =
      (.ok (ids.filter desk.store.isProcessed),
        { desk with store := desk.store.handOver (ids.filter desk.store.isProcessed) owner }) := by
  induction ids generalizing desk with
  | nil =>
    rw [List.filter_nil, Store.handOver_nil]
    rfl
  | cons id ids ih =>
    obtain ⟨first, others⟩ := List.forall_mem_cons.1 kept
    let handed := desk.store.handOver ([id].filter desk.store.isProcessed) owner
    have rest := @ih { desk with store := handed } fun other member => by
      rw [Store.keeps_handOver]
      exact others other member
    have parts : (id :: ids).filter desk.store.isProcessed =
        [id].filter desk.store.isProcessed ++ ids.filter desk.store.isProcessed := by
      rw [← List.filter_append, List.singleton_append]
    rw [reassignEach_cons available first, rest, parts]
    simp only [handed, Store.isProcessed_handOver, Store.handOver_append, Except.map]

theorem reassign_eq (available : context.available = true) :
    reassign caseType ids owner context desk = reassignEach caseType owner ids context desk :=
  have entered : enter context desk = (.ok (), desk) := enter_eq_ok_iff.2 ⟨available, rfl⟩
  bind_of_ok entered

-- One case that is not there, or not of the type, refuses those that come before it too.
theorem reassignEach_refused (available : context.available = true)
    (found : ids.find? (!desk.store.keeps caseType ·) = some id) :
    ∃ store, reassignEach caseType owner ids context desk =
      (.error (.repository (.notFound id)), { desk with store := store }) := by
  induction ids generalizing desk with
  | nil => cases found
  | cons head ids ih =>
    rw [List.find?_cons] at found
    cases kept : desk.store.keeps caseType head with
    | false =>
      rw [kept] at found
      obtain rfl := Option.some.inj found
      exact ⟨desk.store, bind_eq_error_iff.2 (.inl (load_missing available kept))⟩
    | true =>
      rw [kept] at found
      let handed := desk.store.handOver ([head].filter desk.store.isProcessed) owner
      obtain ⟨store, rest⟩ := @ih { desk with store := handed } (by
        rw [Store.keeps_handOver]
        exact found)
      exact ⟨store, by rw [reassignEach_cons available kept, rest]; rfl⟩

end Work

namespace SearchTerms

def toHandOver (caseType : CaseType) : SearchTerms := { caseType, forReassignment := true }

theorem admits_toHandOver (caseType : CaseType) (store : Store) (application : Application) :
    (toHandOver caseType).admits none store application =
      (application.caseType == caseType && application.isReassignable &&
        (caseType == .exporting || application.submitted.isSome)) := by
  rw [toHandOver, admits_of_few, Bool.not_true, Bool.false_or]
  simp [admitsCommodityCode, passesPattern, passes, filledIn]

end SearchTerms

section Found

variable (steps : List Step) {caseType : CaseType} {found : List Application}

-- A case that is in process has an owner, but a variation may have none.
theorem isReassignable_iff {file : CaseFile} {id : Nat}
    (filed : (System.initial.follow steps).store.fileOf id = some file) :
    file.application.isReassignable = true ↔
      file.application.status ∈ processingStates ∧
        ¬ (file.application.status = .variationRequested ∧ file.application.owner = none) := by
  have taken := (CaseFile.facts_fit steps filed).owner.taken
  cases status : file.application.status <;>
    simp [Application.isReassignable, processingStates, status, Option.isSome_iff_ne_none]
      at taken ⊢
  exact taken

theorem admits_toHandOver_iff {id : Nat} {file : CaseFile}
    (filed : (System.initial.follow steps).store.fileOf id = some file) :
    (SearchTerms.toHandOver file.application.caseType).admits none
        (System.initial.follow steps).store file.application = true ↔
      file.application.isReassignable = true := by
  rw [SearchTerms.admits_toHandOver, beq_self_eq_true, Bool.true_and, Bool.and_eq_true,
    and_iff_left_iff_imp]
  intro reassignable
  have stage := ((isReassignable_iff steps filed).1 reassignable).1
  have old : file.application.status ≠ .inProgress := by
    intro new
    simp [new, processingStates] at stage
  rw [((CaseFile.facts_fit steps filed).handedIn old).submitted, Bool.or_true]

theorem found_toHandOver_iff (searched : (SearchTerms.toHandOver caseType).found
      (System.initial.follow steps).store = .ok found) {id : Nat}
    (kept : (System.initial.follow steps).store.keeps caseType id = true) :
    found.any (·.id == id) = true ↔
      (System.initial.follow steps).store.isProcessed id = true ∧
        (System.initial.follow steps).store.isUntaken id = false := by
  obtain ⟨application, stored, rfl⟩ := Store.keeps_iff.1 kept
  obtain ⟨file, filed, rfl⟩ := Store.exists_fileOf stored
  obtain ⟨member, named⟩ := Table.find?_eq_some_iff.1 stored
  have listed : found.any (·.id == id) = true ↔ file.application ∈ found := by
    rw [List.any_eq_true]
    constructor
    · rintro ⟨other, listed, same⟩
      have equal : number other = number file.application := (beq_iff_eq.1 same).trans named.symm
      rwa [← Table.eq_of_number_eq (stored_of_found searched listed) member equal]
    · exact fun listed => ⟨_, listed, beq_iff_eq.2 named⟩
  rw [listed, mem_found rfl searched, and_iff_right member, admits_toHandOver_iff steps filed,
    isReassignable_iff steps filed]
  simp [Store.isProcessed, Store.isUntaken, stored, Option.isSome_iff_ne_none]

end Found

namespace System

variable {system : System} {setting : Setting} {caseType : CaseType} {ids : List Nat} {owner : User}
  (available : (setting.around system).available = true)
include available

theorem reassign_refused {id : Nat}
    (first : ids.find? (!system.store.keeps caseType ·) = some id) :
    system.perform setting (.reassign caseType ids owner) =
      (.error (.repository (.notFound id)), system) := by
  have refused : ∃ store, Work.reassign caseType ids owner (setting.around system) system.desk =
      (.error (.repository (.notFound id)), ⟨store, system.accepted⟩) := by
    rw [Work.reassign_eq available]
    exact Work.reassignEach_refused available first
  obtain ⟨store, refused⟩ := refused
  have worked : (Operation.reassign caseType ids owner).work (setting.around system) system.desk =
      (.error (.repository (.notFound id)), ⟨store, system.accepted⟩) :=
    Work.map_eq_error_iff.2 refused
  exact perform_of_error worked

theorem reassign_ok (kept : ∀ id ∈ ids, system.store.keeps caseType id = true) :
    system.perform setting (.reassign caseType ids owner) =
      (.ok (.ids (ids.filter system.store.isProcessed)),
        { system with
          store := system.store.handOver (ids.filter system.store.isProcessed) owner }) := by
  let answer := ids.filter system.store.isProcessed
  have ran : Work.reassign caseType ids owner (setting.around system) system.desk =
      (.ok answer, ⟨system.store.handOver answer owner, system.accepted⟩) := by
    rw [Work.reassign_eq available]
    exact Work.reassignEach_ok available kept
  have worked : (Operation.reassign caseType ids owner).work (setting.around system) system.desk =
      (.ok (.ids answer), ⟨system.store.handOver answer owner, system.accepted⟩) :=
    Work.map_eq_ok_iff.2 ⟨answer, ran, rfl⟩
  exact perform_of_ok worked

end System

/-- Cases are handed over all or none: the first number that is not one of a case of the type
refuses them, and otherwise those in process are given to the caseworker and answered. These are
the ones that the search for cases to hand over finds, unless a variation that nobody has taken is
among them. -/
theorem handed_over {system : System} (reached : Reachable system) (setting : Setting)
    (caseType : CaseType) (ids : List Nat) (owner : User) :
    (∀ id, ids.find? (!system.store.keeps caseType ·) = some id →
      system.perform setting (.reassign caseType ids owner) =
        (.error (.repository (.notFound id)), system)) ∧
    ((∀ id ∈ ids, system.store.keeps caseType id = true) →
      system.perform setting (.reassign caseType ids owner) =
          (.ok (.ids (ids.filter system.store.isProcessed)),
            { system with
              store := system.store.handOver (ids.filter system.store.isProcessed) owner }) ∧
      ∃ found, (SearchTerms.toHandOver caseType).found system.store = .ok found ∧
        (∀ id ∈ ids, found.any (·.id == id) =
          (system.store.isProcessed id && !system.store.isUntaken id)) ∧
        (ids.filter system.store.isProcessed = ids.filter (fun id => found.any (·.id == id)) ↔
          ∀ id ∈ ids, system.store.isUntaken id = false)) := by
  obtain ⟨steps, rfl⟩ := reachable_iff.1 reached
  have available := System.available_follow steps setting
  refine ⟨fun id first => System.reassign_refused available first,
    fun kept => ⟨System.reassign_ok available kept, ?_⟩⟩
  have compiles : (SearchTerms.toHandOver caseType).statusFilter = .ok none := rfl
  obtain ⟨found, searched⟩ := exists_found compiles (System.initial.follow steps).store
  have listed := fun id member => found_toHandOver_iff steps searched (kept id member)
  refine ⟨found, searched, fun id member => ?_, ?_, ?_⟩
  · rw [Bool.eq_iff_iff, listed id member, Bool.and_eq_true, Bool.not_eq_true']
  · intro same id member
    by_cases processed : (System.initial.follow steps).store.isProcessed id = true
    · have shown := List.mem_filter.2 ⟨member, processed⟩
      rw [same] at shown
      exact ((listed id member).1 (List.mem_filter.1 shown).2).2
    · exact Store.isUntaken_of_unprocessed processed
  · intro taken
    refine List.filter_congr fun id member => ?_
    rw [Bool.eq_iff_iff, listed id member, and_iff_left (taken id member)]

namespace Sample

def colleague : User := ⟨2, "Bea", "Roe", "bea@example.com"⟩

def handing : Setting := (step false .pendingLicences).setting

theorem twoCases_kept :
    (System.initial.follow twoCases).store.keeps .exporting 1 = true ∧
      (System.initial.follow twoCases).store.keeps .exporting 2 = false ∧
      (System.initial.follow twoCases).store.isProcessed 1 = true ∧
      (System.initial.follow twoCases).store.isUntaken 1 = false := by
  decide +kernel

end Sample

theorem twoCases_handed_over :
    Reachable (System.initial.follow Sample.twoCases) ∧
      (System.initial.follow Sample.twoCases).perform Sample.handing
          (.reassign .exporting [1, 2] Sample.colleague) =
        (.error (.repository (.notFound 2)), System.initial.follow Sample.twoCases) ∧
      ((System.initial.follow Sample.twoCases).perform Sample.handing
          (.reassign .exporting [1, 1] Sample.colleague)).1 = .ok (.ids [1, 1]) ∧
      ∃ found, (SearchTerms.toHandOver .exporting).found
          (System.initial.follow Sample.twoCases).store = .ok found ∧
        [1, 1].filter (fun id => found.any (·.id == id)) = [1, 1] := by
  have reached : Reachable (System.initial.follow Sample.twoCases) := reachable_iff.2 ⟨_, rfl⟩
  obtain ⟨kept, other, processed, taken⟩ := Sample.twoCases_kept
  have answer : [1, 1].filter (System.initial.follow Sample.twoCases).store.isProcessed =
      [1, 1] := by
    simp [processed]
  obtain ⟨refused, -⟩ := handed_over reached Sample.handing .exporting [1, 2] Sample.colleague
  obtain ⟨-, handed⟩ := handed_over reached Sample.handing .exporting [1, 1] Sample.colleague
  obtain ⟨ran, found, searched, -, agree⟩ := handed (by simpa using kept)
  rw [answer] at ran agree
  refine ⟨reached, refused 2 (by simp [kept, other]), by rw [ran], found, searched, ?_⟩
  exact (agree.2 (by simpa using taken)).symm

/-- The variation of a certificate that nobody has taken is handed over, though the search for cases
to hand over does not find it. -/
theorem untaken_handed_over :
    Reachable (System.initial.follow Sample.varied) ∧
      (System.initial.follow Sample.varied).store.keeps .exporting 1 = true ∧
      (SearchTerms.toHandOver .exporting).found (System.initial.follow Sample.varied).store =
        .ok [] ∧
      ((System.initial.follow Sample.varied).perform Sample.handing
        (.reassign .exporting [1] Sample.colleague)).1 = .ok (.ids [1]) := by
  have kept : (System.initial.follow Sample.varied).store.keeps .exporting 1 = true := by
    decide +kernel
  have answer : [1].filter (System.initial.follow Sample.varied).store.isProcessed = [1] := by
    decide +kernel
  have none_found : (System.initial.follow Sample.varied).store.applications.rows.filter
      ((SearchTerms.toHandOver .exporting).admits none
        (System.initial.follow Sample.varied).store) = [] := by
    decide +kernel
  refine ⟨reachable_iff.2 ⟨_, rfl⟩, kept, found_eq_ok_iff.2 ⟨none, rfl, ?_⟩, ?_⟩
  · rw [none_found]
    exact List.mergeSort_nil
  · rw [System.reassign_ok (System.available_follow _ _) (by simpa using kept), answer]

end Casework
