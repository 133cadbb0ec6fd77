import Casework.Proofs.Reference.Numbering
import Casework.Proofs.Reference.Written

set_option autoImplicit false

namespace Casework

open Calendar
open Numbered (number)

namespace Sequences

-- Numbers go on from what has been drawn in the year that the clock shows for each of them.
def nth (sequences : Sequences) (series : String) (year : Nat → Int) (index : Nat) : Nat :=
  sequences series (some (year index)) + (List.range (index + 1)).countP (year · == year index)

def advanceOver (sequences : Sequences) (series : String) (year : Nat → Int) (count : Nat) :
    Sequences := fun other period =>
  if other = series then
    sequences other period + (List.range count).countP fun index => some (year index) == period
  else sequences other period

variable (sequences : Sequences) (series : String) (year : Nat → Int)

theorem nth_eq (index : Nat) : sequences.nth series year index =
    sequences series (some (year index)) +
      (List.range index).countP (year · == year index) + 1 := by
  rw [nth, List.range_succ, List.countP_append, List.countP_singleton, if_pos (beq_self_eq_true _),
    Nat.add_assoc]

theorem nth_zero : sequences.nth series year 0 = sequences series (some (year 0)) + 1 :=
  sequences.nth_eq series year 0

theorem nth_succ (index : Nat) :
    (sequences.advance series (some (year 0))).nth series (fun index => year (index + 1)) index =
      sequences.nth series year (index + 1) := by
  simp only [nth, List.range_succ_eq_map, List.countP_cons, List.countP_map, advance, true_and,
    Option.some.injEq]
  by_cases same : year (index + 1) = year 0
  · simp [same, Function.comp_def]
    omega
  · simp [same, Ne.symm same, Function.comp_def]

theorem nth_lt {first second : Nat} (before : first < second) (same : year first = year second) :
    sequences.nth series year first < sequences.nth series year second := by
  rw [nth, nth_eq, same]
  have below : (List.range (first + 1)).countP (year · == year second) ≤
      (List.range second).countP (year · == year second) :=
    (List.range_sublist.2 before).countP_le
  omega

theorem nth_inj {first second : Nat} (same : year first = year second)
    (equal : sequences.nth series year first = sequences.nth series year second) :
    first = second := by
  rcases Nat.lt_trichotomy first second with before | rfl | after
  · exact absurd equal (Nat.ne_of_lt (sequences.nth_lt series year before same))
  · rfl
  · exact absurd equal (Nat.ne_of_gt (sequences.nth_lt series year after same.symm))

theorem nth_le_advanceOver {index count : Nat} (bound : index < count) :
    sequences.nth series year index ≤
      sequences.advanceOver series year count series (some (year index)) := by
  rw [nth, advanceOver, if_pos rfl]
  have below := (List.range_sublist.2 bound).countP_le (p := (year · == year index))
  simpa using below

theorem nth_of_one_year {index : Nat} {shown : Int}
    (one : ∀ earlier ≤ index, year earlier = shown) :
    sequences.nth series year index = sequences series (some shown) + index + 1 := by
  have all : (List.range index).countP (year · == year index) = index := by
    rw [List.countP_eq_length.2 fun earlier member => beq_iff_eq.2 ?_, List.length_range]
    rw [one earlier (Nat.le_of_lt (List.mem_range.1 member)), one index (Nat.le_refl index)]
  rw [nth_eq, all, one index (Nat.le_refl index)]

theorem advanceOver_zero : sequences.advanceOver series year 0 = sequences := by
  funext other period
  exact ite_self _

theorem advance_advanceOver (count : Nat) :
    (sequences.advance series (some (year 0))).advanceOver series (fun index => year (index + 1))
        count =
      sequences.advanceOver series year (count + 1) := by
  funext other period
  simp only [advanceOver, List.range_succ_eq_map, List.countP_cons, List.countP_map, advance]
  by_cases known : other = series
  · subst known
    by_cases same : period = some (year 0)
    · simp [same, Function.comp_def]
      omega
    · simp [same, Ne.symm same, Function.comp_def]
  · simp [known]

theorem advanceOver_le (count : Nat) (other : String) (period : Option Int) :
    sequences.advanceOver series year count other period ≤ sequences other period + count := by
  unfold advanceOver
  split
  · have drawn := (List.range count).countP_le_length
      (p := fun index => some (year index) == period)
    rw [List.length_range] at drawn
    omega
  · exact Nat.le_add_right _ _

end Sequences

def Document.filed (id packId : Nat) (documentType : DocumentType)
    (reference country brand : Option String) : Document :=
  { id, packId, documentType, reference, country, brand
    checkCode := reference.map (Reference.checkCode packId) }

def certificates (packId : Nat) (series : String) (year : Nat → Int) (last : Nat)
    (sequences : Sequences) (subjects : List (String × Option String)) : List Document :=
  subjects.mapIdx fun index (country, brand) =>
    .filed (last + index + 1) packId .certificate
      (some (Reference.yearly series (year index) (sequences.nth series year index)))
      (some country) brand

theorem certificates_cons (packId : Nat) (series : String) (year : Nat → Int) (last : Nat)
    (sequences : Sequences) (country : String) (brand : Option String)
    (subjects : List (String × Option String)) :
    certificates packId series year last sequences ((country, brand) :: subjects) =
      .filed (last + 1) packId .certificate
        (some (Reference.yearly series (year 0) (sequences series (some (year 0)) + 1)))
        (some country) brand ::
      certificates packId series (fun index => year (index + 1)) (last + 1)
        (sequences.advance series (some (year 0))) subjects := by
  have shift : ∀ index, last + (index + 1) + 1 = last + 1 + index + 1 := by omega
  simp only [certificates, List.mapIdx_cons, Nat.add_zero, shift, Sequences.nth_zero,
    Sequences.nth_succ]

theorem map_id_certificates (packId : Nat) (series : String) (year : Nat → Int) (last : Nat)
    (sequences : Sequences) (subjects : List (String × Option String)) :
    (certificates packId series year last sequences subjects).map (·.id) =
      List.range' (last + 1) subjects.length := by
  induction subjects generalizing year last sequences with
  | nil => rfl
  | cons subject subjects ih =>
    rw [certificates_cons, List.map_cons, ih]
    rfl

def Store.Listed (store : Store) : Prop :=
  ∀ document ∈ store.documents.rows, document.id ≤ store.lastDocument

namespace Store

def filing (store : Store) (new : List Document) : Store :=
  { store with
    documents := new.foldl Table.insert store.documents
    lastDocument := store.lastDocument + new.length }

def refilled (store : Store) (packId : Nat) (new : List Document) (later : Sequences) : Store :=
  { { store with documents := store.documents.keep (·.packId != packId) }.filing new with
    sequences := later }

end Store

namespace Work

variable {context : Context} {desk after : Desk}

theorem addDocument_run (packId : Nat) (documentType : DocumentType)
    (reference country brand : Option String) :
    addDocument packId documentType reference country brand context desk =
      (.ok (), { desk with
        store := desk.store.filing
          [.filed (desk.store.lastDocument + 1) packId documentType reference country brand] }) :=
  rfl

theorem drawCertificateReference_run {wrap : Reference.ReferenceError → CaseError}
    {processType : ProcessType} {series : String}
    (known : Reference.certificateSeries processType = .ok series) (reading : Nat) :
    drawCertificateReference wrap processType reading context desk =
      drawYearly reading series context desk := by
  rw [drawCertificateReference, known]
  rfl

theorem addCertificates_run (packId : Nat) {processType : ProcessType} {series : String}
    (known : Reference.certificateSeries processType = .ok series) (reading : Nat)
    (subjects : List (String × Option String)) :
    addCertificates packId processType reading subjects context desk =
      (.ok (), { desk with
        store := { desk.store.filing
            (certificates packId series (fun index => context.year (reading + index))
              desk.store.lastDocument desk.store.sequences subjects) with
          sequences := desk.store.sequences.advanceOver series
            (fun index => context.year (reading + index)) subjects.length } }) := by
  induction subjects generalizing desk reading with
  | nil =>
    rw [List.length_nil, Sequences.advanceOver_zero]
    rfl
  | cons subject subjects ih =>
    obtain ⟨country, brand⟩ := subject
    -- The clock of the rest is read from the next reading on.
    have shift : (fun index => context.year (reading + (index + 1))) =
        fun index => context.year (reading + 1 + index) := by
      funext index
      rw [Nat.add_assoc, Nat.add_comm 1]
    rw [addCertificates, bind_def, andThen, drawCertificateReference_run known, drawYearly_run]
    dsimp only
    rw [bind_def, andThen, addDocument_run]
    dsimp only
    rw [ih]
    simp only [Store.filing, certificates_cons, List.foldl_cons, List.foldl_nil, List.length_cons,
      List.length_nil, ← Sequences.advance_advanceOver, shift]
    simp only [Nat.zero_add, Nat.add_assoc, Nat.add_comm 1, Nat.add_zero]

variable {application answer : Application}

inductive Numbers (application : Application) (sequences : Sequences) : Nat → Sequences → Prop where
  | kept {number : Nat} (had : application.licenceNumber = some number) :
      Numbers application sequences number sequences
  | drawn (unnumbered : application.licenceNumber = none) :
      Numbers application sequences (sequences Reference.licenceSeries none + 1)
        (sequences.advance Reference.licenceSeries none)

theorem withLicenceNumber_eq_ok_iff {number : Nat} :
    withLicenceNumber application context desk = (.ok (number, answer), after) ↔
      answer = { application with licenceNumber := some number } ∧
        ∃ later, Numbers application desk.store.sequences number later ∧
          after = { desk with store := { desk.store with sequences := later } } := by
  rw [withLicenceNumber]
  cases given : application.licenceNumber with
  | some licence =>
    have same : { application with licenceNumber := some licence } = application := by rw [← given]
    constructor
    · intro ran
      cases ran
      exact ⟨same.symm, _, .kept given, rfl⟩
    · rintro ⟨rfl, _, numbers, rfl⟩
      cases numbers with
      | kept had =>
        cases given.symm.trans had
        rw [same]
        rfl
      | drawn unnumbered => cases given.symm.trans unnumbered
  | none =>
    simp only [bind_eq_ok_iff, draw_run, pure_run, Prod.mk.injEq, Except.ok.injEq]
    constructor
    · rintro ⟨_, _, ⟨rfl, rfl⟩, ⟨rfl, rfl⟩, rfl⟩
      exact ⟨rfl, _, .drawn given, rfl⟩
    · rintro ⟨rfl, _, numbers, rfl⟩
      cases numbers with
      | kept had => cases given.symm.trans had
      | drawn => exact ⟨_, _, ⟨rfl, rfl⟩, ⟨rfl, rfl⟩, rfl⟩

theorem licenceReference_eq_ok_iff {wrap : Reference.ReferenceError → CaseError}
    {paperOnly : Option Bool} {reference : String} :
    licenceReference wrap application paperOnly context desk = (.ok (reference, answer), after) ↔
      ∃ number later, answer = { application with licenceNumber := some number } ∧
        Reference.licence (paperOnly.getD false) application.processType number = .ok reference ∧
        Numbers application desk.store.sequences number later ∧
        after = { desk with store := { desk.store with sequences := later } } := by
  simp only [licenceReference, bind_eq_ok_iff, ofExcept_eq_ok_iff, pure_run, Prod.mk.injEq,
    Except.ok.injEq, Prod.exists, withLicenceNumber_eq_ok_iff]
  constructor
  · rintro ⟨number, _, _, ⟨rfl, later, numbers, rfl⟩, _, _, ⟨written, rfl⟩, ⟨rfl, rfl⟩, rfl⟩
    exact ⟨number, later, rfl, written, numbers, rfl⟩
  · rintro ⟨number, later, rfl, written, numbers, rfl⟩
    exact ⟨number, _, _, ⟨rfl, later, numbers, rfl⟩, _, _, ⟨written, rfl⟩, ⟨rfl, rfl⟩, rfl⟩

/-- What a draft is filled with, and what becomes of the case and of the sequences. -/
inductive Fills (context : Context) (application : Application) (draft : Pack) (last : Nat)
    (sequences : Sequences) : List Document → Application → Sequences → Prop where
  | licence {number : Nat} {reference : String} {later : Sequences}
      (imported : application.isImport = true)
      (numbers : Numbers application sequences number later)
      (written : Reference.licence (draft.paperOnly.getD false) application.processType number =
        .ok reference) :
      Fills context application draft last sequences
        [.filed (last + 1) draft.id .coverLetter none none none,
          .filed (last + 2) draft.id .licence (some reference) none none]
        { application with licenceNumber := some number } later
  | certificates {series : String} (exported : application.isImport = false)
      (known : Reference.certificateSeries application.processType = .ok series) :
      Fills context application draft last sequences
        (Casework.certificates draft.id series context.year last sequences
          (certificateSubjects application))
        application
        (sequences.advanceOver series context.year (certificateSubjects application).length)

section Fills

variable {draft : Pack} {last : Nat} {sequences later : Sequences} {new : List Document}
  {document : Document}

theorem Fills.id_eq (fills : Fills context application draft last sequences new answer later) :
    answer.id = application.id := by
  cases fills <;> rfl

theorem Fills.map_id (fills : Fills context application draft last sequences new answer later) :
    new.map (·.id) = List.range' (last + 1) new.length := by
  cases fills with
  | licence => rfl
  | certificates =>
    refine (map_id_certificates ..).trans ?_
    rw [Casework.certificates, List.length_mapIdx]

theorem Fills.newer (fills : Fills context application draft last sequences new answer later)
    (member : document ∈ new) :
    last < document.id ∧ document.id ≤ last + new.length := by
  have numbered : document.id ∈ new.map (·.id) := List.mem_map_of_mem member
  rw [fills.map_id, List.mem_range'_1] at numbered
  omega

theorem Fills.increasing (fills : Fills context application draft last sequences new answer later) :
    new.Pairwise fun earlier later => number earlier < number later := by
  have numbered : (new.map (·.id)).Pairwise (· < ·) := by
    rw [fills.map_id]
    exact List.pairwise_lt_range'
  exact List.pairwise_map.1 numbered

theorem Fills.filed (fills : Fills context application draft last sequences new answer later)
    (member : document ∈ new) :
    document.packId = draft.id ∧
      document.checkCode = document.reference.map (Reference.checkCode document.packId) := by
  cases fills with
  | licence =>
    rcases List.mem_cons.1 member with rfl | member
    · exact ⟨rfl, rfl⟩
    · rw [List.mem_singleton.1 member]
      exact ⟨rfl, rfl⟩
  | certificates =>
    obtain ⟨index, bound, rfl⟩ := List.mem_mapIdx.1 member
    exact ⟨rfl, rfl⟩

end Fills

theorem createDocuments_eq_ok_iff :
    createDocuments application context desk = (.ok answer, after) ↔
      ∃ draft new later, desk.store.singlePack application.id .draft = .ok draft ∧
        Fills context application draft desk.store.lastDocument desk.store.sequences new answer
          later ∧
        after = { desk with store := desk.store.refilled draft.id new later } := by
  cases kind : application.caseType with
  | importing =>
    have imported : application.isImport = true := beq_iff_eq.2 kind
    simp only [createDocuments, kind, bind_eq_ok_iff, findDraft_eq_ok_iff, write_run,
      addDocument_run, licenceReference_eq_ok_iff, pure_run, Prod.exists, Prod.mk.injEq,
      Except.ok.injEq]
    constructor
    · rintro ⟨draft, _, ⟨only, rfl⟩, _, _, ⟨-, rfl⟩, _, _, ⟨-, rfl⟩, reference, _, _,
        ⟨number, later, rfl, written, numbers, rfl⟩, _, _, ⟨-, rfl⟩, rfl, rfl⟩
      exact ⟨draft, _, later, only, .licence imported numbers written, rfl⟩
    · rintro ⟨draft, _, later, only, fills, rfl⟩
      cases fills with
      | @licence number reference _ _ numbers written =>
        exact ⟨draft, _, ⟨only, rfl⟩, (), _, ⟨trivial, rfl⟩, (), _, ⟨trivial, rfl⟩, reference, _, _,
          ⟨number, later, rfl, written, numbers, rfl⟩, (), _, ⟨trivial, rfl⟩, rfl, rfl⟩
      | certificates exported => cases imported.symm.trans exported
  | exporting =>
    have exported : application.isImport = false := by rw [Application.isImport, kind]; rfl
    obtain ⟨series, known⟩ := ProcessType.exists_certificateSeries kind
    simp only [createDocuments, kind, bind_eq_ok_iff, findDraft_eq_ok_iff, write_run,
      addCertificates_run _ known, Nat.zero_add, pure_run, Prod.mk.injEq, Except.ok.injEq]
    constructor
    · rintro ⟨draft, _, ⟨only, rfl⟩, _, _, ⟨-, rfl⟩, _, _, ⟨-, rfl⟩, rfl, rfl⟩
      exact ⟨draft, _, _, only, .certificates exported known, rfl⟩
    · rintro ⟨draft, _, later, only, fills, rfl⟩
      cases fills with
      | licence imported => cases imported.symm.trans exported
      | certificates _ also =>
        cases known.symm.trans also
        exact ⟨draft, _, ⟨only, rfl⟩, (), _, ⟨trivial, rfl⟩, (), _, ⟨trivial, rfl⟩, rfl, rfl⟩

theorem createDocuments_fills
    (ran : createDocuments application context desk = (.ok answer, after))
    (listed : desk.store.Listed) :
    ∃ draft new, desk.store.singlePack application.id .draft = .ok draft ∧
      after.store.documents.rows =
        desk.store.documents.rows.filter (·.packId != draft.id) ++ new ∧
      Fills context application draft desk.store.lastDocument desk.store.sequences new answer
        after.store.sequences := by
  obtain ⟨draft, new, later, only, fills, rfl⟩ := createDocuments_eq_ok_iff.1 ran
  refine ⟨draft, new, only, Table.rows_foldl_newest ?_, fills⟩
  refine List.pairwise_append.2 ⟨Table.increasing _, fills.increasing, ?_⟩
  intro kept member document added
  exact Nat.lt_of_le_of_lt (listed kept (List.mem_filter.1 member).1) (fills.newer added).1

theorem startAuthorisation_fills {caseType : CaseType} {id : Nat} {user : User}
    (ran : startAuthorisation caseType id user context desk = (.ok answer, after))
    (listed : desk.store.Listed) :
    ∃ application, desk.store.applications.find? id = some application ∧
      after.store.applications.find? id = some answer ∧
      ((application.currentDecision = some .refuse ∧
          after.store.documents = desk.store.documents ∧
          after.store.sequences = desk.store.sequences ∧
          answer.licenceNumber = application.licenceNumber) ∨
        ∃ draft new, desk.store.singlePack id .draft = .ok draft ∧
          after.store.documents.rows =
            desk.store.documents.rows.filter (·.packId != draft.id) ++ new ∧
          Fills context (application.authorising application.licenceNumber) draft
            desk.store.lastDocument desk.store.sequences new answer after.store.sequences) := by
  simp only [startAuthorisation, loadWithTask, bind_eq_ok_iff, load_eq_ok_iff,
    currentTask_eq_ok_iff, read_run, require_eq_ok_iff, finishTask_run, pure_run, Prod.mk.injEq,
    Except.ok.injEq] at ran
  obtain ⟨_, _, ⟨application, _, ⟨-, found, -, rfl⟩, task, _, ⟨-, rfl⟩, rfl, rfl⟩, _, _,
    ⟨-, rfl⟩, _, _, ⟨-, rfl⟩, _, _, ⟨-, rfl⟩, ran⟩ := ran
  have named := (Table.find?_eq_some_iff.1 found).2
  refine ⟨application, found, ?_⟩
  dsimp only at ran
  by_cases refused : application.currentDecision = some .refuse
  · rw [if_pos refused] at ran
    by_cases varied : application.isImportVariation = true
    · rw [if_pos varied] at ran
      simp only [bind_eq_ok_iff, now_run, archiveDraft, findDraft_eq_ok_iff, changePack_run,
        Prod.mk.injEq, Except.ok.injEq] at ran
      obtain ⟨_, _, ⟨rfl, rfl⟩, _, _, ⟨_, _, ⟨-, rfl⟩, -, rfl⟩, last⟩ := ran
      obtain ⟨rfl, final, documents, sequences⟩ := saved_stores last named
      exact ⟨final, .inl ⟨refused, documents, sequences, rfl⟩⟩
    · rw [if_neg varied] at ran
      simp only [bind_eq_ok_iff, createTask_run, archiveDraft, findDraft_eq_ok_iff, changePack_run,
        Prod.mk.injEq] at ran
      obtain ⟨_, _, ⟨-, rfl⟩, _, _, ⟨_, _, ⟨-, rfl⟩, -, rfl⟩, last⟩ := ran
      obtain ⟨rfl, final, documents, sequences⟩ := saved_stores last named
      exact ⟨final, .inl ⟨refused, documents, sequences, rfl⟩⟩
  · rw [if_neg refused] at ran
    simp only [bind_eq_ok_iff, createTask_run, Prod.mk.injEq] at ran
    obtain ⟨_, _, ⟨-, rfl⟩, documented, filled_desk, filled, last⟩ := ran
    obtain ⟨draft, new, only, rows, fills⟩ := createDocuments_fills filled listed
    have same : documented.id = id := fills.id_eq.trans named
    obtain ⟨rfl, final, documents, sequences⟩ := saved_stores last same
    rw [← documents] at rows
    rw [← sequences] at fills
    exact ⟨final, .inr ⟨draft, new, named ▸ only, rows, fills⟩⟩

theorem cancel_removes {caseType : CaseType} {id : Nat} {answer : Unit}
    (ran : cancel caseType id context desk = (.ok answer, after)) :
    after.store = desk.store.removeApplication id := by
  simp only [cancel, removeApplication, bind_eq_ok_iff, load_eq_ok_iff, currentTask_eq_ok_iff,
    findApplication_eq_ok_iff, write_run, pure_run, Prod.mk.injEq] at ran
  obtain ⟨_, _, ⟨-, -, -, rfl⟩, _, _, ⟨-, rfl⟩, _, _, ⟨_, _, ⟨-, rfl⟩, _, _, ⟨-, rfl⟩, -, rfl⟩, -,
    rfl⟩ := ran
  rfl

end Work

theorem Store.Sound.listed {store : Store} (sound : store.Sound) : store.Listed :=
  fun document member => (sound.documents document member).1

namespace System

variable {system : System} {step : Step}

structure Refills (system : System) (step : Step) (id : Nat) (application answer : Application)
    (draft : Pack) (new : List Document) : Prop where
  starts : ∃ caseType user, step.operation = .startAuthorisation caseType id user
  found : system.store.applications.find? id = some application
  becomes : (system.after step).store.applications.find? id = some answer
  only : system.store.singlePack id .draft = .ok draft
  rows : (system.after step).store.documents.rows =
    system.store.documents.rows.filter (·.packId != draft.id) ++ new
  fills : Work.Fills (step.setting.around system)
    (application.authorising application.licenceNumber) draft system.store.lastDocument
    system.store.sequences new answer (system.after step).store.sequences

theorem refills_of_starts (sound : system.store.Sound) (takes : system.Takes step)
    {caseType : CaseType} {id : Nat} {user : User}
    (starts : step.operation = .startAuthorisation caseType id user) :
    ∃ application answer, system.store.applications.find? id = some application ∧
      (system.after step).store.applications.find? id = some answer ∧
      ((application.currentDecision = some .refuse ∧
          (system.after step).store.documents = system.store.documents ∧
          answer.licenceNumber = application.licenceNumber) ∨
        ∃ draft new, system.Refills step id application answer draft new) := by
  obtain ⟨_, desk, ran⟩ := takes.ran
  have performed := perform_of_ok ran
  have final : (system.after step).store = desk.store := by rw [after, performed]
  rw [starts] at ran
  obtain ⟨answer, started, -⟩ := Work.map_eq_ok_iff.1 ran
  obtain ⟨application, found, becomes, rest⟩ := Work.startAuthorisation_fills started sound.listed
  rw [← final] at becomes rest
  refine ⟨application, answer, found, becomes, ?_⟩
  rcases rest with ⟨refused, documents, -, kept⟩ | ⟨draft, new, only, rows, fills⟩
  · exact .inl ⟨refused, documents, kept⟩
  · exact .inr ⟨draft, new, ⟨caseType, user, starts⟩, found, becomes, only, rows, fills⟩

theorem removes_of_cancels (takes : system.Takes step) {caseType : CaseType} {id : Nat}
    (cancels : step.operation = .cancel caseType id) :
    (system.after step).store = system.store.removeApplication id := by
  obtain ⟨_, desk, ran⟩ := takes.ran
  have performed := perform_of_ok ran
  rw [cancels] at ran
  obtain ⟨answer, removed, -⟩ := Work.map_eq_ok_iff.1 ran
  rw [after, performed]
  exact Work.cancel_removes removed

theorem documents_after (sound : system.store.Sound) (step : Step) :
    (∀ document ∈ (system.after step).store.documents.rows,
        document ∈ system.store.documents.rows) ∨
      ∃ id application answer draft new, system.Refills step id application answer draft new := by
  rcases after_cases sound step with ⟨-, same⟩ | ⟨takes, -⟩
  · rw [same]
    exact .inl fun _ member => member
  · by_cases touched : Part.documents ∈ step.operation.parts
    · cases named : step.operation with
      | cancel caseType id =>
        rw [removes_of_cancels takes named]
        exact .inl fun document member => (List.mem_filter.1 member).1
      | startAuthorisation caseType id user =>
        obtain ⟨application, answer, -, -, ⟨-, same, -⟩ | ⟨draft, new, refills⟩⟩ :=
          refills_of_starts sound takes named
        · rw [same]
          exact .inl fun _ member => member
        · exact .inr ⟨id, application, answer, draft, new, refills⟩
      | _ => simp [named, Operation.parts] at touched
    · have same : (system.after step).store.documents = system.store.documents :=
        (keeps_after step touched).1
      rw [same]
      exact .inl fun _ member => member

end System

theorem document_invariant (holds : Document → Prop)
    (filled : ∀ {context application draft last sequences new answer later},
      Work.Fills context application draft last sequences new answer later →
        ∀ document ∈ new, holds document) (steps : List Step) :
    ∀ document ∈ (System.initial.follow steps).store.documents.rows, holds document := by
  induction steps using List.reverseRecOn with
  | nil => exact fun _ member => absurd member List.not_mem_nil
  | append_singleton steps step ih =>
    rw [System.follow_append]
    intro document member
    rcases System.documents_after (System.sound_follow steps) step with
      kept | ⟨_, _, _, _, new, refills⟩
    · exact ih document (kept document member)
    · rw [refills.rows] at member
      rcases List.mem_append.1 member with old | added
      · exact ih document (List.mem_filter.1 old).1
      · exact filled refills.fills document added

end Casework
