import Casework.Proofs.Case.Closing
import Casework.Proofs.Packs.Life
import Casework.Proofs.Search.Spreadsheet

set_option autoImplicit false

namespace Casework

open Calendar
open Text (numeral decimal)

inductive CaseAction where
  | reopen
  | revoke
  | requestVariation
deriving DecidableEq

namespace CaseAction

def path : CaseAction → String
  | .reopen => "reopen"
  | .revoke => "revoke"
  | .requestVariation => "request-variation"

inductive Does (caseType : CaseType) (id : Nat) : CaseAction → Operation → Prop where
  | reopen : Does caseType id .reopen (.reopen caseType id)
  | revoke (input : RevokeInput) : Does caseType id .revoke (.revoke caseType id input)
  | requestVariation (user : User) {whatVaried : String}
      (described : Text.isBlankText whatVaried = false) :
      Does caseType id .requestVariation (.requestVariation caseType id user whatVaried)

def address (action : CaseAction) (caseType : CaseType) (id : Nat) : String :=
  "/api/v1/case/" ++ caseType.code ++ "/" ++ numeral id ++ "/" ++ action.path

end CaseAction

def SearchAction.Names (action : SearchAction) (operation : Operation) : Prop :=
  ∃ (asked : CaseAction) (caseType : CaseType) (id : Nat),
    action.url = asked.address caseType id ∧ asked.Does caseType id operation

namespace ResultRow

def id : ResultRow → Nat
  | .imported row => row.id
  | .exported row => row.id

def actions : ResultRow → List SearchAction
  | .imported row => row.actions
  | .exported row => row.actions

end ResultRow

section Address

open Reference (sections)

def addressRoot (caseType : CaseType) : List (List Char) :=
  sections '/' ("/api/v1/case/" ++ caseType.code).toList

namespace CaseAction

variable {action other : CaseAction}

theorem path_unslashed (action : CaseAction) : '/' ∉ action.path.toList := by
  cases action <;> decide

theorem path_injective (same : action.path = other.path) : action = other := by
  revert same
  cases action <;> cases other <;> decide

theorem toList_numbered (start finish : String) (id : Nat) :
    (start ++ "/" ++ numeral id ++ "/" ++ finish).toList =
      start.toList ++ '/' :: (decimal id ++ '/' :: finish.toList) := by
  simp [Text.toList_numeral]

theorem toList_address (action : CaseAction) (caseType : CaseType) (id : Nat) :
    (action.address caseType id).toList =
      ("/api/v1/case/" ++ caseType.code).toList ++
        '/' :: (decimal id ++ '/' :: action.path.toList) :=
  toList_numbered _ action.path id

theorem sections_address (action : CaseAction) (caseType : CaseType) (id : Nat) :
    sections '/' (action.address caseType id).toList =
      addressRoot caseType ++ [decimal id, action.path.toList] := by
  have unslashed : '/' ∉ decimal id := fun member =>
    absurd (Text.isDigit_of_mem_decimal member) (by decide)
  rw [toList_address, Reference.sections_append, Reference.sections_append,
    Reference.sections_of_free unslashed, Reference.sections_of_free action.path_unslashed]
  rfl

theorem address_injective {caseType another : CaseType} {id number : Nat}
    (same : action.address caseType id = other.address another number) :
    action = other ∧ caseType = another ∧ id = number := by
  have split := congrArg (fun text => sections '/' text.toList) same
  simp only [sections_address] at split
  have lengths : (addressRoot caseType).length = (addressRoot another).length := by
    cases caseType <;> cases another <;> decide
  obtain ⟨roots, rest⟩ := List.append_inj split lengths
  simp only [List.cons.injEq, and_true] at rest
  have kinds : caseType = another := by
    revert roots
    cases caseType <;> cases another <;> decide
  exact ⟨path_injective (String.toList_injective rest.2), kinds, Text.decimal_injective rest.1⟩

end CaseAction

theorem SearchAction.Names.does {action : SearchAction} {operation : Operation}
    (named : action.Names operation) {asked : CaseAction} {caseType : CaseType} {id : Nat}
    (address : action.url = asked.address caseType id) : asked.Does caseType id operation := by
  obtain ⟨_, _, _, url, does⟩ := named
  obtain ⟨rfl, rfl, rfl⟩ := CaseAction.address_injective (address.symm.trans url)
  exact does

end Address

namespace Work

section Case

variable {context : Context} {desk : Desk} {id : Nat} {file : CaseFile} {pack : Pack}

variable (found : desk.store.fileOf id = some file) (available : context.available = true)
  (sound : desk.store.Sound) (complete : file.application.status = .completed)
include found available sound complete

theorem succeeds_revoke (only : file.packs.filter (Pack.isIn .active) = [pack])
    (input : RevokeInput) :
    (revoke file.application.caseType id input).Succeeds context desk := by
  have same := Store.id_of_fileOf found
  have looked : findActive id context desk = (.ok pack, desk) :=
    ask_eq_ok_iff.2 ⟨Store.activePack_of_only found only, rfl⟩
  refine then_ok (load_ok found available) (then_checked (List.mem_singleton.2 complete) ?_)
  refine .bind (then_ok looked ⟨_, _, rfl⟩) fun _ between ran => ?_
  obtain ⟨_, -, revoked⟩ := (Replaces.refl sound found).revokeActive ran
  dsimp only
  split
  · refine then_ok context_run ?_
    obtain ⟨_, _, _, sent, -⟩ := sendToChief_run context
      (revoked.sound.numbered between.accepted) { file.application with status := .revoked } none
      true context.sendsLicences
    obtain ⟨_, _, -, -, -, told⟩ := revoked.sendToChief sent same
    exact then_ok sent (succeeds_saved told same)
  · exact succeeds_saved revoked same

omit found available sound complete in
theorem succeeds_openVariation {start : Store} (held : Replaces start id file desk.store)
    {varied : Application} (same : varied.id = id) (named : varied.reference.isSome = true)
    (active : varied.isImport = true → ∃ pack, file.packs.filter (Pack.isIn .active) = [pack]) :
    (openVariation varied id).Succeeds context desk := by
  obtain ⟨reference, named⟩ := Option.isSome_iff_exists.1 named
  rw [openVariation, Reference.variation, named]
  refine then_ok rfl (.bind ⟨_, _, rfl⟩ fun _ between ran => ?_)
  obtain ⟨_, -, created⟩ := held.createTask ran
  have terms : (initialTerms varied true).Succeeds context between := by
    unfold initialTerms
    split
    next imported =>
      obtain ⟨pack, only⟩ := active imported
      have looked : findActive varied.id context between = (.ok pack, between) := by
        rw [same]
        exact ask_eq_ok_iff.2 ⟨Store.activePack_of_only created.found only, rfl⟩
      exact then_ok looked ⟨_, _, rfl⟩
    next => exact ⟨_, _, rfl⟩
  refine .bind (.bind terms fun _ _ _ => ⟨_, _, rfl⟩) fun _ _ ran => ?_
  obtain ⟨_, _, -, -, drafted⟩ := created.createDraft ran same
  exact succeeds_saved drafted same

theorem succeeds_requestVariation (named : file.application.reference.isSome = true)
    (active : file.application.isImport = true →
      ∃ pack, file.packs.filter (Pack.isIn .active) = [pack])
    (user : User) {whatVaried : String} (described : Text.isBlankText whatVaried = false) :
    (requestVariation file.application.caseType id user whatVaried).Succeeds context desk := by
  refine then_required (by simp [described]) (then_ok (load_ok found available) ?_)
  refine then_checked (List.mem_singleton.2 complete) (.bind ⟨_, _, rfl⟩ fun _ _ ran => ?_)
  have counted := (Replaces.refl sound found).nextRecord ran
  exact then_ok now_run
    (succeeds_openVariation counted (Store.id_of_fileOf found) named active)

end Case

end Work

inductive Finding.Offers (finding : Finding) (caseType : CaseType) (today : Date) :
    CaseAction → Prop where
  | reopen (stage : finding.application.status ∈ [CaseStatus.stopped, .withdrawn]) :
      finding.Offers caseType today .reopen
  | revoke (complete : finding.application.status = .completed)
      (inForce : caseType = .importing → finding.isInForce today = true) :
      finding.Offers caseType today .revoke
  | requestVariation (complete : finding.application.status = .completed)
      (imported : caseType = .importing) : finding.Offers caseType today .requestVariation

namespace Finding

variable {finding : Finding} {store : Store} {today : Date} {action : SearchAction}

theorem offers_importActions (member : action ∈ finding.importActions today)
    (here : action.url ≠ "#") : ∃ asked, finding.Offers .importing today asked ∧
      action.url = asked.address .importing finding.application.id := by
  cases stage : finding.application.status with
  | completed =>
    simp only [importActions, stage, List.mem_append, List.mem_singleton] at member
    rcases member with (rfl | appeal) | revoking
    · exact ⟨.requestVariation, .requestVariation stage rfl, rfl⟩
    · split at appeal
      · exact absurd (congrArg SearchAction.url (List.mem_singleton.1 appeal)) here
      · cases appeal
    · split at revoking
      next inForce =>
        cases List.mem_singleton.1 revoking
        exact ⟨.revoke, .revoke stage fun _ => inForce, rfl⟩
      next => cases revoking
  | stopped | withdrawn =>
    simp only [importActions, stage, List.mem_singleton] at member
    subst member
    exact ⟨.reopen, .reopen (by simp [stage]), rfl⟩
  | _ => simp [importActions, stage] at member

theorem elsewhere_of_copying (member : action ∈ copying) : action.url = "#" := by
  revert action
  decide

theorem offers_exportActions (member : action ∈ finding.exportActions)
    (here : action.url ≠ "#") : ∃ asked, finding.Offers .exporting today asked ∧
      action.url = asked.address .exporting finding.application.id := by
  cases stage : finding.application.status with
  | completed =>
    simp only [exportActions, stage, List.cons_append, List.mem_cons, List.nil_append] at member
    rcases member with rfl | rfl | copied
    · exact absurd rfl here
    · exact ⟨.revoke, .revoke stage nofun, rfl⟩
    · exact absurd (elsewhere_of_copying copied) here
  | stopped | withdrawn =>
    simp only [exportActions, stage, List.mem_singleton] at member
    subst member
    exact ⟨.reopen, .reopen (by simp [stage]), rfl⟩
  | _ =>
    simp only [exportActions, stage] at member
    exact absurd (elsewhere_of_copying member) here

theorem offers {caseType : CaseType} (member : action ∈ (finding.row store caseType today).actions)
    (here : action.url ≠ "#") : ∃ asked, finding.Offers caseType today asked ∧
      action.url = asked.address caseType finding.application.id := by
  cases caseType with
  | importing => exact offers_importActions member here
  | exporting => exact offers_exportActions member here

end Finding

theorem CaseStatus.ne_completed :
    ∀ status ∈ [CaseStatus.stopped, .withdrawn], status ≠ .completed := by decide

theorem caseType_of_admits {terms : SearchTerms} {status : Option StatusFilter} {store : Store}
    {application : Application} (admitted : terms.admits status store application = true) :
    application.caseType = terms.caseType := by
  rw [SearchTerms.admits, Bool.and_eq_true, Bool.and_eq_true, beq_iff_eq] at admitted
  exact admitted.1.1

theorem id_row (terms : SearchTerms) (store : Store) (today : Date) (application : Application) :
    (terms.row store today application).id = application.id := by
  unfold SearchTerms.row Finding.row
  cases terms.caseType <;> rfl

theorem mem_of_foldl {α : Type} {pick : Option α → α → Option α}
    (picks : ∀ start entry, pick start entry = some entry ∨ pick start entry = start)
    {entries : List α} {start : Option α} {last : α}
    (folded : entries.foldl pick start = some last) : start = some last ∨ last ∈ entries := by
  induction entries generalizing start with
  | nil => exact .inl folded
  | cons head tail ih =>
    rcases ih folded with chosen | later
    · rcases picks start head with picked | passed
      · cases picked.symm.trans chosen
        exact .inr List.mem_cons_self
      · exact .inl (passed.symm.trans chosen)
    · exact .inr (List.mem_cons_of_mem _ later)

section Missing

variable {store : Store} {id : Nat} {file : CaseFile}

theorem Store.issued_iff (found : store.fileOf id = some file) (fit : file.PacksFit)
    (complete : file.application.status = .completed) :
    ¬ store.Unissued file.application.caseType id ↔
      ∃ pack, file.packs.filter (Pack.isIn .active) = [pack] := by
  constructor
  · intro issued
    rcases CaseFile.singlePack_cases fit.active with ⟨pack, single⟩ | ⟨missing, -⟩
    · exact ⟨pack, CaseFile.singlePack_eq_ok_iff.1 single⟩
    · let desk : Desk := ⟨store, []⟩
      have found : desk.store.fileOf id = some file := found
      exact absurd (Work.unissued_of_file found rfl complete missing) issued
  · rintro ⟨pack, only⟩ ⟨-, missing⟩
    obtain ⟨member, active⟩ := CaseFile.mem_of_only only
    rw [← (fileOf_eq_some_iff.1 found).2.2.1] at member
    exact missing pack member (beq_iff_eq.1 active)

theorem Store.Unissued.status {caseType : CaseType} (unissued : store.Unissued caseType id)
    (found : store.fileOf id = some file) : file.application.status = .completed := by
  obtain ⟨⟨_, stored, -, complete⟩, -⟩ := unissued
  cases (fileOf_eq_some_iff.1 found).1.symm.trans stored
  exact complete

theorem latestPack_mem {pack : Pack} (latest : store.latestPack id = some pack) :
    pack ∈ store.packsOf id ∧ pack.status.isVisible = true := by
  refine List.mem_filter.1 ((mem_of_foldl ?_ latest).resolve_left nofun)
  rintro (_ | best) entry
  · exact .inl rfl
  · dsimp only
    split
    · exact .inl rfl
    · exact .inr rfl

theorem latestPack_active (found : store.fileOf id = some file) (fit : file.PacksFit)
    (complete : file.application.status = .completed) {pack : Pack}
    (latest : store.latestPack id = some pack) : pack.status = .active := by
  obtain ⟨member, visible⟩ := latestPack_mem latest
  rw [(Store.fileOf_eq_some_iff.1 found).2.2.1] at member
  have none_draft : file.packCount .draft = 0 := by rw [fit.draft, complete]; rfl
  have none_revoked : file.packCount .revoked = 0 := by rw [fit.revoked, complete]; rfl
  have undrafted := List.countP_eq_zero.1 none_draft pack member
  have unrevoked := List.countP_eq_zero.1 none_revoked pack member
  cases status : pack.status <;> simp_all [Pack.isIn, PackStatus.isVisible]

end Missing

namespace System

variable {system : System} {step : Step} {id : Nat} {file : CaseFile}

theorem takes_of_succeeds {α : Type} {work : Work α} {change : α → Answer}
    (succeeds : work.Succeeds (step.setting.around system) system.desk)
    (named : step.operation.work = change <$> work) : system.Takes step := by
  obtain ⟨answer, after, -, performed⟩ := performed_of_succeeds succeeds named
  exact ⟨change answer, by rw [perform_of_ok performed]⟩

section Run

variable (steps : List Step) (setting : Setting)

theorem not_takes_of_misses {operation : Operation}
    (misses : (initial.follow steps).store.MissesPack operation id) :
    ¬ (initial.follow steps).Takes ⟨setting, operation⟩ := by
  rintro ⟨_, taken⟩
  rw [perform_fst, misses.fails (fit steps) (available_follow steps setting)] at taken
  cases taken

variable (found : (initial.follow steps).store.fileOf id = some file)
  (complete : file.application.status = .completed)
include found complete

theorem takes_revoke_iff (input : RevokeInput) :
    (initial.follow steps).Takes ⟨setting, .revoke file.application.caseType id input⟩ ↔
      ¬ (initial.follow steps).store.Unissued file.application.caseType id := by
  constructor
  · exact fun taken unissued => not_takes_of_misses steps setting (.revoke unissued) taken
  · intro issued
    have fits := CaseFile.packs_fit steps found
    obtain ⟨pack, only⟩ := (Store.issued_iff found fits complete).1 issued
    refine takes_of_succeeds ?_ rfl
    exact Work.succeeds_revoke found (available_follow steps setting) (sound_follow steps) complete
      only input

theorem takes_requestVariation_iff (imported : file.application.caseType = .importing) (user : User)
    {whatVaried : String} (described : Text.isBlankText whatVaried = false) :
    (initial.follow steps).Takes
        ⟨setting, .requestVariation file.application.caseType id user whatVaried⟩ ↔
      ¬ (initial.follow steps).store.Unissued file.application.caseType id := by
  constructor
  · rw [imported]
    exact fun taken unissued =>
      not_takes_of_misses steps setting (.requestVariation described unissued) taken
  · intro issued
    have fits := CaseFile.packs_fit steps found
    obtain ⟨pack, only⟩ := (Store.issued_iff found fits complete).1 issued
    have named := CaseFile.named steps found (by simp [complete])
    refine takes_of_succeeds ?_ rfl
    exact Work.succeeds_requestVariation found (available_follow steps setting) (sound_follow steps)
      complete named (fun _ => ⟨pack, only⟩) user described

end Run

theorem exists_found_of_search {setting : Setting} {terms : SearchTerms} {limit : Option Nat}
    {results : SearchResults}
    (searched : (system.perform setting (.search terms limit)).1 = .ok (.results results)) :
    ∃ found count, terms.found system.store = .ok found ∧
      results.rows = (found.take count).map (terms.row system.store setting.now.date) := by
  rw [perform_fst] at searched
  obtain ⟨_, ran, same⟩ := Work.map_eq_ok_iff.1 (Prod.ext searched rfl)
  cases same
  simp only [Work.search, Work.bind_eq_ok_iff, Work.enter_eq_ok_iff, Work.context_run,
    Work.ask_eq_ok_iff, Prod.mk.injEq, Except.ok.injEq] at ran
  obtain ⟨_, _, ⟨-, rfl⟩, _, _, ⟨rfl, rfl⟩, shown, -⟩ := ran
  cases found : terms.found system.store with
  | error error => simp [SearchTerms.results, found, bind, Except.bind] at shown
  | ok found_ones =>
    rw [results_of_found found] at shown
    cases shown
    exact ⟨found_ones, _, rfl, rfl⟩

section Offered

variable (steps : List Step) {caseType : CaseType} {today : Date} {action : SearchAction}

variable (found : (initial.follow steps).store.fileOf id = some file)
include found

theorem issued_of_inForce (complete : file.application.status = .completed)
    (inForce : (Finding.of (initial.follow steps).store file.application).isInForce today = true) :
    ¬ (initial.follow steps).store.Unissued caseType id := by
  rintro ⟨-, missing⟩
  cases latest : (initial.follow steps).store.latestPack file.application.id with
  | none => simp [Finding.isInForce, Finding.of, latest] at inForce
  | some pack =>
    rw [Store.id_of_fileOf found] at latest
    exact missing pack (latestPack_mem latest).1
      (latestPack_active found (CaseFile.packs_fit steps found) complete latest)

theorem takes_offered_iff (kind : file.application.caseType = caseType) {asked : CaseAction}
    (offers : (Finding.of (initial.follow steps).store file.application).Offers caseType today
      asked) {operation : Operation} (does : asked.Does caseType id operation) (setting : Setting) :
    (initial.follow steps).Takes ⟨setting, operation⟩ ↔
      ¬ (initial.follow steps).store.Unissued caseType id := by
  subst kind
  cases offers with
  | reopen stage =>
    cases does
    refine iff_of_true (reopens steps setting found stage).1 fun unissued => ?_
    exact CaseStatus.ne_completed _ stage (unissued.status found)
  | revoke complete =>
    cases does with
    | revoke input => exact takes_revoke_iff steps setting found complete input
  | requestVariation complete imported =>
    cases does with
    | requestVariation user described =>
      exact takes_requestVariation_iff steps setting found complete imported user described

theorem offered_in_vain {asked : CaseAction}
    (offers : (Finding.of (initial.follow steps).store file.application).Offers caseType today
      asked) (unissued : (initial.follow steps).store.Unissued caseType id) :
    asked = if caseType = .importing then .requestVariation else .revoke := by
  cases offers with
  | reopen stage => exact absurd (unissued.status found) (CaseStatus.ne_completed _ stage)
  | revoke complete inForce =>
    by_cases imported : caseType = .importing
    · exact absurd unissued (issued_of_inForce steps found complete (inForce imported))
    · rw [if_neg imported]
  | requestVariation _ imported => rw [if_pos imported]

end Offered

end System

namespace CaseAction

theorem exists_does (action : CaseAction) (caseType : CaseType) (id : Nat) :
    ∃ operation, action.Does caseType id operation := by
  cases action with
  | reopen => exact ⟨_, .reopen⟩
  | revoke => exact ⟨_, .revoke ⟨none, false⟩⟩
  | requestVariation =>
    have described : Text.isBlankText "quantity" = false := by decide
    exact ⟨_, .requestVariation ⟨0, "", "", ""⟩ described⟩

end CaseAction

/-- Each action of a search result that can be done here stands for an operation, which is taken
when it is performed next unless the case is completed without a pack in force. Then the variation
of an import and the revocation of an export are offered in vain, and nothing else is. -/
theorem offered_taken_iff {system : System} (reached : Reachable system) (setting : Setting)
    {terms : SearchTerms} {limit : Option Nat} {results : SearchResults}
    (searched : (system.perform setting (.search terms limit)).1 = .ok (.results results))
    {row : ResultRow} (shown : row ∈ results.rows) {action : SearchAction}
    (offered : action ∈ row.actions) (here : action.url ≠ "#") :
    (∃ operation, action.Names operation) ∧
      (∀ later operation, action.Names operation →
        (system.Takes ⟨later, operation⟩ ↔ ¬ system.store.Unissued terms.caseType row.id)) ∧
      (system.store.Unissued terms.caseType row.id →
        action.url = (if terms.caseType = .importing then CaseAction.requestVariation
          else .revoke).address terms.caseType row.id) := by
  obtain ⟨steps, rfl⟩ := reachable_iff.1 reached
  obtain ⟨found, count, looked, rows⟩ := System.exists_found_of_search searched
  rw [rows] at shown
  obtain ⟨application, member, rfl⟩ := List.mem_map.1 shown
  have stored := stored_of_found looked (List.mem_of_mem_take member)
  obtain ⟨file, kept, rfl⟩ := Store.exists_fileOf (Table.find?_eq_some_iff.2 ⟨stored, rfl⟩)
  have kind : file.application.caseType = terms.caseType := by
    obtain ⟨status, compiles, -⟩ := found_eq_ok_iff.1 looked
    exact caseType_of_admits ((mem_found compiles looked).1 (List.mem_of_mem_take member)).2
  obtain ⟨asked, offers, address⟩ := Finding.offers offered here
  rw [id_row]
  refine ⟨?_, fun later operation named => ?_, fun unissued => ?_⟩
  · obtain ⟨operation, does⟩ := asked.exists_does terms.caseType file.application.id
    exact ⟨operation, asked, _, _, address, does⟩
  · exact System.takes_offered_iff steps kept kind offers (named.does address) later
  · rw [← System.offered_in_vain steps kept offers unissued]
    exact address

namespace Finding

variable (finding : Finding) (complete : finding.application.status = .completed)
include complete

theorem exists_variation (today : Date) : ∃ action ∈ finding.importActions today,
    action.url = CaseAction.requestVariation.address .importing finding.application.id :=
  ⟨_, by rw [importActions, complete]; exact List.mem_cons_self, rfl⟩

theorem exists_revocation : ∃ action ∈ finding.exportActions,
    action.url = CaseAction.revoke.address .exporting finding.application.id :=
  ⟨_, by rw [exportActions, complete]; exact List.mem_cons_of_mem _ List.mem_cons_self, rfl⟩

end Finding

theorem CaseAction.address_ne (action : CaseAction) (caseType : CaseType) (id : Nat) :
    action.address caseType id ≠ "#" := by
  intro same
  have letters := congrArg (fun text => text.toList.head?) same
  simp [toList_address] at letters

namespace Sample

def imports : SearchTerms := { caseType := .importing }

def looked : Setting := variation.setting

structure Completed (steps : List Step) (terms : SearchTerms) : Prop where
  alone : (System.initial.follow steps).store.applications.rows.length = 1
  complete : ∀ application ∈ (System.initial.follow steps).store.applications.rows,
    application.id = 1 ∧ application.status = .completed ∧
      terms.admits none (System.initial.follow steps).store application = true

theorem Completed.searched {steps : List Step} {terms : SearchTerms}
    (completed : Completed steps terms) (compiles : terms.statusFilter = .ok none) :
    ∃ application, application.id = 1 ∧ application.status = .completed ∧
      ((System.initial.follow steps).perform looked (.search terms (some 1))).1 =
        .ok (.results ⟨1, [terms.row (System.initial.follow steps).store looked.now.date
          application]⟩) := by
  obtain ⟨application, only⟩ := List.length_eq_one_iff.1 completed.alone
  have member : application ∈ (System.initial.follow steps).store.applications.rows := by
    rw [only]
    exact List.mem_singleton_self _
  obtain ⟨number, complete, admitted⟩ := completed.complete application member
  have found : terms.found (System.initial.follow steps).store = .ok [application] := by
    refine found_eq_ok_iff.2 ⟨none, compiles, ?_⟩
    rw [only, List.filter_cons_of_pos admitted]
    exact List.mergeSort_singleton _
  refine ⟨application, number, complete, ?_⟩
  rw [System.perform_fst]
  have ran := System.search_run looked (System.isPoisoned_follow steps) found 1
  exact congrArg Prod.fst (Work.map_eq_ok_iff.2 ⟨_, ran, rfl⟩)

theorem issued_completed : Completed issued exports := by
  constructor <;> decide +kernel

theorem issued_in_force :
    ∃ pack ∈ (System.initial.follow issued).store.packsOf 1, pack.status = .active := by
  decide +kernel

theorem refused_completed : Completed refused imports := by
  constructor <;> decide +kernel

def certificateRevocation : Operation := .revoke .exporting 1 ⟨some "obtained by fraud", false⟩

end Sample

theorem issued_revocation_taken :
    Reachable (System.initial.follow Sample.issued) ∧
      ∃ results row action,
        ((System.initial.follow Sample.issued).perform Sample.looked
          (.search Sample.exports (some 1))).1 = .ok (.results results) ∧
        row ∈ results.rows ∧ action ∈ row.actions ∧ action.url ≠ "#" ∧
        action.Names Sample.certificateRevocation ∧
        (System.initial.follow Sample.issued).Takes
          ⟨Sample.looked, Sample.certificateRevocation⟩ := by
  have reached : Reachable (System.initial.follow Sample.issued) := reachable_iff.2 ⟨_, rfl⟩
  obtain ⟨application, number, complete, searched⟩ := Sample.issued_completed.searched rfl
  obtain ⟨action, offered, url⟩ := Finding.exists_revocation
    (.of (System.initial.follow Sample.issued).store application) complete
  rw [show (Finding.of (System.initial.follow Sample.issued).store application).application.id = 1
    from number] at url
  have here : action.url ≠ "#" := url ▸ CaseAction.address_ne _ _ _
  have names : action.Names Sample.certificateRevocation := ⟨_, _, _, url, .revoke _⟩
  have shown := List.mem_singleton_self
    (Sample.exports.row (System.initial.follow Sample.issued).store Sample.looked.now.date
      application)
  obtain ⟨-, taken_iff, -⟩ := offered_taken_iff reached Sample.looked searched shown offered here
  refine ⟨reached, _, _, action, searched, shown, offered, here, names, ?_⟩
  refine (taken_iff Sample.looked _ names).2 fun unissued => ?_
  obtain ⟨pack, stored, active⟩ := Sample.issued_in_force
  rw [id_row, number] at unissued
  exact unissued.missing pack stored active

/-- The variation of a refused import is offered and fails. -/
theorem refused_variation_offered :
    ∃ results row action,
      Reachable (System.initial.follow Sample.refused) ∧
        ((System.initial.follow Sample.refused).perform Sample.looked
          (.search Sample.imports (some 1))).1 = .ok (.results results) ∧
        row ∈ results.rows ∧ action ∈ row.actions ∧ action.url ≠ "#" ∧
        action.Names Sample.variation.operation ∧
        ¬ (System.initial.follow Sample.refused).Takes
          ⟨Sample.looked, Sample.variation.operation⟩ := by
  have reached : Reachable (System.initial.follow Sample.refused) := reachable_iff.2 ⟨_, rfl⟩
  obtain ⟨application, number, complete, searched⟩ := Sample.refused_completed.searched rfl
  obtain ⟨action, offered, url⟩ := Finding.exists_variation
    (.of (System.initial.follow Sample.refused).store application) complete
    Sample.looked.now.date
  rw [show (Finding.of (System.initial.follow Sample.refused).store application).application.id = 1
    from number] at url
  have described : Text.isBlankText "quantity" = false := by decide
  refine ⟨_, _, action, reached, searched, List.mem_singleton_self _, offered,
    url ▸ CaseAction.address_ne _ _ _, ⟨_, _, _, url, .requestVariation _ described⟩, ?_⟩
  exact System.not_takes_of_misses _ _ (.requestVariation described Sample.refused_unissued)

end Casework
