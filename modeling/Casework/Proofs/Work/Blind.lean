import Casework.Proofs.Store.Solo
import Casework.Proofs.Work.Steps

set_option autoImplicit false

namespace Casework

open Calendar
open Numbered (number)

namespace Work

variable {α β ε : Type}

def Runs (work : Work α) (context : Context) (store : Store) (answer : Except CaseError α)
    (after : Store) (delivered : List LicencePayload) : Prop :=
  ∀ accepted, work context ⟨store, accepted⟩ = (answer, ⟨after, accepted ++ delivered⟩)

/-- The work goes the same way in the store of the case alone, and any value is as `holds` says. -/
def Blind (id : Nat) (own : Nat → Bool) (holds : α → Prop) (work : Work α) : Prop :=
  ∀ context store, store.Covers id own → ∃ answer after delivered,
    work.Runs context store answer after delivered ∧
    work.Runs context (store.solo id own) answer (after.solo id own) delivered ∧
    after.Covers id own ∧ ∀ value, answer = .ok value → holds value

section Runs

variable {first : Work α} {next : α → Work β} {context : Context} {store between after : Store}
  {earlier later : List LicencePayload}

theorem Runs.bind {middle : α} {answer : Except CaseError β}
    (before : first.Runs context store (.ok middle) between earlier)
    (rest : (next middle).Runs context between answer after later) :
    (first >>= next).Runs context store answer after (earlier ++ later) := by
  intro accepted
  rw [bind_def, andThen, before accepted]
  exact (rest _).trans (by rw [List.append_assoc])

theorem Runs.fail {error : CaseError}
    (failed : first.Runs context store (.error error) after earlier) :
    (first >>= next).Runs context store (.error error) after earlier := by
  intro accepted
  rw [bind_def, andThen, failed accepted]

end Runs

section Blind

variable {id : Nat} {own : Nat → Bool} {holds : α → Prop} {result : β → Prop}

theorem Blind.bind {first : Work α} {next : α → Work β} (before : Blind id own holds first)
    (rest : ∀ value, holds value → Blind id own result (next value)) :
    Blind id own result (first >>= next) := by
  intro context store covers
  obtain ⟨answer, between, earlier, runs, alone, kept, held⟩ := before context store covers
  cases answer with
  | error error =>
    exact ⟨.error error, between, earlier, runs.fail, alone.fail, kept, fun _ done => by cases done⟩
  | ok middle =>
    obtain ⟨answer, after, later, runs_rest, alone_rest, kept_rest, held_rest⟩ :=
      rest middle (held middle rfl) context between kept
    exact ⟨answer, after, earlier ++ later, runs.bind runs_rest, alone.bind alone_rest, kept_rest,
      held_rest⟩

theorem Blind.mono {work : Work α} (blind : Blind id own holds work) :
    Blind id own (fun _ => True) work := by
  intro context store covers
  obtain ⟨answer, after, delivered, runs, alone, kept, -⟩ := blind context store covers
  exact ⟨answer, after, delivered, runs, alone, kept, fun _ _ => trivial⟩

theorem Blind.of_read {work : Work α} (answer : Context → Store → Except CaseError α)
    (runs : ∀ context store accepted,
      work context ⟨store, accepted⟩ = (answer context store, ⟨store, accepted⟩))
    (same : ∀ context store, store.Covers id own →
      answer context (store.solo id own) = answer context store)
    (held : ∀ context store value, store.Covers id own → answer context store = .ok value →
      holds value) : Blind id own holds work := by
  intro context store covers
  refine ⟨answer context store, store, [], fun accepted => ?_, fun accepted => ?_, covers,
    fun value => held context store value covers⟩
  · rw [runs, List.append_nil]
  · rw [runs, List.append_nil, same context store covers]

theorem Blind.of_write {work : Work α} (value : Store → α) (change : Context → Store → Store)
    (runs : ∀ context store accepted,
      work context ⟨store, accepted⟩ = (.ok (value store), ⟨change context store, accepted⟩))
    (same : ∀ store, store.Covers id own → value (store.solo id own) = value store)
    (alone : ∀ context store, store.Covers id own →
      (change context store).solo id own = change context (store.solo id own))
    (covers : ∀ context store, store.Covers id own → (change context store).Covers id own)
    (held : ∀ store, store.Covers id own → holds (value store)) : Blind id own holds work := by
  intro context store owned
  refine ⟨.ok (value store), change context store, [], fun accepted => ?_, fun accepted => ?_,
    covers context store owned, fun _ done => by cases done; exact held store owned⟩
  · rw [runs, List.append_nil]
  · rw [runs, List.append_nil, same store owned, alone context store owned]

section Reading

theorem blind_pure {value : α} (held : holds value) : Blind id own holds (pure value : Work α) :=
  .of_read (fun _ _ => .ok value) (fun _ _ _ => rfl) (fun _ _ _ => rfl) fun _ _ _ _ done => by
    cases done
    exact held

theorem Blind.map {work : Work α} (blind : Blind id own holds work) (change : α → β) :
    Blind id own (fun _ => True) (change <$> work) := by
  rw [← bind_pure_comp]
  exact blind.bind fun _ _ => blind_pure trivial

theorem blind_refuse (error : CaseError) : Blind id own holds (refuse error : Work α) :=
  .of_read (fun _ _ => .error error) (fun _ _ _ => rfl) (fun _ _ _ => rfl) fun _ _ _ _ done => by
    cases done

theorem blind_now : Blind id own (fun _ => True) now :=
  .of_read (fun context _ => .ok context.now) (fun _ _ _ => rfl) (fun _ _ _ => rfl)
    fun _ _ _ _ _ => trivial

theorem blind_context : Blind id own (fun _ => True) Work.context :=
  .of_read (fun context _ => .ok context) (fun _ _ _ => rfl) (fun _ _ _ => rfl)
    fun _ _ _ _ _ => trivial

theorem blind_enter : Blind id own (fun _ => True) enter :=
  .of_read (fun _ _ => _) (fun _ _ _ => rfl) (fun _ _ _ => rfl) fun _ _ _ _ _ => trivial

theorem blind_require (condition : Bool) (error : CaseError) :
    Blind id own (fun _ => True) (require condition error) := by
  cases condition
  · exact blind_refuse error
  · exact blind_pure trivial

theorem blind_ofExcept (wrap : ε → CaseError) (answer : Except ε α) :
    Blind id own (fun _ => True) (ofExcept wrap answer) := by
  cases answer with
  | error failure => exact blind_refuse (wrap failure)
  | ok value => exact blind_pure trivial

theorem blind_read {question : Store → α}
    (same : ∀ store : Store, store.Covers id own → question (store.solo id own) = question store) :
    Blind id own (fun _ => True) (read question) :=
  .of_read (fun _ store => .ok (question store)) (fun _ _ _ => rfl)
    (fun _ store covers => congrArg Except.ok (same store covers)) fun _ _ _ _ _ => trivial

theorem blind_ask {wrap : ε → CaseError} {question : Store → Except ε α}
    (same : ∀ store : Store, question (store.solo id own) = question store)
    (held : ∀ store value, store.Covers id own → question store = .ok value → holds value) :
    Blind id own holds (ask wrap question) := by
  refine .of_read (fun _ store => (question store).mapError wrap) (fun context store accepted => ?_)
    (fun _ store _ => by rw [same]) fun _ store value covers done => ?_
  · cases answered : question store <;> simp only [ask, answered] <;> rfl
  · cases answered : question store with
    | error failure =>
      rw [answered] at done
      cases done
    | ok found =>
      rw [answered, mapError_ok] at done
      cases done
      exact held store value covers answered

theorem blind_checkFlow {question : Store → Except FlowError α}
    (same : ∀ store : Store, question (store.solo id own) = question store) :
    Blind id own (fun _ => True) (checkFlow question) :=
  blind_ask same fun _ _ _ _ => trivial

theorem blind_findApplication :
    Blind id own (fun application => application.id = id) (findApplication id) := by
  refine blind_ask (fun store => ?_) fun store application _ found => ?_
  · simp only [Store.application, Store.solo_find?]
  · unfold Store.application at found
    split at found
    next stored =>
      cases found
      exact (Table.find?_eq_some_iff.1 stored).2
    next => cases found

theorem blind_load (caseType : CaseType) :
    Blind id own (fun application => application.id = id) (load caseType id) :=
  .bind blind_enter fun _ _ => .bind blind_findApplication fun _ mine =>
    .bind (blind_require _ _) fun _ _ => blind_pure mine

theorem blind_currentTask (expected : List CaseStatus) (taskType : TaskType) :
    Blind id own (fun _ => True) (currentTask id expected taskType) := by
  refine .bind blind_findApplication fun application mine => blind_checkFlow fun store => ?_
  simp only [Standing.currentTask, Standing.expectedTask, Application.standing, mine,
    TaskTable.activeOf, TaskTable.active, Store.solo_ofProcess]

theorem blind_loadWithTask (caseType : CaseType) (expected : List CaseStatus)
    (taskType : TaskType) :
    Blind id own (fun found => found.1.id = id) (loadWithTask caseType id expected taskType) :=
  .bind (blind_load caseType) fun _ mine => .bind (blind_currentTask _ _) fun _ _ =>
    blind_pure mine

theorem blind_findEntry (entries : List α) (wanted : α → Bool) (unknown : InvalidRequest) :
    Blind id own (fun _ => True) (findEntry entries wanted unknown) := by
  unfold findEntry
  split
  · exact blind_pure trivial
  · exact blind_refuse _

theorem blind_decisionReason (input : DecisionInput) :
    Blind id own (fun _ => True) (decisionReason input) := by
  unfold decisionReason
  split
  · exact blind_pure trivial
  · exact .bind (blind_require _ _) fun _ _ => blind_pure trivial
  · exact blind_refuse _

theorem own_of_singlePack {store : Store} (covers : store.Covers id own) {status : PackStatus}
    {pack : Pack} (found : store.singlePack id status = .ok pack) : own pack.id = true := by
  unfold Store.singlePack at found
  split at found
  next only =>
    cases found
    have listed : pack ∈ (store.packsOf id).filter (·.status == status) := by simp [only]
    obtain ⟨stored, owned⟩ := List.mem_filter.1 (List.mem_filter.1 listed).1
    exact covers.packs pack stored (beq_iff_eq.1 owned)
  next => cases found
  next => cases found

theorem blind_findDraft : Blind id own (fun pack => own pack.id = true) (findDraft id) :=
  blind_ask (fun store => store.solo_singlePack id own .draft) fun _ _ covers =>
    own_of_singlePack covers

theorem blind_findActive : Blind id own (fun pack => own pack.id = true) (findActive id) :=
  blind_ask (fun store => store.solo_singlePack id own .active) fun _ _ covers =>
    own_of_singlePack covers

theorem blind_initialTerms {application : Application} (mine : application.id = id)
    (isVariation : Bool) :
    Blind id own (fun _ => True) (initialTerms application isVariation) := by
  subst mine
  unfold initialTerms
  split
  · split
    · exact .bind blind_findActive fun _ _ => blind_pure trivial
    · exact blind_pure trivial
  · exact blind_pure trivial

end Reading

section Writing

theorem blind_write {change : Store → Store}
    (alone : ∀ store : Store, (change store).solo id own = change (store.solo id own))
    (covers : ∀ store, store.Covers id own → (change store).Covers id own) :
    Blind id own (fun _ => True) (write change) :=
  .of_write (fun _ => ()) (fun _ => change) (fun _ _ _ => rfl) (fun _ _ => rfl)
    (fun _ store _ => alone store) (fun _ => covers) fun _ _ => trivial

theorem blind_save {application : Application} (mine : application.id = id) :
    Blind id own (fun _ => True) (save application) := by
  subst mine
  refine .bind blind_findApplication fun _ _ => blind_write (fun store => ?_) fun _ covers =>
    ⟨covers.packs, covers.next⟩
  have kept : (store.applications.insert application).keep (number · == application.id) = _ :=
    Table.keep_insert store.applications (beq_self_eq_true _)
  simp only [Store.solo, kept]

theorem blind_saved {application : Application} (mine : application.id = id) :
    Blind id own (fun _ => True) (saved application) :=
  .bind (blind_save mine) fun _ _ => blind_pure trivial

theorem blind_removeApplication :
    Blind id own (fun _ => True) (removeApplication id) := by
  refine .bind blind_findApplication fun _ _ => .bind (blind_write ?_ fun store covers => ?_)
    fun _ _ => blind_pure trivial
  · exact fun store => store.solo_removeApplication id own
  · exact ⟨fun pack member => covers.packs pack (List.mem_filter.1 member).1, covers.next⟩

theorem blind_createTask (taskType : TaskType) (previous : Option Nat) :
    Blind id own (fun _ => True) (createTask id taskType previous) :=
  .bind blind_now fun now _ => blind_write
    (fun store => by simp only [Store.solo, TaskTable.solo_create])
    fun _ covers => ⟨covers.packs, covers.next⟩

theorem blind_finishTask (task : Nat) (owner : Option Nat) :
    Blind id own (fun _ => True) (finishTask task owner) :=
  .bind blind_now fun now _ => blind_write
    (fun store => by simp only [Store.solo, TaskTable.solo_finish])
    fun _ covers => ⟨covers.packs, covers.next⟩

theorem blind_finishAllTasks : Blind id own (fun _ => True) (finishAllTasks id) :=
  .bind blind_now fun now _ => blind_write
    (fun store => by simp only [Store.solo, TaskTable.solo_finishAll])
    fun _ covers => ⟨covers.packs, covers.next⟩

theorem blind_finishWait {application : Application} (mine : application.id = id) :
    Blind id own (fun _ => True) (finishWait application) := by
  subst mine
  exact .bind (blind_currentTask _ _) fun _ _ => .bind (blind_finishTask _ _) fun _ _ =>
    blind_pure trivial

theorem blind_counted {change : Store → Store} {count : Store → α}
    (alone : ∀ store : Store, (change store).solo id own = change (store.solo id own))
    (covers : ∀ store, store.Covers id own → (change store).Covers id own)
    (same : ∀ store : Store, count (store.solo id own) = count store) :
    Blind id own (fun _ => True) (do write change; read count) :=
  .bind (blind_write alone covers) fun _ _ => blind_read fun store _ => same store

theorem blind_nextRecord : Blind id own (fun _ => True) nextRecord :=
  blind_counted (fun _ => rfl) (fun _ covers => ⟨covers.packs, covers.next⟩) fun _ => rfl

theorem blind_nextDocument : Blind id own (fun _ => True) nextDocument :=
  blind_counted (fun _ => rfl) (fun _ covers => ⟨covers.packs, covers.next⟩) fun _ => rfl

theorem blind_nextRequest : Blind id own (fun _ => True) nextRequest :=
  blind_counted (fun _ => rfl) (fun _ covers => ⟨covers.packs, covers.next⟩) fun _ => rfl

theorem blind_nextPack : Blind id own (fun packId => own packId = true) nextPack := by
  refine .of_write (fun store => store.lastPack + 1)
    (fun _ store => { store with lastPack := store.lastPack + 1 }) (fun _ _ _ => rfl)
    (fun _ _ => rfl) (fun _ _ _ => rfl)
    (fun _ store covers => ⟨covers.packs, fun packId newer => ?_⟩)
    fun store covers => covers.next _ (Nat.lt_succ_self _)
  exact covers.next packId (Nat.lt_trans (Nat.lt_succ_self _) newer)

theorem blind_draw (series : String) (year : Option Int) :
    Blind id own (fun _ => True) (draw series year) :=
  blind_counted (fun _ => rfl) (fun _ covers => ⟨covers.packs, covers.next⟩) fun _ => rfl

theorem blind_drawYearly (reading : Nat) (series : String) :
    Blind id own (fun _ => True) (drawYearly reading series) :=
  .bind blind_context fun _ _ => .bind (blind_draw _ _) fun _ _ => blind_pure trivial

theorem blind_licenceReference (wrap : Reference.ReferenceError → CaseError)
    {application : Application} (mine : application.id = id) (paperOnly : Option Bool) :
    Blind id own (fun named => named.2.id = id) (licenceReference wrap application paperOnly) := by
  have numbered : Blind id own (fun drawn => drawn.2.id = id) (withLicenceNumber application) := by
    unfold withLicenceNumber
    split
    · exact blind_pure mine
    · exact .bind (blind_draw _ _) fun _ _ => blind_pure mine
  exact .bind numbered fun _ mine => .bind (blind_ofExcept _ _) fun _ _ => blind_pure mine

theorem blind_changePack (packId : Nat) {change : Pack → Pack}
    (same : ∀ pack, (change pack).id = pack.id)
    (owner : ∀ pack, (change pack).processId = pack.processId) :
    Blind id own (fun _ => True) (changePack packId change) := by
  refine blind_write (fun store => ?_) fun store covers =>
    ⟨fun pack member owned => ?_, covers.next⟩
  · have kept : (store.packs.modify packId change).keep (·.processId == id) = _ :=
      Table.keep_modify store.packs packId same fun pack => by rw [owner]
    simp only [Store.solo, kept]
  · rw [Table.rows_modify _ _ same] at member
    obtain ⟨row, stored, rfl⟩ := Table.mem_changeAt.1 member
    split
    next picked =>
      rw [if_pos picked, owner] at owned
      rw [same]
      exact covers.packs row stored owned
    next other =>
      rw [if_neg other] at owned
      exact covers.packs row stored owned

theorem blind_archiveDraft : Blind id own (fun _ => True) (archiveDraft id) :=
  .bind blind_findDraft fun _ _ => blind_changePack _ (fun _ => rfl) fun _ => rfl

theorem blind_revokeActive (reason : Option String) (emailSent : Bool) :
    Blind id own (fun _ => True) (revokeActive id reason emailSent) :=
  .bind blind_findActive fun _ _ => .bind (blind_changePack _ (fun _ => rfl) fun _ => rfl)
    fun _ _ => blind_pure trivial

theorem blind_updateDraft (changes : LicenceUpdate) :
    Blind id own (fun _ => True) (updateDraft id changes) :=
  .bind blind_findDraft fun _ _ => blind_changePack _ (fun _ => rfl) fun _ => rfl

theorem blind_issueDraft {application : Application} (mine : application.id = id) :
    Blind id own (fun _ => True) (issueDraft application) := by
  subst mine
  refine .bind blind_findDraft fun draft _ => .bind (blind_ask (fun store => ?_) fun _ _ _ _ =>
    trivial) fun earlier _ => .bind blind_now fun now _ => ?_
  · simp only [Store.activePack?, Store.activePack, Store.solo_singlePack]
  · have issued : Blind application.id own (fun _ => True) (do
        changePack draft.id (·.issued application.reference now)
        pure draft.id) :=
      .bind (blind_changePack _ (fun _ => rfl) fun _ => rfl) fun _ _ => blind_pure trivial
    cases earlier with
    | some pack => exact .bind (blind_changePack _ (fun _ => rfl) fun _ => rfl) fun _ _ => issued
    | none => exact issued

theorem blind_createDraft {application : Application} (mine : application.id = id)
    (isVariation : Bool) : Blind id own (fun _ => True) (createDraft application isVariation) := by
  refine .bind (blind_initialTerms mine _) fun terms _ => .bind blind_nextPack fun packId fresh =>
    .bind blind_now fun now _ => .bind (blind_write (fun store => ?_) fun store covers => ?_)
      fun _ _ => blind_pure trivial
  · simp only [Store.solo, Store.mk.injEq, true_and, and_true]
    exact Table.keep_insert store.packs (beq_iff_eq.2 mine)
  · refine ⟨fun pack member owned => ?_, covers.next⟩
    rcases Table.mem_rows_insert member with rfl | member
    · exact fresh
    · exact covers.packs pack member owned

theorem blind_addDocument {packId : Nat} (mine : own packId = true) (documentType : DocumentType)
    (reference country brand : Option String) :
    Blind id own (fun _ => True) (addDocument packId documentType reference country brand) := by
  refine .bind blind_nextDocument fun number _ => blind_write (fun store => ?_) fun _ covers =>
    ⟨covers.packs, covers.next⟩
  simp only [Store.solo, Store.mk.injEq, true_and, and_true]
  exact Table.keep_insert store.documents mine

theorem blind_addCertificates {packId : Nat} (mine : own packId = true) (processType : ProcessType)
    (reading : Nat) (subjects : List (String × Option String)) :
    Blind id own (fun _ => True) (addCertificates packId processType reading subjects) := by
  induction subjects generalizing reading with
  | nil => exact blind_pure trivial
  | cons subject subjects ih =>
    refine .bind (.bind (blind_ofExcept _ _) fun series _ => blind_drawYearly reading series)
      fun reference _ => ?_
    exact .bind (blind_addDocument mine _ _ _ _) fun _ _ => ih (reading + 1)

theorem blind_createDocuments {application : Application} (mine : application.id = id) :
    Blind id own (fun documented => documented.id = id) (createDocuments application) := by
  subst mine
  refine .bind blind_findDraft fun draft owned => .bind (blind_write (fun store => ?_)
    fun _ covers => ⟨covers.packs, covers.next⟩) fun _ _ => ?_
  · simp only [Store.solo, Table.keep_comm]
  · split
    · exact .bind (blind_addDocument owned _ _ _ _) fun _ _ =>
        .bind (blind_licenceReference _ rfl _) fun _ mine =>
          .bind (blind_addDocument owned _ _ _ _) fun _ _ => blind_pure mine
    · exact .bind (blind_addCertificates owned _ _ _) fun _ _ => blind_pure rfl

theorem solo_build {application : Application} (mine : application.id = id) (revoke : Bool)
    {store : Store} (covers : store.Covers id own) :
    LicencePayload.build (store.solo id own) application revoke =
      LicencePayload.build store application revoke := by
  have looked : ∀ store : Store, (if revoke then store.revokedPack application.id
      else store.draftPack application.id) =
        store.singlePack id (if revoke then .revoked else .draft) := by
    intro store
    cases revoke <;> rw [← mine] <;> rfl
  rw [LicencePayload.build, LicencePayload.build, looked, looked, Store.solo_singlePack]
  cases single : store.singlePack id (if revoke then .revoked else .draft) with
  | error error => rfl
  | ok pack =>
    have licence : (store.solo id own).licenceOf pack.id = store.licenceOf pack.id := by
      rw [Store.licenceOf, store.solo_documentsOf id own (own_of_singlePack covers single),
        Store.licenceOf]
    simp only [mapError_ok, bind, Except.bind, licence]

theorem blind_deliver (payload : LicencePayload) :
    Blind id own (fun _ => True) (deliver payload) := by
  intro context store covers
  cases refused : context.transport payload with
  | some reason =>
    exact ⟨.ok (some reason), store, [], fun _ => by simp [deliver, refused],
      fun _ => by simp [deliver, refused], covers, fun _ _ => trivial⟩
  | none =>
    exact ⟨.ok none, store, [payload], fun _ => by simp [deliver, refused],
      fun _ => by simp [deliver, refused], covers, fun _ _ => trivial⟩

theorem blind_deliverLicence {application : Application} (mine : application.id = id)
    (revoke sends : Bool) :
    Blind id own (fun _ => True) (deliverLicence application revoke sends) := by
  unfold deliverLicence
  split
  · refine .bind (blind_read fun _ covers => solo_build mine revoke covers) fun built _ => ?_
    cases built with
    | error error => exact blind_pure trivial
    | ok payload =>
      refine .bind (blind_deliver payload) fun refusal _ => ?_
      cases refusal <;> exact blind_pure trivial
  · exact blind_pure trivial

theorem blind_sendToChief {application : Application} (mine : application.id = id)
    (previous : Option Nat) (revoke sends : Bool) :
    Blind id own (fun _ => True) (sendToChief application previous revoke sends) := by
  subst mine
  refine .bind (blind_deliverLicence rfl _ _) fun outcome _ => .bind blind_nextRequest
    fun number _ => .bind blind_now fun now _ =>
      .bind (blind_write (fun store => ?_) fun _ covers => ⟨covers.packs, covers.next⟩) fun _ _ =>
        .bind (blind_createTask _ _) fun _ _ => blind_pure trivial
  have owned : (requestOf number application now outcome).processId = application.id := by
    cases outcome <;> rfl
  simp only [Store.solo, Store.mk.injEq, true_and, and_true]
  exact Table.keep_insert store.requests (beq_iff_eq.2 owned)

theorem blind_changeRequest (requestId : Nat) {change : ChiefRequest → ChiefRequest}
    (same : ∀ request, (change request).id = request.id)
    (owner : ∀ request, (change request).processId = request.processId) :
    Blind id own (fun _ => True)
      (write fun store => { store with requests := store.requests.modify requestId change }) := by
  refine blind_write (fun store => ?_) fun _ covers => ⟨covers.packs, covers.next⟩
  have kept : (store.requests.modify requestId change).keep (·.processId == id) = _ :=
    Table.keep_modify store.requests requestId same fun request => by rw [owner]
  simp only [Store.solo, kept]

theorem blind_completeRequest (requestId : Nat) :
    Blind id own (fun _ => True) (completeRequest requestId) :=
  .bind blind_now fun _ _ => blind_changeRequest _ (fun _ => rfl) fun _ => rfl

theorem blind_failRequest (requestId : Nat) (errors : List ChiefResponseError) :
    Blind id own (fun _ => True) (failRequest requestId errors) :=
  .bind blind_now fun _ _ => blind_changeRequest _ (fun _ => rfl) fun _ => rfl

theorem blind_answerRequest {answer : Nat → Work Unit}
    (blind : ∀ requestId, Blind id own (fun _ => True) (answer requestId)) :
    Blind id own (fun _ => True) (answerRequest id answer) := by
  refine .bind (blind_read fun store _ => ?_) fun request _ => ?_
  · simp only [Store.awaitedRequest, Store.solo_requestsOf]
  · cases request with
    | some request => exact blind request.id
    | none => exact blind_pure trivial

end Writing

section Operations

variable (caseType : CaseType)

theorem checkEditing_solo {application : Application} (mine : application.id = id) (store : Store) :
    application.checkEditing (store.solo id own).tasks = application.checkEditing store.tasks := by
  simp only [Application.checkEditing, Standing.checkTask, Application.standing, mine,
    TaskTable.activeTypes, TaskTable.active, Store.solo_ofProcess]

theorem expectedTask_solo {application : Application} (mine : application.id = id)
    (taskType : TaskType) (store : Store) :
    application.standing.expectedTask (store.solo id own).tasks taskType =
      application.standing.expectedTask store.tasks taskType := by
  simp only [Standing.expectedTask, Application.standing, mine, TaskTable.activeOf,
    TaskTable.active, Store.solo_ofProcess]

theorem hasActive_solo (taskType : TaskType) (store : Store) :
    (store.solo id own).tasks.hasActive id taskType = store.tasks.hasActive id taskType := by
  simp only [TaskTable.hasActive, TaskTable.active, Store.solo_ofProcess]

theorem view_solo {application : Application} (mine : application.id = id) {store : Store}
    (covers : store.Covers id own) :
    CaseView.of (store.solo id own) application = CaseView.of store application := by
  have drafted : (store.solo id own).draftPack id = store.draftPack id :=
    store.solo_singlePack id own .draft
  simp only [CaseView.of, mine, drafted, TaskTable.activeTypes, TaskTable.active,
    Store.issuedPacks, Store.solo_ofProcess, Store.solo_packsOf]
  cases found : store.draftPack id with
  | error error => rfl
  | ok pack =>
    simp only [Except.toOption, Option.map_some,
      store.solo_documentsOf id own (own_of_singlePack covers found)]

theorem authorisationErrors_solo {application : Application} (mine : application.id = id)
    (store : Store) :
    application.authorisationErrors (store.solo id own) =
      application.authorisationErrors store := by
  simp only [Application.authorisationErrors, Store.draftPack, mine, Store.solo_singlePack]

theorem blind_edit (goods : Goods) : Blind id own (fun _ => True) (edit caseType id goods) :=
  .bind (blind_load caseType) fun _ mine => .bind (blind_checkFlow (checkEditing_solo mine))
    fun _ _ => .bind (blind_require _ _) fun _ _ => blind_saved mine

theorem blind_cancel : Blind id own (fun _ => True) (cancel caseType id) :=
  .bind (blind_load caseType) fun _ _ => .bind (blind_currentTask _ _) fun _ _ =>
    .bind blind_removeApplication fun _ _ => blind_pure trivial

theorem blind_handIn {application : Application} (mine : application.id = id) (user : User)
    (task : Task) (reference : String) :
    Blind id own (fun _ => True) (handIn application id user task reference) := by
  refine .bind blind_now fun _ _ => .bind (blind_finishTask _ _) fun _ _ =>
    .bind (blind_read fun store _ => hasActive_solo _ store) fun _ _ => ?_
  split
  · exact blind_saved mine
  · exact .bind (blind_createTask _ _) fun _ _ => blind_saved mine

theorem blind_submit (user : User) : Blind id own (fun _ => True) (submit caseType id user) := by
  refine .bind (blind_load caseType) fun application mine =>
    .bind (blind_checkFlow (checkEditing_solo mine)) fun _ _ =>
      .bind (blind_checkFlow (expectedTask_solo mine _)) fun task _ =>
        .bind (blind_require _ _) fun _ _ => ?_
  have rest : ∀ reference : String, True →
      Blind id own (fun _ => True) (handIn application id user task reference) :=
    fun reference _ => blind_handIn mine user task reference
  split
  · exact .bind (blind_pure trivial) rest
  · exact .bind (blind_drawYearly _ _) rest

theorem blind_takeOwnership (user : User) :
    Blind id own (fun _ => True) (takeOwnership caseType id user) := by
  refine .bind (blind_loadWithTask caseType _ _) fun (application, _) mine => ?_
  dsimp only
  split
  · refine .bind blind_findDraft fun draft _ => ?_
    split
    · exact .bind blind_now fun _ _ => .bind (blind_updateDraft _) fun _ _ => blind_saved mine
    · exact blind_saved mine
  · exact blind_saved mine

theorem blind_reassign (owner : User) :
    Blind id own (fun _ => True) (reassign caseType [id] owner) := by
  refine .bind blind_enter fun _ _ => .bind (blind_load caseType) fun application mine => ?_
  split
  · have others : Blind id own (fun _ => True) (pure [] : Work (List Nat)) := blind_pure trivial
    exact .bind (blind_save mine) fun _ _ => .bind others fun _ _ => blind_pure trivial
  · exact blind_pure trivial

theorem blind_editLicence (changes : LicenceUpdate) :
    Blind id own (fun _ => True) (editLicence caseType id changes) :=
  .bind (blind_load caseType) fun _ _ => .bind (blind_require _ _) fun _ _ =>
    .bind (blind_currentTask _ _) fun _ _ => .bind (blind_require _ _) fun _ _ =>
      .bind blind_findDraft fun _ _ => .bind (blind_require _ _) fun _ _ =>
        .bind (blind_updateDraft _) fun _ _ => blind_findDraft.mono

theorem blind_completeChecklist (checklist : Checklist) :
    Blind id own (fun _ => True) (completeChecklist caseType id checklist) :=
  .bind (blind_loadWithTask caseType _ _) fun _ mine => .bind (blind_require _ _) fun _ _ =>
    blind_saved mine

theorem blind_decide (input : DecisionInput) :
    Blind id own (fun _ => True) (Work.decide caseType id input) := by
  refine .bind (blind_loadWithTask caseType _ _) fun _ mine =>
    .bind (blind_decisionReason input) fun _ _ => blind_saved ?_
  unfold Application.withDecision
  split <;> exact mine

theorem blind_startAuthorisation (user : User) :
    Blind id own (fun _ => True) (startAuthorisation caseType id user) := by
  refine .bind (blind_loadWithTask caseType _ _) fun (application, task) mine =>
    .bind (blind_read fun store _ => authorisationErrors_solo mine store) fun errors _ =>
      .bind (blind_require _ _) fun _ _ => .bind (blind_finishTask _ _) fun _ _ => ?_
  split
  · split
    · exact .bind blind_now fun _ _ => .bind blind_archiveDraft fun _ _ => blind_saved mine
    · exact .bind (blind_createTask _ _) fun _ _ => .bind blind_archiveDraft fun _ _ =>
        blind_saved mine
  · exact .bind (blind_createTask _ _) fun _ _ => .bind (blind_createDocuments mine) fun _ mine =>
      blind_saved mine

theorem blind_authoriseDocuments (user : User) :
    Blind id own (fun _ => True) (authoriseDocuments caseType id user) :=
  .bind (blind_loadWithTask caseType _ _) fun _ _ => .bind (blind_finishTask _ _) fun _ _ =>
    .bind (blind_createTask _ _) fun _ _ => blind_pure trivial

theorem blind_sendAndSave {application : Application} (mine : application.id = id)
    (previous : Option Nat) (revoke : Bool) :
    Blind id own (fun _ => True) (do
      let context ← Work.context
      let _ ← sendToChief application previous revoke context.sendsLicences
      saved application) :=
  .bind blind_context fun _ _ => .bind (blind_sendToChief mine _ _ _) fun _ _ => blind_saved mine

theorem blind_documentsSigned :
    Blind id own (fun _ => True) (documentsSigned caseType id) := by
  refine .bind (blind_loadWithTask caseType _ _) fun (application, task) mine =>
    .bind (blind_finishTask _ _) fun _ _ => ?_
  split
  · exact blind_sendAndSave mine _ _
  · exact .bind blind_now fun _ _ => .bind (blind_issueDraft mine) fun _ _ => blind_saved mine

theorem blind_replaceTask (ended created : TaskType) :
    Blind id own (fun _ => True) (replaceTask caseType id ended created) :=
  .bind (blind_loadWithTask caseType _ _) fun _ _ => .bind (blind_finishTask _ _) fun _ _ =>
    .bind (blind_createTask _ _) fun _ _ => blind_pure trivial

theorem blind_requestWithdrawal (user : User) (reason : String) :
    Blind id own (fun _ => True) (requestWithdrawal caseType id user reason) :=
  .bind (blind_require _ _) fun _ _ => .bind (blind_load caseType) fun _ mine =>
    .bind (blind_checkFlow fun _ => rfl) fun _ _ => .bind (blind_require _ _) fun _ _ =>
      .bind blind_nextRecord fun _ _ => blind_saved mine

theorem blind_respondToWithdrawal (user : User) (accept : Bool) (answer : Option String) :
    Blind id own (fun _ => True) (respondToWithdrawal caseType id user accept answer) := by
  refine .bind (blind_load caseType) fun application mine => .bind (blind_checkFlow fun _ => rfl)
    fun _ _ => .bind (blind_require _ _) fun _ _ => ?_
  split
  · refine .bind blind_now fun _ _ => .bind blind_finishAllTasks fun _ _ =>
      .bind blind_archiveDraft fun _ _ => blind_saved ?_
    unfold Application.withdraw
    split <;> exact mine
  · refine .bind (blind_read fun store _ => hasActive_solo _ store) fun _ _ => ?_
    split
    · exact blind_saved mine
    · exact .bind (blind_createTask _ _) fun _ _ => blind_saved mine

theorem blind_stop : Blind id own (fun _ => True) (stop caseType id) :=
  .bind (blind_loadWithTask caseType _ _) fun _ mine => .bind blind_now fun _ _ =>
    .bind blind_finishAllTasks fun _ _ => .bind blind_archiveDraft fun _ _ => blind_saved mine

theorem blind_reopen : Blind id own (fun _ => True) (reopen caseType id) :=
  .bind (blind_load caseType) fun _ mine => .bind (blind_checkFlow fun _ => rfl) fun _ _ =>
    .bind (blind_createTask _ _) fun _ _ => .bind (blind_createDraft mine _) fun _ _ =>
      blind_saved mine

theorem blind_revoke (input : RevokeInput) :
    Blind id own (fun _ => True) (revoke caseType id input) := by
  refine .bind (blind_load caseType) fun application mine => .bind (blind_checkFlow fun _ => rfl)
    fun _ _ => .bind (blind_revokeActive _ _) fun _ _ => ?_
  dsimp only
  split
  · refine blind_sendAndSave ?_ _ _
    exact mine
  · exact blind_saved mine

theorem blind_requestVariation (user : User) (whatVaried : String) :
    Blind id own (fun _ => True) (requestVariation caseType id user whatVaried) :=
  .bind (blind_require _ _) fun _ _ => .bind (blind_load caseType) fun _ mine =>
    .bind (blind_checkFlow fun _ => rfl) fun _ _ => .bind blind_nextRecord fun _ _ =>
      .bind blind_now fun _ _ => .bind (blind_ofExcept _ _) fun _ _ =>
        .bind (blind_createTask _ _) fun _ _ => .bind (blind_createDraft mine _) fun _ _ =>
          blind_saved mine

theorem blind_saveAndAnswer {application : Application} (mine : application.id = id) (answer : α) :
    Blind id own (fun _ => True) (do save application; pure answer) :=
  .bind (blind_save mine) fun _ _ => blind_pure trivial

theorem blind_respondToInformationRequest (entry : Nat) :
    Blind id own (fun _ => True) (respondToInformationRequest caseType id entry) := by
  refine .bind (blind_load caseType) fun _ mine => .bind (blind_checkFlow fun _ => rfl) fun _ _ =>
    .bind (blind_findEntry _ _ _) fun _ _ => .bind (blind_require _ _) fun _ _ =>
      blind_saveAndAnswer ?_ _
  exact mine

theorem blind_startUpdate (entry : Nat) :
    Blind id own (fun _ => True) (startUpdate caseType id entry) := by
  refine .bind (blind_load caseType) fun _ mine => .bind (blind_checkFlow fun _ => rfl) fun _ _ =>
    .bind (blind_findEntry _ _ _) fun _ _ => .bind (blind_require _ _) fun _ _ =>
      blind_saveAndAnswer ?_ _
  exact mine

theorem blind_closeInformationRequest (entry : Nat) :
    Blind id own (fun _ => True) (closeInformationRequest caseType id entry) := by
  refine .bind (blind_loadWithTask caseType _ _) fun _ mine => .bind (blind_findEntry _ _ _)
    fun _ _ => .bind (blind_require _ _) fun _ _ => blind_saveAndAnswer ?_ _
  exact mine

theorem blind_closeEmail (entry : Nat) :
    Blind id own (fun _ => True) (closeEmail caseType id entry) := by
  refine .bind (blind_loadWithTask caseType _ _) fun _ mine => .bind (blind_findEntry _ _ _)
    fun _ _ => .bind (blind_require _ _) fun _ _ => blind_saveAndAnswer ?_ _
  exact mine

theorem blind_addUpdateRequest (subject : String) :
    Blind id own (fun _ => True) (addUpdateRequest caseType id subject) := by
  refine .bind (blind_loadWithTask caseType _ _) fun _ mine => .bind (blind_require _ _)
    fun _ _ => .bind blind_now fun _ _ => .bind (blind_createTask _ _) fun _ _ =>
      blind_saveAndAnswer ?_ _
  exact mine

theorem blind_closeUpdateRequest (entry : Nat) :
    Blind id own (fun _ => True) (closeUpdateRequest caseType id entry) := by
  refine .bind (blind_loadWithTask caseType _ _) fun (application, _) mine =>
    .bind (blind_findEntry _ _ _) fun request _ => ?_
  split
  · exact blind_refuse _
  · split
    · refine .bind (blind_checkFlow (expectedTask_solo mine _)) fun _ _ =>
        .bind (blind_finishTask _ _) fun _ _ => blind_saveAndAnswer ?_ _
      exact mine
    · refine blind_saveAndAnswer ?_ _
      exact mine

theorem blind_approveLicence : Blind id own (fun _ => True) (approveLicence id) := by
  have answered : Blind id own (fun _ => True) (answerRequest id completeRequest) :=
    blind_answerRequest blind_completeRequest
  refine .bind blind_enter fun _ _ => .bind blind_findApplication fun application mine =>
    .bind (blind_finishWait mine) fun _ _ => ?_
  split
  · exact .bind answered fun _ _ => blind_save mine
  · exact .bind blind_now fun _ _ => .bind (blind_issueDraft mine) fun _ _ =>
      .bind answered fun _ _ => blind_save mine

theorem blind_rejectLicence (errors : List ChiefResponseError) :
    Blind id own (fun _ => True) (rejectLicence id errors) :=
  .bind blind_enter fun _ _ => .bind blind_findApplication fun _ mine =>
    .bind (blind_finishWait mine) fun _ _ => .bind (blind_createTask _ _) fun _ _ =>
      blind_answerRequest fun requestId => blind_failRequest requestId errors

theorem blind_resendLicence : Blind id own (fun _ => True) (resendLicence id) :=
  .bind blind_enter fun _ _ => .bind blind_findApplication fun _ mine =>
    .bind (blind_currentTask _ _) fun _ _ => .bind (blind_finishTask _ _) fun _ _ =>
      .bind blind_context fun _ _ => blind_sendToChief mine _ _ _

theorem blind_revertLicence : Blind id own (fun _ => True) (revertLicence id) :=
  .bind blind_enter fun _ _ => .bind (blind_currentTask _ _) fun _ _ =>
    .bind (blind_finishTask _ _) fun _ _ => blind_createTask _ _

end Operations

end Blind

end Work

namespace Operation

/-- The one case that the operation is addressed to, if there is one. -/
def case? : Operation → Option Nat
  | .get _ id | .view _ id | .edit _ id _ | .cancel _ id | .submit _ id _ | .takeOwnership _ id _
  | .releaseOwnership _ id | .reassign _ [id] _ | .completeChecklist _ id _ | .editLicence _ id _
  | .decide _ id _ | .startAuthorisation _ id _ | .authoriseDocuments _ id _ | .documentsSigned _ id
  | .documentsFailed _ id | .retrySigning _ id | .requestWithdrawal _ id _ _
  | .respondToWithdrawal _ id _ _ _ | .stop _ id | .reopen _ id | .revoke _ id _
  | .requestVariation _ id _ _ | .addInformationRequest _ id _ | .respondToInformationRequest _ id _
  | .closeInformationRequest _ id _ | .addUpdateRequest _ id _ | .startUpdate _ id _
  | .closeUpdateRequest _ id _ | .addEmail _ id _ | .closeEmail _ id _ | .approveLicence id
  | .rejectLicence id _ | .resendLicence id | .revertLicence id => some id
  | _ => none

open Work in
theorem blind_work {id : Nat} {own : Nat → Bool} {operation : Operation}
    (addressed : operation.case? = some id) : Blind id own (fun _ => True) operation.work := by
  cases operation
  case reassign caseType ids owner =>
    match ids, addressed with
    | [_], rfl => exact .map (blind_reassign _ _) _
  all_goals cases addressed
  case get => exact .map (blind_load _) _
  case view =>
    exact .map (.bind (blind_load _) fun _ mine =>
      blind_read fun _ covers => view_solo mine covers) _
  case edit => exact .map (blind_edit _ _) _
  case cancel => exact .map (blind_cancel _) _
  case submit => exact .map (blind_submit _ _) _
  case takeOwnership => exact .map (blind_takeOwnership _ _) _
  case releaseOwnership =>
    refine .map (.bind (blind_loadWithTask _ _ _) fun _ mine => blind_saved ?_) _
    exact mine
  case completeChecklist => exact .map (blind_completeChecklist _ _) _
  case editLicence => exact .map (blind_editLicence _ _) _
  case decide => exact .map (blind_decide _ _) _
  case startAuthorisation => exact .map (blind_startAuthorisation _ _) _
  case authoriseDocuments => exact .map (blind_authoriseDocuments _ _) _
  case documentsSigned => exact .map (blind_documentsSigned _) _
  case documentsFailed | retrySigning => exact .map (blind_replaceTask _ _ _) _
  case requestWithdrawal => exact .map (blind_requestWithdrawal _ _ _) _
  case respondToWithdrawal => exact .map (blind_respondToWithdrawal _ _ _ _) _
  case stop => exact .map (blind_stop _) _
  case reopen => exact .map (blind_reopen _) _
  case revoke => exact .map (blind_revoke _ _) _
  case requestVariation => exact .map (blind_requestVariation _ _ _) _
  case addInformationRequest | addEmail =>
    refine .map (.bind (blind_loadWithTask _ _ _) fun _ mine => blind_saveAndAnswer ?_ _) _
    exact mine
  case respondToInformationRequest => exact .map (blind_respondToInformationRequest _ _) _
  case startUpdate => exact .map (blind_startUpdate _ _) _
  case closeInformationRequest => exact .map (blind_closeInformationRequest _ _) _
  case closeEmail => exact .map (blind_closeEmail _ _) _
  case addUpdateRequest => exact .map (blind_addUpdateRequest _ _) _
  case closeUpdateRequest => exact .map (blind_closeUpdateRequest _ _) _
  case approveLicence => exact .map blind_approveLicence _
  case rejectLicence => exact .map (blind_rejectLicence _) _
  case resendLicence => exact .map blind_resendLicence _
  case revertLicence => exact .map blind_revertLicence _

end Operation

end Casework
