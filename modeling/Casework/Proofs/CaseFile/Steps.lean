import Casework.Proofs.Work.Steps
import Casework.Proofs.CaseFile.Replace
import Casework.Proofs.CaseFile.Questions

set_option autoImplicit false

namespace Casework

open Calendar

namespace Replaces

variable {start : Store} {id : Nat} {file : CaseFile} {context : Context} {desk after : Desk}

theorem load (sound : desk.store.Sound) {caseType : CaseType} {application : Application}
    (ran : Work.load caseType id context desk = (.ok application, after)) :
    after = desk ∧ ∃ file, file.application = application ∧ application.caseType = caseType ∧
      Replaces desk.store id file desk.store := by
  obtain ⟨-, found, same, rfl⟩ := Work.load_eq_ok_iff.1 ran
  obtain ⟨file, filed, rfl⟩ := Store.exists_fileOf found
  exact ⟨rfl, file, rfl, same, refl sound filed⟩

theorem current (held : Replaces start id file desk.store) {expected : List CaseStatus}
    {taskType : TaskType} {task : Task}
    (ran : Work.currentTask id expected taskType context desk = (.ok task, after)) :
    after = desk ∧ file.Current expected taskType task := by
  obtain ⟨⟨application, found, checked⟩, rfl⟩ := Work.currentTask_eq_ok_iff.1 ran
  have same := (Store.fileOf_eq_some_iff.1 held.found).1
  rw [found] at same
  cases same
  exact ⟨rfl, (Store.currentTask_eq_ok_iff held.found).1 checked⟩

theorem loadWithTask (sound : desk.store.Sound) {caseType : CaseType}
    {expected : List CaseStatus} {taskType : TaskType} {application : Application} {task : Task}
    (ran : Work.loadWithTask caseType id expected taskType context desk =
      (.ok (application, task), after)) :
    after = desk ∧ ∃ file, file.application = application ∧ application.caseType = caseType ∧
      file.Current expected taskType task ∧ Replaces desk.store id file desk.store := by
  simp only [Work.loadWithTask, Work.bind_eq_ok_iff, Work.pure_run, Prod.mk.injEq,
    Except.ok.injEq] at ran
  obtain ⟨_, _, loaded, _, _, checked, ⟨rfl, rfl⟩, rfl⟩ := ran
  obtain ⟨rfl, file, named, same, held⟩ := load sound loaded
  obtain ⟨rfl, current⟩ := held.current checked
  exact ⟨rfl, file, named, same, current, held⟩

theorem id_eq (held : Replaces start id file desk.store) : file.application.id = id :=
  Store.id_of_fileOf held.found

theorem saved (held : Replaces start id file desk.store) {application answer : Application}
    (ran : Work.saved application context desk = (.ok answer, after))
    (same : application.id = id) :
    answer = application ∧ Replaces start id (file.put application) after.store := by
  obtain ⟨rfl, ran⟩ := Work.saved_eq_ok_iff.1 ran
  obtain ⟨-, rfl⟩ := Work.save_eq_ok_iff.1 ran
  exact ⟨rfl, held.put same⟩

theorem save (held : Replaces start id file desk.store) {application : Application}
    {answer : Unit} (ran : Work.save application context desk = (.ok answer, after))
    (same : application.id = id) :
    Replaces start id (file.put application) after.store := by
  obtain ⟨-, rfl⟩ := Work.save_eq_ok_iff.1 ran
  exact held.put same

theorem createTask (held : Replaces start id file desk.store) {taskType : TaskType}
    {previous : Option Nat} {answer : Unit}
    (ran : Work.createTask id taskType previous context desk = (.ok answer, after)) :
    ∃ new, (∀ task ∈ file.tasks, task.id < new) ∧
      Replaces start id (file.addTask (.opened new id taskType previous context.now))
        after.store := by
  rw [Work.createTask_run] at ran
  cases ran
  exact ⟨_, held.newTask, held.addTask taskType previous context.now⟩

theorem ensureTask {β : Type} (held : Replaces start id file desk.store) {taskType : TaskType}
    {previous : Option Nat} {next : Work β} {answer : β}
    (ran : (do
      let active ← Work.read fun store => store.tasks.hasActive id taskType
      unless active do
        Work.createTask id taskType previous
      next : Work β) context desk = (.ok answer, after)) :
    ∃ new between, (∀ task ∈ file.tasks, task.id < new) ∧
      Replaces start id (file.ensureTask (.opened new id taskType previous context.now))
        between.store ∧
      next context between = (.ok answer, after) := by
  simp only [Work.bind_eq_ok_iff, Work.read_run, Prod.mk.injEq, Except.ok.injEq] at ran
  obtain ⟨_, _, ⟨rfl, rfl⟩, ran⟩ := ran
  unfold CaseFile.ensureTask
  by_cases active : file.load taskType = 0
  · have missing : ¬ desk.store.tasks.hasActive id taskType = true := fun found =>
      (Store.hasActive_iff held.found).1 found active
    rw [if_neg missing, Work.bind_eq_ok_iff] at ran
    obtain ⟨_, _, created, ran⟩ := ran
    obtain ⟨new, fresh, held⟩ := held.createTask created
    refine ⟨new, _, fresh, ?_, ran⟩
    show Replaces start id (if file.load taskType = 0 then _ else file) _
    rwa [if_pos active]
  · rw [if_pos ((Store.hasActive_iff held.found).2 active)] at ran
    refine ⟨_, desk, held.newTask, ?_, ran⟩
    show Replaces start id (if file.load taskType = 0 then _ else file) _
    rwa [if_neg active]

theorem finishTask (held : Replaces start id file desk.store) {task : Task}
    (member : task ∈ file.tasks) {owner : Option Nat} {answer : Unit}
    (ran : Work.finishTask task.id owner context desk = (.ok answer, after)) :
    Replaces start id (file.finish task.id owner context.now) after.store := by
  rw [Work.finishTask_run] at ran
  cases ran
  exact held.finish member owner context.now

theorem finishAllTasks (held : Replaces start id file desk.store) {answer : Unit}
    (ran : Work.finishAllTasks id context desk = (.ok answer, after)) :
    Replaces start id (file.finishAll context.now) after.store := by
  rw [Work.finishAllTasks_run] at ran
  cases ran
  exact held.finishAll context.now

theorem findDraft (held : Replaces start id file desk.store) {pack : Pack}
    (ran : Work.findDraft id context desk = (.ok pack, after)) :
    after = desk ∧ file.packs.filter (Pack.isIn .draft) = [pack] := by
  obtain ⟨single, rfl⟩ := Work.findDraft_eq_ok_iff.1 ran
  rw [Store.singlePack_eq held.found] at single
  exact ⟨rfl, CaseFile.singlePack_eq_ok_iff.1 single⟩

theorem findActive (held : Replaces start id file desk.store) {pack : Pack}
    (ran : Work.findActive id context desk = (.ok pack, after)) :
    after = desk ∧ file.packs.filter (Pack.isIn .active) = [pack] := by
  obtain ⟨single, rfl⟩ := Work.findActive_eq_ok_iff.1 ran
  rw [Store.singlePack_eq held.found] at single
  exact ⟨rfl, CaseFile.singlePack_eq_ok_iff.1 single⟩

theorem archiveDraft (held : Replaces start id file desk.store) {answer : Unit}
    (ran : Work.archiveDraft id context desk = (.ok answer, after)) :
    ∃ draft, file.packs.filter (Pack.isIn .draft) = [draft] ∧
      Replaces start id (file.changePack draft.id .archived) after.store := by
  simp only [Work.archiveDraft, Work.bind_eq_ok_iff, Work.changePack_run, Prod.mk.injEq] at ran
  obtain ⟨draft, _, looked, -, rfl⟩ := ran
  obtain ⟨rfl, only⟩ := held.findDraft looked
  have member := (CaseFile.mem_of_only only).1
  exact ⟨draft, only, held.changePack member (fun _ => rfl) fun _ => rfl⟩

theorem updateDraft (held : Replaces start id file desk.store) {changes : LicenceUpdate}
    {answer : Unit} (ran : Work.updateDraft id changes context desk = (.ok answer, after)) :
    ∃ draft, file.packs.filter (Pack.isIn .draft) = [draft] ∧
      Replaces start id (file.changePack draft.id (·.update changes)) after.store := by
  simp only [Work.updateDraft, Work.bind_eq_ok_iff, Work.changePack_run, Prod.mk.injEq] at ran
  obtain ⟨draft, _, looked, -, rfl⟩ := ran
  obtain ⟨rfl, only⟩ := held.findDraft looked
  have member := (CaseFile.mem_of_only only).1
  exact ⟨draft, only, held.changePack member (fun _ => rfl) fun _ => rfl⟩

theorem revokeActive (held : Replaces start id file desk.store) {reason : Option String}
    {emailSent : Bool} {answer : Nat}
    (ran : Work.revokeActive id reason emailSent context desk = (.ok answer, after)) :
    ∃ pack, file.packs.filter (Pack.isIn .active) = [pack] ∧
      Replaces start id (file.changePack pack.id (·.revoke reason emailSent)) after.store := by
  simp only [Work.revokeActive, Work.bind_eq_ok_iff, Work.changePack_run, Work.pure_run,
    Prod.mk.injEq] at ran
  obtain ⟨pack, _, looked, _, _, ⟨-, rfl⟩, -, rfl⟩ := ran
  obtain ⟨rfl, only⟩ := held.findActive looked
  have member := (CaseFile.mem_of_only only).1
  exact ⟨pack, only, held.changePack member (fun _ => rfl) fun _ => rfl⟩

theorem issueDraft (held : Replaces start id file desk.store) {application : Application}
    {answer : Nat} (ran : Work.issueDraft application context desk = (.ok answer, after))
    (same : application.id = id) :
    ∃ draft earlier, file.packs.filter (Pack.isIn .draft) = [draft] ∧
      file.packs.filter (Pack.isIn .active) = earlier.toList ∧
      Replaces start id (file.issue draft earlier application.reference context.now)
        after.store := by
  subst same
  simp only [Work.issueDraft, Work.bind_eq_ok_iff, Work.ask_eq_ok_iff, Work.now_run,
    Prod.mk.injEq, Except.ok.injEq] at ran
  obtain ⟨draft, _, looked, earlier, _, ⟨answered, rfl⟩, _, _, ⟨rfl, rfl⟩, ran⟩ := ran
  obtain ⟨rfl, only⟩ := held.findDraft looked
  have before := Store.activePack?_eq held.found answered
  obtain ⟨drafted, status⟩ := CaseFile.mem_of_only only
  refine ⟨draft, earlier, only, before, ?_⟩
  cases earlier with
  | none =>
    simp only [Work.bind_eq_ok_iff, Work.changePack_run, Prod.mk.injEq] at ran
    obtain ⟨_, _, ⟨-, rfl⟩, -, rfl⟩ := ran
    exact held.changePack drafted (fun _ => rfl) fun _ => rfl
  | some pack =>
    simp only [Work.bind_eq_ok_iff, Work.changePack_run, Prod.mk.injEq] at ran
    obtain ⟨_, _, ⟨-, rfl⟩, _, _, ⟨-, rfl⟩, -, rfl⟩ := ran
    obtain ⟨member, active⟩ := CaseFile.mem_of_only before
    have same : ∀ pack, (Pack.archived pack).id = pack.id := fun _ => rfl
    have owner : ∀ pack, (Pack.archived pack).processId = pack.processId := fun _ => rfl
    have put_away := held.changePack member same owner
    -- The draft is not the pack that is put away, so it is found as it was.
    have apart : draft.id ≠ pack.id := by
      intro equal
      have stored := ((Store.mem_packs_iff held.found).1 drafted).1
      have other := ((Store.mem_packs_iff held.found).1 member).1
      rw [Table.eq_of_number_eq stored other equal] at status
      simp only [Pack.isIn, beq_iff_eq] at status active
      rw [status] at active
      cases active
    have kept : draft ∈ (file.changePack pack.id .archived).packs :=
      Table.mem_changeAt.2 ⟨draft, drafted, if_neg apart⟩
    exact put_away.changePack kept (fun _ => rfl) fun _ => rfl

theorem initialTerms (held : Replaces start id file desk.store) {application : Application}
    {isVariation : Bool} {terms : LicenceUpdate}
    (ran : Work.initialTerms application isVariation context desk = (.ok terms, after))
    (same : application.id = id) :
    after = desk ∧
      if isVariation then file.VariationTerms application terms
      else terms = application.firstTerms := by
  subst same
  rw [Work.initialTerms] at ran
  unfold CaseFile.VariationTerms Application.firstTerms
  by_cases imported : application.isImport = true
  · rw [if_pos imported] at ran
    rw [if_pos imported, if_pos imported]
    by_cases varied : isVariation = true
    · rw [if_pos varied] at ran ⊢
      simp only [Work.bind_eq_ok_iff, Work.pure_run, Prod.mk.injEq, Except.ok.injEq] at ran
      obtain ⟨pack, _, looked, rfl, rfl⟩ := ran
      obtain ⟨rfl, only⟩ := held.findActive looked
      exact ⟨rfl, pack, only, rfl⟩
    · rw [if_neg varied] at ran ⊢
      cases ran
      exact ⟨rfl, rfl⟩
  · rw [if_neg imported] at ran
    cases ran
    rw [if_neg imported, if_neg imported]
    exact ⟨rfl, by split <;> rfl⟩

theorem createDraft (held : Replaces start id file desk.store) {application : Application}
    {isVariation : Bool} {answer : Nat}
    (ran : Work.createDraft application isVariation context desk = (.ok answer, after))
    (same : application.id = id) :
    ∃ new terms, (∀ pack ∈ file.packs, pack.id < new) ∧
      (if isVariation then file.VariationTerms application terms
        else terms = application.firstTerms) ∧
      Replaces start id (file.addPack (.drafted new id terms context.now)) after.store := by
  simp only [Work.createDraft, Work.bind_eq_ok_iff, Work.nextPack, Work.now_run, Work.write_run,
    Work.read_run, Work.pure_run, Prod.mk.injEq, Except.ok.injEq] at ran
  obtain ⟨terms, _, looked, _, _, ⟨_, _, ⟨-, rfl⟩, rfl, rfl⟩, _, _, ⟨rfl, rfl⟩, _, _, ⟨-, rfl⟩, rfl,
    rfl⟩ := ran
  obtain ⟨rfl, initial⟩ := held.initialTerms looked same
  subst same
  exact ⟨_, terms, held.newPack, initial, held.addPack rfl rfl⟩

theorem drawYearly (held : Replaces start id file desk.store) {reading : Nat}
    {series reference : String}
    (ran : Work.drawYearly reading series context desk = (.ok reference, after)) :
    Replaces start id file after.store := by
  simp only [Work.drawYearly, Work.draw, Work.bind_eq_ok_iff, Work.context_run, Work.write_run,
    Work.read_run, Work.pure_run, Prod.mk.injEq, Except.ok.injEq] at ran
  obtain ⟨_, _, ⟨rfl, rfl⟩, _, _, ⟨_, _, ⟨-, rfl⟩, -, rfl⟩, -, rfl⟩ := ran
  exact held.draw _ _

theorem nextRecord (held : Replaces start id file desk.store) {record : Nat}
    (ran : Work.nextRecord context desk = (.ok record, after)) :
    Replaces start id file after.store := by
  simp only [Work.nextRecord, Work.bind_eq_ok_iff, Work.write_run, Work.read_run, Prod.mk.injEq,
    Except.ok.injEq] at ran
  obtain ⟨_, _, ⟨-, rfl⟩, -, rfl⟩ := ran
  exact held.draw _ _

theorem fileDocument {pack : Pack} (member : pack ∈ file.packs) {documents : List Document}
    (held : Replaces start id (file.redocument pack.id documents) desk.store)
    {documentType : DocumentType} {reference country brand : Option String} {answer : Unit}
    (ran : Work.addDocument pack.id documentType reference country brand context desk =
      (.ok answer, after)) :
    ∃ document, document.packId = pack.id ∧
      Replaces start id (file.redocument pack.id (documents ++ [document])) after.store := by
  simp only [Work.addDocument, Work.nextDocument, Work.bind_eq_ok_iff, Work.write_run,
    Work.read_run, Prod.mk.injEq, Except.ok.injEq] at ran
  obtain ⟨_, _, ⟨_, _, ⟨-, rfl⟩, rfl, rfl⟩, -, rfl⟩ := ran
  refine ⟨
    { id := desk.store.lastDocument + 1, packId := pack.id, documentType, reference, country, brand
      checkCode := reference.map (Reference.checkCode pack.id) }, rfl, ?_⟩
  simp only [CaseFile.redocument, ← List.append_assoc]
  exact held.addDocument member rfl rfl

theorem addCertificates {pack : Pack} (member : pack ∈ file.packs) {processType : ProcessType}
    {reading : Nat} {subjects : List (String × Option String)} {documents : List Document}
    (own : ∀ document ∈ documents, document.packId = pack.id)
    (held : Replaces start id (file.redocument pack.id documents) desk.store) {answer : Unit}
    (ran : Work.addCertificates pack.id processType reading subjects context desk =
      (.ok answer, after)) :
    ∃ documents, (∀ document ∈ documents, document.packId = pack.id) ∧
      Replaces start id (file.redocument pack.id documents) after.store := by
  induction subjects generalizing documents desk reading with
  | nil =>
    cases ran
    exact ⟨documents, own, held⟩
  | cons subject subjects ih =>
    obtain ⟨country, brand⟩ := subject
    simp only [Work.addCertificates, Work.drawCertificateReference, Work.bind_eq_ok_iff,
      Work.ofExcept_eq_ok_iff] at ran
    obtain ⟨reference, _, ⟨_, _, ⟨-, rfl⟩, drawn⟩, _, _, added, rest⟩ := ran
    obtain ⟨document, mine, held⟩ := fileDocument member (held.drawYearly drawn) added
    refine ih (fun found found_mem => ?_) held rest
    rcases List.mem_append.1 found_mem with found_mem | found_mem
    · exact own found found_mem
    · rw [List.mem_singleton.1 found_mem, mine]

theorem licenceReference (held : Replaces start id file desk.store)
    {wrap : Reference.ReferenceError → CaseError} {application : Application}
    {paperOnly : Option Bool} {reference : String} {numbered : Application}
    (ran : Work.licenceReference wrap application paperOnly context desk =
      (.ok (reference, numbered), after)) :
    (∃ licenceNumber, numbered = { application with licenceNumber }) ∧
      Replaces start id file after.store := by
  simp only [Work.licenceReference, Work.bind_eq_ok_iff, Work.ofExcept_eq_ok_iff, Work.pure_run,
    Prod.mk.injEq, Except.ok.injEq] at ran
  obtain ⟨⟨number, _⟩, _, drawn, _, _, ⟨-, rfl⟩, ⟨-, rfl⟩, rfl⟩ := ran
  rw [Work.withLicenceNumber] at drawn
  cases given : application.licenceNumber with
  | some licence =>
    rw [given] at drawn
    cases drawn
    exact ⟨⟨application.licenceNumber, rfl⟩, held⟩
  | none =>
    rw [given] at drawn
    simp only [Work.draw, Work.bind_eq_ok_iff, Work.write_run, Work.read_run, Work.pure_run,
      Prod.mk.injEq, Except.ok.injEq] at drawn
    obtain ⟨_, _, ⟨_, _, ⟨-, rfl⟩, rfl, rfl⟩, ⟨-, rfl⟩, rfl⟩ := drawn
    exact ⟨⟨_, rfl⟩, held.draw _ _⟩

theorem createDocuments (held : Replaces start id file desk.store) {application : Application}
    {answer : Application}
    (ran : Work.createDocuments application context desk = (.ok answer, after))
    (same : application.id = id) :
    ∃ draft documents, file.packs.filter (Pack.isIn .draft) = [draft] ∧
      (∀ document ∈ documents, document.packId = draft.id) ∧
      (∃ licenceNumber, answer = { application with licenceNumber }) ∧
      Replaces start id (file.redocument draft.id documents) after.store := by
  subst same
  simp only [Work.createDocuments, Work.bind_eq_ok_iff, Work.write_run, Prod.mk.injEq] at ran
  obtain ⟨draft, _, looked, _, _, ⟨-, rfl⟩, ran⟩ := ran
  obtain ⟨rfl, only⟩ := held.findDraft looked
  have member := (CaseFile.mem_of_only only).1
  have emptied := held.dropDocuments member
  cases kind : application.caseType with
  | importing =>
    rw [kind] at ran
    simp only [Work.bind_eq_ok_iff, Work.pure_run, Prod.mk.injEq, Except.ok.injEq] at ran
    obtain ⟨_, _, covered, ⟨reference, numbered⟩, _, drawn, _, _, licensed, rfl, rfl⟩ := ran
    obtain ⟨letter, letter_own, held⟩ := fileDocument member emptied covered
    obtain ⟨named, held⟩ := held.licenceReference drawn
    obtain ⟨licence, licence_own, held⟩ := fileDocument member held licensed
    refine ⟨draft, _, only, fun document document_mem => ?_, named, held⟩
    simp only [List.nil_append, List.cons_append, List.mem_cons, List.not_mem_nil,
      or_false] at document_mem
    rcases document_mem with rfl | rfl
    · exact letter_own
    · exact licence_own
  | exporting =>
    rw [kind] at ran
    simp only [Work.bind_eq_ok_iff, Work.pure_run, Prod.mk.injEq, Except.ok.injEq] at ran
    obtain ⟨_, _, certified, rfl, rfl⟩ := ran
    obtain ⟨documents, own, held⟩ := addCertificates member (by simp) emptied certified
    exact ⟨draft, documents, only, own, ⟨application.licenceNumber, rfl⟩, held⟩

theorem deliverLicence (held : Replaces start id file desk.store) {application : Application}
    {revoke : Bool} {outcome : Except ChiefError (Option LicencePayload)}
    (ran : Work.deliverLicence application revoke context.sendsLicences context desk =
      (.ok outcome, after)) (same : application.id = id) :
    outcome = file.outcome context application revoke ∧ after.store = desk.store := by
  rw [Work.deliverLicence] at ran
  unfold CaseFile.outcome
  by_cases sends : context.sendsLicences = true
  · rw [if_pos sends] at ran ⊢
    simp only [Work.bind_eq_ok_iff, Work.read_run, Prod.mk.injEq, Except.ok.injEq] at ran
    obtain ⟨_, _, ⟨rfl, rfl⟩, ran⟩ := ran
    rw [Store.payload_eq held.found same] at ran
    cases built : file.payload application revoke with
    | error error =>
      rw [built] at ran
      cases ran
      exact ⟨rfl, rfl⟩
    | ok payload =>
      rw [built] at ran
      simp only [Work.bind_eq_ok_iff, Work.deliver] at ran
      obtain ⟨refusal, _, delivered, ran⟩ := ran
      cases refused : context.transport payload with
      | some reason =>
        rw [refused] at delivered
        cases delivered
        cases ran
        simp [refused]
      | none =>
        rw [refused] at delivered
        cases delivered
        cases ran
        simp [refused]
  · rw [if_neg sends] at ran ⊢
    cases ran
    exact ⟨rfl, rfl⟩

theorem sendToChief (held : Replaces start id file desk.store) {application : Application}
    {revoke : Bool} {previous : Option Nat} {answer : TaskType}
    (ran : Work.sendToChief application previous revoke context.sendsLicences context desk =
      (.ok answer, after)) (same : application.id = id) :
    ∃ requestId taskId, (∀ request ∈ file.requests, request.id < requestId) ∧
      (∀ task ∈ file.tasks, task.id < taskId) ∧
      answer = Work.followingTask revoke (file.outcome context application revoke) ∧
      Replaces start id (file.send context application revoke requestId taskId previous)
        after.store := by
  simp only [Work.sendToChief, Work.bind_eq_ok_iff, Work.nextRequest, Work.now_run,
    Work.write_run, Work.read_run, Work.pure_run, Work.createTask_run, Prod.mk.injEq,
    Except.ok.injEq] at ran
  obtain ⟨outcome, sent, delivered, _, _, ⟨_, _, ⟨-, rfl⟩, rfl, rfl⟩, _, _, ⟨rfl, rfl⟩, _, _,
    ⟨-, rfl⟩,
    _, _, ⟨-, rfl⟩, rfl, rfl⟩ := ran
  obtain ⟨rfl, kept⟩ := held.deliverLicence delivered same
  rw [← kept] at held
  subst same
  refine ⟨_, _, held.newRequest, held.newTask, rfl, ?_⟩
  have owned : (Work.requestOf (sent.store.lastRequest + 1) application context.now
      (file.outcome context application revoke)).processId = application.id := by
    cases file.outcome context application revoke <;> rfl
  have named : (Work.requestOf (sent.store.lastRequest + 1) application context.now
      (file.outcome context application revoke)).id = sent.store.lastRequest + 1 := by
    cases file.outcome context application revoke <;> rfl
  exact (held.addRequest named owned).addTask _ _ _

theorem answerRequest (held : Replaces start id file desk.store) {answer : Nat → Work Unit}
    {value : Unit} (ran : Work.answerRequest id answer context desk = (.ok value, after))
    {change : ChiefRequest → ChiefRequest}
    (writes : ∀ number, answer number context desk =
      (.ok (), { desk with
        store := { desk.store with
          requests := desk.store.requests.modify number change } }))
    (same : ∀ request, (change request).id = request.id)
    (owner : ∀ request, (change request).processId = request.processId) :
    Replaces start id (file.answer change) after.store := by
  simp only [Work.answerRequest, Work.bind_eq_ok_iff, Work.read_run, Prod.mk.injEq,
    Except.ok.injEq, Store.awaitedRequest_eq held.found] at ran
  obtain ⟨_, _, ⟨rfl, rfl⟩, ran⟩ := ran
  unfold CaseFile.answer
  cases waits : file.awaited with
  | none =>
    rw [waits] at ran
    cases ran
    exact held
  | some request =>
    simp only [waits, writes] at ran
    cases ran
    have member := (List.mem_filter.1 (List.mem_of_getLast? waits)).1
    exact held.changeRequest member same owner

theorem finishWait (held : Replaces start id file desk.store) {task : Task}
    (ran : Work.finishWait file.application context desk = (.ok task, after)) :
    file.Current (awaitedReply file.application.status).1
        (awaitedReply file.application.status).2 task ∧
      Replaces start id (file.finish task.id none context.now) after.store := by
  simp only [Work.finishWait, Work.bind_eq_ok_iff, Work.pure_run, Prod.mk.injEq,
    Except.ok.injEq, held.id_eq] at ran
  obtain ⟨_, _, checked, _, _, finished, rfl, rfl⟩ := ran
  obtain ⟨rfl, current⟩ := held.current checked
  exact ⟨current, held.finishTask (CaseFile.mem_of_only current.only).1 finished⟩

end Replaces

end Casework
