import Casework.Proofs.Chief.Outbox
import Casework.Proofs.Chief.Sent
import Casework.Proofs.Reference.Written

set_option autoImplicit false

namespace Casework

open Calendar

-- Every form that a licence can be issued in has a format for its reference.
theorem ProcessType.exists_licence {processType : ProcessType} {paperOnly : Bool}
    (supported : processType.terms.supports paperOnly = true) (number : Nat) :
    ∃ reference, Reference.licence paperOnly processType number = .ok reference := by
  cases paperOnly with
  | true => exact ⟨_, rfl⟩
  | false =>
    cases processType
    case deactivatedFirearms | openFirearms | specificFirearms | sanctions | priorSurveillance
        | textiles =>
      exact ⟨_, rfl⟩
    -- All others are issued on paper alone.
    all_goals cases supported

structure Store.Fit (store : Store) : Prop where
  sound : store.Sound
  packs : ∀ {id file}, store.fileOf id = some file → file.PacksFit
  named : ∀ {id file}, store.fileOf id = some file →
    file.application.status ≠ .inProgress → file.application.reference.isSome = true

structure Store.Unissued (store : Store) (caseType : CaseType) (id : Nat) : Prop where
  complete : ∃ application, store.applications.find? id = some application ∧
    application.caseType = caseType ∧ application.status = .completed
  missing : ∀ pack ∈ store.packsOf id, pack.status ≠ .active

/-- The operation starts from the pack in force of a case that has none. -/
inductive Store.MissesPack (store : Store) : Operation → Nat → Prop where
  | revoke {caseType : CaseType} {id : Nat} {input : RevokeInput}
      (unissued : store.Unissued caseType id) : store.MissesPack (.revoke caseType id input) id
  | requestVariation {id : Nat} {user : User} {whatVaried : String}
      (described : Text.isBlankText whatVaried = false) (unissued : store.Unissued .importing id) :
      store.MissesPack (.requestVariation .importing id user whatVaried) id

def Store.Allows (store : Store) (operation : Operation) (error : CaseError) : Prop :=
  error.IsRoutine ∨
    ∃ id, error = .pack (.notFound id .active) ∧ store.MissesPack operation id

namespace Work

variable {α β : Type} {context : Context} {desk after : Desk} {allowed : CaseError → Prop}

def OnlyFails (allowed : CaseError → Prop) (work : Work α) (context : Context) (desk : Desk) :
    Prop :=
  ∀ error, (work context desk).1 = .error error → allowed error

theorem Plain.onlyFails {work : Work α} (plain : Plain work) :
    OnlyFails CaseError.IsRoutine work context desk :=
  (plain context desk).2

theorem onlyFails_of_ok {work : Work α} {value : α}
    (ran : work context desk = (.ok value, after)) : OnlyFails allowed work context desk := by
  intro error failed
  rw [ran] at failed
  cases failed

theorem OnlyFails.bind {first : Work α} {next : α → Work β}
    (before : OnlyFails allowed first context desk)
    (rest : ∀ value between, first context desk = (.ok value, between) →
      OnlyFails allowed (next value) context between) :
    OnlyFails allowed (first >>= next) context desk := by
  intro error
  rw [bind_def, andThen]
  rcases ran : first context desk with ⟨failure | value, between⟩
  · intro failed
    exact before error (by simpa [ran] using failed)
  · exact rest value between ran error

theorem OnlyFails.map {work : Work α} (only : OnlyFails allowed work context desk)
    (change : α → β) : OnlyFails allowed (change <$> work) context desk := by
  rw [← bind_pure_comp]
  exact .bind only fun _ _ _ => onlyFails_of_ok rfl

theorem OnlyFails.mono {work : Work α} {further : CaseError → Prop}
    (only : OnlyFails allowed work context desk) (more : ∀ {error}, allowed error → further error) :
    OnlyFails further work context desk :=
  fun error failed => more (only error failed)

section Packs

variable {start : Store} {id : Nat} {file : CaseFile} {draft : Pack}

theorem findDraft_of_only (held : Replaces start id file desk.store)
    (only : file.packs.filter (Pack.isIn .draft) = [draft]) :
    findDraft id context desk = (.ok draft, desk) :=
  findDraft_eq_ok_iff.2 ⟨Store.draftPack_of_only held.found only, rfl⟩

theorem onlyFails_findActive (found : desk.store.fileOf id = some file)
    (actives : file.packCount .active ≤ 1)
    (missing : file.packCount .active = 0 → allowed (.pack (.notFound id .active))) :
    OnlyFails allowed (findActive id) context desk := by
  intro error failed
  obtain ⟨failure, looked, rfl, -⟩ := ask_eq_error_iff.1 (Prod.ext failed rfl)
  rw [Store.activePack, Store.singlePack_eq found] at looked
  rcases CaseFile.singlePack_cases actives with ⟨pack, single⟩ | ⟨none_active, single⟩
  · cases single.symm.trans looked
  · cases single.symm.trans looked
    rw [Store.id_of_fileOf found]
    exact missing none_active

theorem archiveDraft_ok (context : Context) (held : Replaces start id file desk.store)
    (only : file.packs.filter (Pack.isIn .draft) = [draft]) :
    ∃ after, archiveDraft id context desk = (.ok (), after) := by
  rw [archiveDraft, bind_def, andThen, findDraft_of_only held only]
  exact ⟨_, rfl⟩

theorem updateDraft_ok (context : Context) (held : Replaces start id file desk.store)
    (only : file.packs.filter (Pack.isIn .draft) = [draft]) (changes : LicenceUpdate) :
    ∃ after, updateDraft id changes context desk = (.ok (), after) := by
  rw [updateDraft, bind_def, andThen, findDraft_of_only held only]
  exact ⟨_, rfl⟩

theorem issueDraft_ok (context : Context) (held : Replaces start id file desk.store)
    (only : file.packs.filter (Pack.isIn .draft) = [draft])
    (actives : file.packCount .active ≤ 1) {application : Application}
    (same : application.id = id) :
    ∃ answer after, issueDraft application context desk = (.ok answer, after) := by
  subst same
  -- Before the first issue no pack is in force, and later there is one.
  have looked : ∃ earlier, desk.store.activePack? application.id = .ok earlier := by
    rw [Store.activePack?, Store.activePack, Store.singlePack_eq held.found]
    rcases CaseFile.singlePack_cases actives with ⟨pack, single⟩ | ⟨-, single⟩
    · exact ⟨some pack, by rw [single]⟩
    · exact ⟨none, by rw [single]⟩
  obtain ⟨earlier, looked⟩ := looked
  rw [issueDraft, bind_def, andThen, findDraft_of_only held only]
  simp only [bind_def, andThen, ask, looked]
  cases earlier <;> exact ⟨_, _, rfl⟩

theorem plain_addCertificates (packId : Nat) {processType : ProcessType} {series : String}
    (assigned : Reference.certificateSeries processType = .ok series) (reading : Nat)
    (subjects : List (String × Option String)) :
    Plain (addCertificates packId processType reading subjects) := by
  induction subjects generalizing reading with
  | nil => exact plain_pure ()
  | cons subject subjects ih =>
    have drawn : Plain (drawCertificateReference (.pack ∘ .reference) processType reading) := by
      rw [drawCertificateReference, assigned]
      exact plain_drawYearly reading series
    exact .bind drawn fun _ => .bind (plain_addDocument _ _ _ _ _) fun _ => ih (reading + 1)

theorem plain_licenceReference (wrap : Reference.ReferenceError → CaseError)
    (application : Application) {paperOnly : Bool}
    (supported : application.terms.supports paperOnly = true) :
    Plain (licenceReference wrap application (some paperOnly)) := by
  refine .bind (plain_withLicenceNumber application) fun (number, numbered) => ?_
  obtain ⟨reference, written⟩ := ProcessType.exists_licence supported number
  have same : Reference.licence ((some paperOnly).getD false) application.processType number =
    .ok reference := written
  simp only [same]
  exact plain_pure _

theorem onlyFails_createDocuments (held : Replaces start id file desk.store)
    (only : file.packs.filter (Pack.isIn .draft) = [draft]) {application : Application}
    (same : application.id = id)
    (supported : application.isImport = true →
      ∃ paperOnly, draft.paperOnly = some paperOnly ∧
        application.terms.supports paperOnly = true) :
    OnlyFails CaseError.IsRoutine (createDocuments application) context desk := by
  subst same
  refine .bind (onlyFails_of_ok (findDraft_of_only held only)) fun found _ looked => ?_
  cases (findDraft_of_only held only).symm.trans looked
  refine Plain.onlyFails (.bind (plain_write fun _ => ⟨rfl, rfl, rfl⟩) fun _ => ?_)
  cases kind : application.caseType with
  | importing =>
    obtain ⟨paperOnly, medium, supported⟩ := supported (by rw [Application.isImport, kind]; rfl)
    rw [medium]
    exact .bind (plain_addDocument _ _ _ _ _) fun _ =>
      .bind (plain_licenceReference _ application supported) fun _ =>
        .bind (plain_addDocument _ _ _ _ _) fun _ => plain_pure _
  | exporting =>
    obtain ⟨series, assigned⟩ := ProcessType.exists_certificateSeries kind
    exact .bind (plain_addCertificates _ assigned _ _) fun _ => plain_pure _

theorem onlyFails_createDraft (application : Application) (isVariation : Bool)
    (terms : OnlyFails allowed (initialTerms application isVariation) context desk) :
    OnlyFails allowed (createDraft application isVariation) context desk :=
  .bind terms fun _ _ _ => onlyFails_of_ok rfl

theorem onlyFails_firstDraft (application : Application) :
    OnlyFails allowed (createDraft application false) context desk := by
  refine onlyFails_createDraft application false ?_
  unfold initialTerms
  split <;> exact onlyFails_of_ok rfl

theorem onlyFails_sendToChief (held : Replaces start id file desk.store)
    (application : Application) (previous : Option Nat) (revoke sends : Bool) :
    OnlyFails allowed (sendToChief application previous revoke sends) context desk := by
  obtain ⟨_, _, _, ran, -⟩ := sendToChief_run context (held.sound.numbered desk.accepted)
    application previous revoke sends
  exact onlyFails_of_ok ran

end Packs

section Operations

variable (caseType : CaseType) (id : Nat)

theorem onlyFails_create (draft : NewApplication) :
    OnlyFails CaseError.IsRoutine (create draft) context desk :=
  .bind (plain_require _ (by simp [CaseError.ofField])).onlyFails fun _ _ _ =>
    .bind plain_enter.onlyFails fun _ _ _ => .bind plain_nextProcess.onlyFails fun _ _ _ =>
      .bind plain_now.onlyFails fun _ _ _ => .bind (plain_addApplication _).onlyFails fun _ _ _ =>
        .bind (plain_createTask _ _ _).onlyFails fun _ _ _ =>
          .bind (onlyFails_firstDraft _) fun _ _ _ => onlyFails_of_ok rfl

theorem onlyFails_cancel : OnlyFails CaseError.IsRoutine (cancel caseType id) context desk :=
  .bind (plain_load id caseType).onlyFails fun _ _ _ =>
    .bind (plain_currentTask id _ _).onlyFails fun _ _ _ =>
      .bind (.bind (plain_findApplication id).onlyFails fun _ _ _ => onlyFails_of_ok rfl)
        fun _ _ _ => onlyFails_of_ok rfl

theorem onlyFails_reopen : OnlyFails CaseError.IsRoutine (reopen caseType id) context desk :=
  .bind (plain_load id caseType).onlyFails fun _ _ _ =>
    .bind (plain_checkFlow _).onlyFails fun _ _ _ =>
      .bind (plain_createTask _ _ _).onlyFails fun _ _ _ =>
        .bind (onlyFails_firstDraft _) fun _ _ _ => (plain_saved _).onlyFails

theorem onlyFails_takeOwnership (fit : desk.store.Fit) (user : User) :
    OnlyFails CaseError.IsRoutine (takeOwnership caseType id user) context desk := by
  refine .bind (plain_loadWithTask id caseType _ _).onlyFails fun (application, _) _ ran => ?_
  obtain ⟨rfl, file, rfl, kind, current, held⟩ := Replaces.loadWithTask fit.sound ran
  obtain ⟨draft, only⟩ := (fit.packs held.found).exists_draft
    (CaseFile.hasDraft_of_untaken current.status)
  dsimp only
  split
  · refine .bind (onlyFails_of_ok (findDraft_of_only held only)) fun _ _ looked => ?_
    obtain ⟨rfl, -⟩ := held.findDraft looked
    split
    · refine .bind plain_now.onlyFails fun _ _ ran => ?_
      cases ran
      obtain ⟨after, updated⟩ := updateDraft_ok context held only _
      exact .bind (onlyFails_of_ok updated) fun _ _ _ => (plain_saved _).onlyFails
    · exact (plain_saved _).onlyFails
  · exact (plain_saved _).onlyFails

theorem onlyFails_editLicence (fit : desk.store.Fit) (changes : LicenceUpdate) :
    OnlyFails CaseError.IsRoutine (editLicence caseType id changes) context desk := by
  refine .bind (plain_load id caseType).onlyFails fun application _ ran => ?_
  obtain ⟨rfl, file, rfl, -, held⟩ := Replaces.load fit.sound ran
  refine .bind (plain_require _ (by simp)).onlyFails fun _ _ ran => ?_
  obtain ⟨-, rfl⟩ := require_eq_ok_iff.1 ran
  refine .bind (plain_currentTask id _ _).onlyFails fun task _ ran => ?_
  obtain ⟨rfl, current⟩ := held.current ran
  refine .bind (plain_require _ (by simp [CaseError.ofField])).onlyFails fun _ _ ran => ?_
  obtain ⟨-, rfl⟩ := require_eq_ok_iff.1 ran
  obtain ⟨draft, only⟩ := (fit.packs held.found).exists_draft
    (CaseFile.hasDraft_of_processing current.status)
  refine .bind (onlyFails_of_ok (findDraft_of_only held only)) fun _ _ looked => ?_
  obtain ⟨rfl, -⟩ := held.findDraft looked
  refine .bind (plain_require _ (by simp [CaseError.ofField])).onlyFails fun _ _ ran => ?_
  obtain ⟨-, rfl⟩ := require_eq_ok_iff.1 ran
  obtain ⟨after, updated⟩ := updateDraft_ok context held only changes
  refine .bind (onlyFails_of_ok updated) fun _ _ ran => ?_
  cases updated.symm.trans ran
  -- The draft is still the only one after its change.
  obtain ⟨draft, only, updated⟩ := held.updateDraft updated
  have counted := CaseFile.packCount_update (Store.ordered_of_fileOf held.found)
    (CaseFile.mem_of_only only).1 changes .draft
  rw [CaseFile.packCount_of_only only, CaseFile.packCount_eq_length] at counted
  obtain ⟨changed, only⟩ := List.length_eq_one_iff.1 counted
  exact onlyFails_of_ok (findDraft_of_only updated only)

theorem onlyFails_startAuthorisation (fit : desk.store.Fit) (user : User) :
    OnlyFails CaseError.IsRoutine (startAuthorisation caseType id user) context desk := by
  refine .bind (plain_loadWithTask id caseType _ _).onlyFails fun (application, task) _ ran => ?_
  obtain ⟨rfl, file, rfl, kind, current, held⟩ := Replaces.loadWithTask fit.sound ran
  obtain ⟨draft, only⟩ := (fit.packs held.found).exists_draft
    (CaseFile.hasDraft_of_processing current.status)
  refine .bind (plain_read _).onlyFails fun errors _ ran => ?_
  cases ran
  refine .bind (plain_require _ (by simp)).onlyFails fun _ _ ran => ?_
  obtain ⟨clean, rfl⟩ := require_eq_ok_iff.1 ran
  obtain ⟨decided, -, terms⟩ := Application.authorisationErrors_isEmpty clean
  refine .bind (plain_finishTask _ _).onlyFails fun _ _ ran => ?_
  have ended := held.finishTask (CaseFile.mem_of_only current.only).1 ran
  split
  · split
    · refine .bind plain_now.onlyFails fun _ _ ran => ?_
      cases ran
      obtain ⟨_, archived⟩ := archiveDraft_ok context ended only
      exact .bind (onlyFails_of_ok archived) fun _ _ _ => (plain_saved _).onlyFails
    · refine .bind (plain_createTask _ _ _).onlyFails fun _ _ ran => ?_
      obtain ⟨new, -, created⟩ := ended.createTask ran
      obtain ⟨_, archived⟩ := archiveDraft_ok context created only
      exact .bind (onlyFails_of_ok archived) fun _ _ _ => (plain_saved _).onlyFails
  next refused =>
    refine .bind (plain_createTask _ _ _).onlyFails fun _ _ ran => ?_
    obtain ⟨new, -, created⟩ := ended.createTask ran
    refine .bind (onlyFails_createDocuments created only held.id_eq fun imported => ?_)
      fun _ _ _ => (plain_saved _).onlyFails
    have approved := Application.approved_of_decided decided refused
    obtain ⟨pack, looked, -, -, paperOnly, medium, supported⟩ := terms imported approved
    rw [held.id_eq, Store.draftPack_of_only held.found only] at looked
    cases looked
    exact ⟨paperOnly, medium, supported⟩

theorem onlyFails_documentsSigned (fit : desk.store.Fit) :
    OnlyFails CaseError.IsRoutine (documentsSigned caseType id) context desk := by
  refine .bind (plain_loadWithTask id caseType _ _).onlyFails fun (application, task) _ ran => ?_
  obtain ⟨rfl, file, rfl, kind, current, held⟩ := Replaces.loadWithTask fit.sound ran
  have packs := fit.packs held.found
  obtain ⟨draft, only⟩ := packs.exists_draft (CaseFile.hasDraft_of_processing current.status)
  refine .bind (plain_finishTask _ _).onlyFails fun _ _ ran => ?_
  have ended := held.finishTask (CaseFile.mem_of_only current.only).1 ran
  split
  · refine .bind plain_context.onlyFails fun _ _ ran => ?_
    cases ran
    exact .bind (onlyFails_sendToChief ended _ _ _ _) fun _ _ _ => (plain_saved _).onlyFails
  · refine .bind plain_now.onlyFails fun _ _ ran => ?_
    cases ran
    obtain ⟨_, _, issued⟩ := issueDraft_ok context ended only packs.active held.id_eq
    exact .bind (onlyFails_of_ok issued) fun _ _ _ => (plain_saved _).onlyFails

theorem onlyFails_closing {id : Nat} {start : Store} {file : CaseFile} {draft : Pack}
    (held : Replaces start id file desk.store)
    (only : file.packs.filter (Pack.isIn .draft) = [draft]) (closed : Application) :
    OnlyFails CaseError.IsRoutine
      (do
        finishAllTasks id
        archiveDraft id
        saved closed)
      context desk := by
  refine .bind (plain_finishAllTasks id).onlyFails fun _ _ ran => ?_
  have ended := held.finishAllTasks ran
  obtain ⟨_, archived⟩ := archiveDraft_ok context ended only
  exact .bind (onlyFails_of_ok archived) fun _ _ _ => (plain_saved _).onlyFails

theorem onlyFails_respondToWithdrawal (fit : desk.store.Fit) (user : User) (accept : Bool)
    (answer : Option String) :
    OnlyFails CaseError.IsRoutine (respondToWithdrawal caseType id user accept answer) context
      desk := by
  refine .bind (plain_load id caseType).onlyFails fun application _ ran => ?_
  obtain ⟨rfl, file, rfl, -, held⟩ := Replaces.load fit.sound ran
  refine .bind (plain_checkFlow _).onlyFails fun _ _ ran => ?_
  obtain ⟨checked, rfl⟩ := checkFlow_eq_ok_iff.1 ran
  have stage := Standing.checkStatus_eq_ok_iff.1 checked
  obtain ⟨draft, only⟩ := (fit.packs held.found).exists_draft (CaseFile.hasDraft_of_open stage)
  refine .bind (plain_require _ (by simp)).onlyFails fun _ _ ran => ?_
  obtain ⟨-, rfl⟩ := require_eq_ok_iff.1 ran
  split
  · refine .bind plain_now.onlyFails fun _ _ ran => ?_
    cases ran
    exact onlyFails_closing held only _
  · refine Plain.onlyFails (.bind (plain_read _) fun _ => ?_)
    split
    · exact plain_saved _
    · exact .bind (plain_createTask _ _ _) fun _ => plain_saved _

theorem onlyFails_stop (fit : desk.store.Fit) :
    OnlyFails CaseError.IsRoutine (stop caseType id) context desk := by
  refine .bind (plain_loadWithTask id caseType _ _).onlyFails fun (application, task) _ ran => ?_
  obtain ⟨rfl, file, rfl, kind, current, held⟩ := Replaces.loadWithTask fit.sound ran
  obtain ⟨draft, only⟩ := (fit.packs held.found).exists_draft
    (CaseFile.hasDraft_of_open current.status)
  refine .bind plain_now.onlyFails fun _ _ ran => ?_
  cases ran
  exact onlyFails_closing held only _

theorem onlyFails_answerRequest {answer : Nat → Work Unit}
    (ends : ∀ number desk, ∃ after, answer number context desk = (.ok (), after)) :
    OnlyFails allowed (answerRequest id answer) context desk := by
  refine .bind (onlyFails_of_ok rfl) fun request between ran => ?_
  cases request with
  | some request =>
    obtain ⟨_, answered⟩ := ends request.id between
    exact onlyFails_of_ok answered
  | none => exact onlyFails_of_ok rfl

theorem onlyFails_approveLicence (fit : desk.store.Fit) :
    OnlyFails CaseError.IsRoutine (approveLicence id) context desk := by
  refine .bind plain_enter.onlyFails fun _ _ ran => ?_
  obtain ⟨-, rfl⟩ := enter_eq_ok_iff.1 ran
  refine .bind (plain_findApplication id).onlyFails fun application _ ran => ?_
  obtain ⟨rfl, file, rfl, held⟩ := Replaces.findApplication fit.sound ran
  refine .bind (plain_finishWait _).onlyFails fun task _ ran => ?_
  obtain ⟨current, ended⟩ := held.finishWait ran
  have answers : ∀ desk : Desk,
      OnlyFails CaseError.IsRoutine (answerRequest id completeRequest) context desk := fun _ =>
    onlyFails_answerRequest id fun _ _ => ⟨_, rfl⟩
  split
  · exact .bind (answers _) fun _ _ _ => (plain_save _).onlyFails
  next kept =>
    simp only [awaitedReply, if_neg kept] at current
    have packs := fit.packs held.found
    obtain ⟨draft, only⟩ := packs.exists_draft (CaseFile.hasDraft_of_processing current.status)
    refine .bind plain_now.onlyFails fun _ _ ran => ?_
    cases ran
    obtain ⟨_, _, issued⟩ := issueDraft_ok context ended only packs.active held.id_eq
    exact .bind (onlyFails_of_ok issued) fun _ _ _ => .bind (answers _) fun _ _ _ =>
      (plain_save _).onlyFails

theorem onlyFails_rejectLicence (errors : List ChiefResponseError) :
    OnlyFails CaseError.IsRoutine (rejectLicence id errors) context desk :=
  .bind plain_enter.onlyFails fun _ _ _ => .bind (plain_findApplication id).onlyFails
    fun _ _ _ => .bind (plain_finishWait _).onlyFails fun _ _ _ =>
      .bind (plain_createTask _ _ _).onlyFails fun _ _ _ =>
        onlyFails_answerRequest id fun _ _ => ⟨_, rfl⟩

theorem onlyFails_resendLicence (fit : desk.store.Fit) :
    OnlyFails CaseError.IsRoutine (resendLicence id) context desk := by
  refine .bind plain_enter.onlyFails fun _ _ ran => ?_
  obtain ⟨-, rfl⟩ := enter_eq_ok_iff.1 ran
  refine .bind (plain_findApplication id).onlyFails fun application _ ran => ?_
  obtain ⟨rfl, file, rfl, held⟩ := Replaces.findApplication fit.sound ran
  refine .bind (plain_currentTask id _ _).onlyFails fun task _ ran => ?_
  obtain ⟨rfl, current⟩ := held.current ran
  refine .bind (plain_finishTask _ _).onlyFails fun _ _ ran => ?_
  have ended := held.finishTask (CaseFile.mem_of_only current.only).1 ran
  refine .bind plain_context.onlyFails fun _ _ ran => ?_
  cases ran
  exact onlyFails_sendToChief ended _ _ _ _

theorem unissued_of_file {caseType : CaseType} {id : Nat} {file : CaseFile}
    (found : desk.store.fileOf id = some file) (kind : file.application.caseType = caseType)
    (complete : file.application.status = .completed) (missing : file.packCount .active = 0) :
    desk.store.Unissued caseType id := by
  obtain ⟨stored, -, packs, -⟩ := Store.fileOf_eq_some_iff.1 found
  refine ⟨⟨file.application, stored, kind, complete⟩, fun pack member active => ?_⟩
  rw [packs] at member
  simpa [Pack.isIn, active] using List.countP_eq_zero.1 missing pack member

def openVariation (varied : Application) (id : Nat) : Work Application := do
  let reference ← ofExcept .reference (Reference.variation varied)
  createTask id .process none
  let _ ← createDraft varied true
  saved { varied with reference := some reference }

theorem onlyFails_openVariation {start : Store} {file : CaseFile} {varied : Application}
    (held : Replaces start id file desk.store) (named : varied.reference.isSome = true)
    (looked : ∀ {new : Nat} {desk : Desk},
      Replaces start id (file.addTask (.opened new id .process none context.now)) desk.store →
        varied.isImport = true → OnlyFails allowed (findActive varied.id) context desk)
    (routine : ∀ {error : CaseError}, error.IsRoutine → allowed error) :
    OnlyFails allowed (openVariation varied id) context desk := by
  obtain ⟨reference, named⟩ := Option.isSome_iff_exists.1 named
  have written : ∃ text, Reference.variation varied = .ok text := by
    rw [Reference.variation, named]
    exact ⟨_, rfl⟩
  obtain ⟨text, written⟩ := written
  rw [openVariation, written]
  refine .bind (onlyFails_of_ok rfl) fun _ _ ran => ?_
  cases ran
  refine .bind (onlyFails_of_ok rfl) fun _ _ ran => ?_
  obtain ⟨new, -, created⟩ := held.createTask ran
  refine .bind (onlyFails_createDraft varied true ?_) fun _ _ _ =>
    (plain_saved _).onlyFails.mono routine
  rw [initialTerms]
  split
  next imported => exact .bind (looked created imported) fun _ _ _ => onlyFails_of_ok rfl
  next => exact onlyFails_of_ok rfl

theorem onlyFails_revoke (fit : desk.store.Fit) (input : RevokeInput) :
    OnlyFails (desk.store.Allows (.revoke caseType id input)) (revoke caseType id input) context
      desk := by
  refine .bind ((plain_load id caseType).onlyFails.mono .inl) fun application between ran => ?_
  obtain ⟨rfl, file, rfl, kind, held⟩ := Replaces.load fit.sound ran
  refine .bind ((plain_checkFlow _).onlyFails.mono .inl) fun _ _ ran => ?_
  obtain ⟨checked, rfl⟩ := checkFlow_eq_ok_iff.1 ran
  have complete := List.mem_singleton.1 (Standing.checkStatus_eq_ok_iff.1 checked)
  have looked : OnlyFails (between.store.Allows (.revoke caseType id input)) (findActive id)
      context between :=
    onlyFails_findActive held.found (fit.packs held.found).active fun missing =>
      .inr ⟨id, rfl, .revoke (unissued_of_file held.found kind complete missing)⟩
  refine .bind (.bind looked fun _ _ _ => onlyFails_of_ok rfl) fun _ _ ran => ?_
  obtain ⟨pack, -, revoked⟩ := held.revokeActive ran
  dsimp only
  split
  · refine .bind (plain_context.onlyFails.mono .inl) fun _ _ ran => ?_
    cases ran
    exact .bind (onlyFails_sendToChief revoked _ _ _ _) fun _ _ _ =>
      (plain_saved _).onlyFails.mono .inl
  · exact (plain_saved _).onlyFails.mono .inl

theorem onlyFails_requestVariation (fit : desk.store.Fit) (user : User) (whatVaried : String) :
    OnlyFails (desk.store.Allows (.requestVariation caseType id user whatVaried))
      (requestVariation caseType id user whatVaried) context desk := by
  refine .bind ((plain_require _ (by simp [CaseError.ofField])).onlyFails.mono .inl)
    fun _ _ ran => ?_
  obtain ⟨described, rfl⟩ := require_eq_ok_iff.1 ran
  refine .bind ((plain_load id caseType).onlyFails.mono .inl) fun application between ran => ?_
  obtain ⟨rfl, file, rfl, kind, held⟩ := Replaces.load fit.sound ran
  refine .bind ((plain_checkFlow _).onlyFails.mono .inl) fun _ _ ran => ?_
  obtain ⟨checked, rfl⟩ := checkFlow_eq_ok_iff.1 ran
  have complete : file.application.status = .completed :=
    List.mem_singleton.1 (Standing.checkStatus_eq_ok_iff.1 checked)
  refine .bind (plain_nextRecord.onlyFails.mono .inl) fun record _ ran => ?_
  have counted := held.nextRecord ran
  refine .bind (plain_now.onlyFails.mono .inl) fun _ _ ran => ?_
  cases ran
  -- A completed case has been submitted, so there is a reference to count the variations in.
  have named := fit.named held.found (by simp [complete])
  refine onlyFails_openVariation id counted named (fun created imported => ?_) .inl
  have importing : caseType = .importing := kind.symm.trans (beq_iff_eq.1 imported)
  subst importing
  rw [held.id_eq]
  refine onlyFails_findActive created.found (fit.packs held.found).active fun missing => ?_
  exact .inr ⟨id, rfl, .requestVariation (by simpa using described)
    (unissued_of_file held.found kind complete missing)⟩

theorem findActive_missing {application : Application} (desk : Desk)
    (missing : ∀ pack ∈ desk.store.packsOf application.id, pack.status ≠ .active) :
    findActive application.id context desk =
      (.error (.pack (.notFound application.id .active)), desk) := by
  have none_active : (desk.store.packsOf application.id).filter (·.status == .active) = [] := by
    simpa [List.filter_eq_nil_iff] using missing
  exact ask_eq_error_iff.2
    ⟨_, by rw [Store.activePack, Store.singlePack, none_active], rfl, rfl⟩

theorem createDraft_missing {application : Application} (imported : application.isImport = true)
    (missing : ∀ pack ∈ desk.store.packsOf application.id, pack.status ≠ .active) :
    createDraft application true context desk =
      (.error (.pack (.notFound application.id .active)), desk) := by
  refine bind_eq_error_iff.2 (.inl ?_)
  rw [initialTerms, if_pos imported, if_pos rfl]
  exact bind_eq_error_iff.2 (.inl (findActive_missing desk missing))

theorem then_error {first : Work α} {next : α → Work β} {value : α} {between : Desk}
    (ran : first context desk = (.ok value, between)) {error : CaseError}
    (failed : ∃ after, next value context between = (.error error, after)) :
    ∃ after, (first >>= next) context desk = (.error error, after) := by
  obtain ⟨after, failed⟩ := failed
  exact ⟨after, bind_eq_error_iff.2 (.inr ⟨_, _, ran, failed⟩)⟩

theorem checkComplete_of_completed {application : Application}
    (complete : application.status = .completed) : application.checkComplete false = .ok () :=
  Standing.checkStatus_eq_ok_iff.2 (List.mem_singleton.2 complete)

theorem revoke_missing (available : context.available = true)
    (unissued : desk.store.Unissued caseType id) (input : RevokeInput) :
    ∃ after, revoke caseType id input context desk =
      (.error (.pack (.notFound id .active)), after) := by
  obtain ⟨⟨application, stored, kind, complete⟩, missing⟩ := unissued
  obtain rfl : application.id = id := (Table.find?_eq_some_iff.1 stored).2
  refine then_error (load_eq_ok_iff.2 ⟨available, stored, kind, rfl⟩) ?_
  refine then_error (checkFlow_eq_ok_iff.2 ⟨checkComplete_of_completed complete, rfl⟩) ?_
  exact ⟨_, bind_eq_error_iff.2 (.inl (bind_eq_error_iff.2
    (.inl (findActive_missing desk missing))))⟩

theorem requestVariation_missing (fit : desk.store.Fit) (available : context.available = true)
    (unissued : desk.store.Unissued .importing id) (user : User) {whatVaried : String}
    (described : Text.isBlankText whatVaried = false) :
    ∃ after, requestVariation .importing id user whatVaried context desk =
      (.error (.pack (.notFound id .active)), after) := by
  obtain ⟨⟨application, stored, kind, complete⟩, missing⟩ := unissued
  obtain rfl : application.id = id := (Table.find?_eq_some_iff.1 stored).2
  obtain ⟨file, found, rfl⟩ := Store.exists_fileOf stored
  obtain ⟨reference, named⟩ := Option.isSome_iff_exists.1 (fit.named found (by simp [complete]))
  have imported : file.application.isImport = true := beq_iff_eq.2 kind
  have accepted : (!Text.isBlankText whatVaried) = true := by simp [described]
  rw [requestVariation, accepted]
  refine then_error rfl ?_
  refine then_error (load_eq_ok_iff.2 ⟨available, stored, kind, rfl⟩) ?_
  refine then_error (checkFlow_eq_ok_iff.2 ⟨checkComplete_of_completed complete, rfl⟩) ?_
  refine then_error rfl (then_error rfl ?_)
  rw [Reference.variation, named]
  refine then_error rfl (then_error rfl ?_)
  exact ⟨_, bind_eq_error_iff.2 (.inl (createDraft_missing imported missing))⟩

end Operations

end Work

theorem Operation.onlyFails_work (operation : Operation) {context : Context} {desk : Desk}
    (fit : desk.store.Fit) :
    Work.OnlyFails (desk.store.Allows operation) operation.work context desk := by
  by_cases plain : operation.isPlain = true
  · exact (plain_work plain).onlyFails.mono .inl
  cases operation
  case create => exact .map ((Work.onlyFails_create _).mono .inl) _
  case cancel => exact .map ((Work.onlyFails_cancel _ _).mono .inl) _
  case takeOwnership => exact .map ((Work.onlyFails_takeOwnership _ _ fit _).mono .inl) _
  case editLicence => exact .map ((Work.onlyFails_editLicence _ _ fit _).mono .inl) _
  case startAuthorisation =>
    exact .map ((Work.onlyFails_startAuthorisation _ _ fit _).mono .inl) _
  case documentsSigned => exact .map ((Work.onlyFails_documentsSigned _ _ fit).mono .inl) _
  case respondToWithdrawal =>
    exact .map ((Work.onlyFails_respondToWithdrawal _ _ fit _ _ _).mono .inl) _
  case stop => exact .map ((Work.onlyFails_stop _ _ fit).mono .inl) _
  case reopen => exact .map ((Work.onlyFails_reopen _ _).mono .inl) _
  case revoke => exact .map (Work.onlyFails_revoke _ _ fit _) _
  case requestVariation => exact .map (Work.onlyFails_requestVariation _ _ fit _ _) _
  case approveLicence => exact .map ((Work.onlyFails_approveLicence _ fit).mono .inl) _
  case rejectLicence => exact .map ((Work.onlyFails_rejectLicence _ _).mono .inl) _
  case resendLicence => exact .map ((Work.onlyFails_resendLicence _ fit).mono .inl) _
  all_goals exact absurd rfl plain

theorem Store.MissesPack.fails {operation : Operation} {id : Nat} {context : Context} {desk : Desk}
    (misses : desk.store.MissesPack operation id) (fit : desk.store.Fit)
    (available : context.available = true) :
    (operation.work context desk).1 = .error (.pack (.notFound id .active)) := by
  cases misses with
  | revoke unissued =>
    obtain ⟨after, failed⟩ := Work.revoke_missing _ id available unissued _
    exact congrArg Prod.fst (Work.map_eq_error_iff.2 failed)
  | requestVariation described unissued =>
    obtain ⟨after, failed⟩ := Work.requestVariation_missing id fit available unissued _ described
    exact congrArg Prod.fst (Work.map_eq_error_iff.2 failed)

namespace System

theorem fit (steps : List Step) : (initial.follow steps).store.Fit where
  sound := sound_follow steps
  packs := CaseFile.packs_fit steps
  named := CaseFile.named steps

theorem isPoisoned_after (system : System) (step : Step) :
    (system.after step).isPoisoned = system.isPoisoned := by
  rw [after, perform, run]
  split <;> rfl

theorem isPoisoned_follow (steps : List Step) : (initial.follow steps).isPoisoned = false := by
  induction steps using List.reverseRecOn with
  | nil => rfl
  | append_singleton steps step ih => rw [follow_append, isPoisoned_after, ih]

end System

/-- No operation ends in an error of the packs, of the references or of the register, except that a
revocation and the variation of an import start from the pack in force, which a completed case need
not have. -/
theorem internal_failure_iff {system : System} (reached : Reachable system) (setting : Setting)
    (operation : Operation) {error : CaseError} (internal : ¬ error.IsRoutine) :
    (system.perform setting operation).1 = .error error ↔
      ∃ id, error = .pack (.notFound id .active) ∧ system.store.MissesPack operation id := by
  obtain ⟨steps, rfl⟩ := reachable_iff.1 reached
  rw [System.perform_fst]
  constructor
  · intro failed
    exact (operation.onlyFails_work (System.fit steps) error failed).resolve_left internal
  · rintro ⟨id, rfl, misses⟩
    exact misses.fails (System.fit steps)
      (by rw [Setting.around, System.isPoisoned_follow]; rfl)

namespace Sample

def refused : List Step :=
  let refusal : List Operation :=
    [.completeChecklist .importing 1 ⟨some .no, some .no, some .no, some .no, true, true⟩,
      .decide .importing 1 ⟨.refuse, some "not eligible"⟩,
      .startAuthorisation .importing 1 user]
  (licence ++ refusal).map (step true)

theorem refused_unissued : (System.initial.follow refused).store.Unissued .importing 1 := by
  have stored : ((System.initial.follow refused).store.applications.find? 1).any
      (fun application => application.caseType == .importing && application.status == .completed) =
        true := by
    decide +kernel
  refine ⟨?_, by decide +kernel⟩
  simpa [Option.any_eq_true] using stored

def revocation : Step := step true (.revoke .importing 1 ⟨some "obtained by fraud", false⟩)

def variation : Step := step true (.requestVariation .importing 1 user "quantity")

end Sample

theorem refused_fails :
    Reachable (System.initial.follow Sample.refused) ∧
      ¬ (CaseError.pack (.notFound 1 .active)).IsRoutine ∧
      ((System.initial.follow Sample.refused).perform Sample.revocation.setting
        Sample.revocation.operation).1 = .error (.pack (.notFound 1 .active)) ∧
      ((System.initial.follow Sample.refused).perform Sample.variation.setting
        Sample.variation.operation).1 = .error (.pack (.notFound 1 .active)) := by
  have reached : Reachable (System.initial.follow Sample.refused) := reachable_iff.2 ⟨_, rfl⟩
  have internal : ¬ (CaseError.pack (.notFound 1 .active)).IsRoutine := id
  refine ⟨reached, internal, ?_, ?_⟩
  · exact (internal_failure_iff reached _ _ internal).2 ⟨1, rfl, .revoke Sample.refused_unissued⟩
  · exact (internal_failure_iff reached _ _ internal).2
      ⟨1, rfl, .requestVariation (by decide) Sample.refused_unissued⟩

end Casework
