import Casework.Proofs.CaseFile.Basic
import Casework.Proofs.Work.Plain

set_option autoImplicit false

namespace Casework

open Calendar

@[simp] def PackError.IsMultiple : PackError → Prop
  | .multiple _ _ _ => True
  | .notFound _ _ | .reference _ => False

@[simp] def ChiefError.IsMultiple : ChiefError → Prop
  | .pack error => error.IsMultiple
  | .unsupported _ | .missingLicence _ | .transport _ => False

@[simp] def CaseError.IsMultiple : CaseError → Prop
  | .pack error => error.IsMultiple
  | .chief error => error.IsMultiple
  | .flow _ | .repository _ | .reference _ | .search _ | .validation _ | .invalid _ => False

theorem CaseError.IsRoutine.not_multiple {error : CaseError} (routine : error.IsRoutine) :
    ¬ error.IsMultiple := by
  cases error <;> simp_all

def Store.Single (store : Store) : Prop :=
  ∀ id status, status ≠ .archived → (store.packsOf id).countP (Pack.isIn status) ≤ 1

theorem Store.Single.not_multiple {store : Store} (single : store.Single) {id : Nat}
    {status : PackStatus} (counted : status ≠ .archived) {error : PackError}
    (found : store.singlePack id status = .error error) : ¬ error.IsMultiple := by
  have bound := single id status counted
  rw [List.countP_eq_length_filter] at bound
  unfold Store.singlePack at found
  change ((store.packsOf id).filter (·.status == status)).length ≤ 1 at bound
  generalize (store.packsOf id).filter (·.status == status) = packs at bound found
  rcases packs with _ | ⟨pack, _ | ⟨next, rest⟩⟩
  · cases found
    exact fun several => several
  · cases found
  · simp at bound

namespace Work

variable {α β ε : Type}

def Still (work : Work α) : Prop :=
  ∀ context desk, (work context desk).2.store.packs = desk.store.packs ∧
    ∀ error, (work context desk).1 = .error error → ¬ error.IsMultiple

def Quiet (work : Work α) : Prop :=
  ∀ context desk error, (work context desk).1 = .error error → ¬ error.IsMultiple

def Final (work : Work α) : Prop :=
  ∀ context desk, desk.store.Single →
    ∀ error, (work context desk).1 = .error error → ¬ error.IsMultiple

def Orderly (work : Work α) : Prop :=
  Final work ∧ ∀ context desk, desk.store.Single → (work context desk).2.store.Single

theorem Still.quiet {work : Work α} (still : Still work) : Quiet work := fun context desk =>
  (still context desk).2

theorem Quiet.final {work : Work α} (quiet : Quiet work) : Final work := fun context desk _ =>
  quiet context desk

theorem Still.orderly {work : Work α} (still : Still work) : Orderly work := by
  refine ⟨still.quiet.final, fun context desk single => ?_⟩
  unfold Store.Single Store.packsOf
  rw [(still context desk).1]
  exact single

theorem Plain.still {work : Work α} (plain : Plain work) : Still work := fun context desk =>
  ⟨(plain context desk).1.packs, fun error failed =>
    ((plain context desk).2 error failed).not_multiple⟩

theorem Plain.quiet {work : Work α} (plain : Plain work) : Quiet work := plain.still.quiet

theorem Plain.orderly {work : Work α} (plain : Plain work) : Orderly work := plain.still.orderly

theorem still_iff_within {work : Work α} : Still work ↔
    Within (fun desk after => after.store.packs = desk.store.packs) (¬ ·.IsMultiple) work := .rfl

theorem Still.bind {first : Work α} {next : α → Work β} (before : Still first)
    (rest : ∀ value, Still (next value)) : Still (first >>= next) :=
  Within.bind (fun first second => second.trans first) (still_iff_within.1 before) rest

theorem not_multiple_bind {first : Work α} {next : α → Work β} {context : Context} {desk : Desk}
    (start : ∀ error, (first context desk).1 = .error error → ¬ error.IsMultiple)
    (rest : ∀ value between, first context desk = (.ok value, between) →
      ∀ error, (next value context between).1 = .error error → ¬ error.IsMultiple)
    (error : CaseError) (failed : ((first >>= next) context desk).1 = .error error) :
    ¬ error.IsMultiple := by
  rw [bind_def, andThen] at failed
  rcases ran : first context desk with ⟨failure | value, between⟩
  · rw [ran] at start failed
    exact start error (by simpa using failed)
  · rw [ran] at failed
    exact rest value between ran error failed

theorem Quiet.bind {first : Work α} {next : α → Work β} (before : Quiet first)
    (rest : ∀ value, Quiet (next value)) : Quiet (first >>= next) := fun context desk =>
  not_multiple_bind (before context desk) fun value between _ => rest value context between

theorem Final.bind {first : Work α} {next : α → Work β} (before : Orderly first)
    (rest : ∀ value, Final (next value)) : Final (first >>= next) := by
  intro context desk single
  refine not_multiple_bind (before.1 context desk single) fun value between ran => ?_
  have kept := before.2 context desk single
  rw [ran] at kept
  exact rest value context between kept

theorem Orderly.bind {first : Work α} {next : α → Work β} (before : Orderly first)
    (rest : ∀ value, Orderly (next value)) : Orderly (first >>= next) := by
  refine ⟨.bind before fun value => (rest value).1, fun context desk single => ?_⟩
  have kept := before.2 context desk single
  rw [bind_def, andThen]
  rcases ran : first context desk with ⟨failure | value, between⟩
  · rw [ran] at kept
    exact kept
  · rw [ran] at kept
    exact (rest value).2 context between kept

theorem Final.map {work : Work α} (final : Final work) (change : α → β) :
    Final (change <$> work) := by
  intro context desk single error failed
  cases result : (change <$> work) context desk with
  | mk answer after =>
    rw [result] at failed
    cases failed
    exact final context desk single error (by rw [map_eq_error_iff.1 result])

theorem Final.bind_quiet {first : Work α} {next : α → Work β} (before : Final first)
    (rest : ∀ value, Quiet (next value)) : Final (first >>= next) := fun context desk single =>
  not_multiple_bind (before context desk single) fun value between _ => rest value context between

theorem still_write {change : Store → Store} (kept : ∀ store, (change store).packs = store.packs) :
    Still (write change) := fun _ desk => ⟨kept desk.store, fun _ failed => by cases failed⟩

theorem still_ofExcept {wrap : ε → CaseError} (other : ∀ failure, ¬ (wrap failure).IsMultiple)
    (answer : Except ε α) : Still (ofExcept wrap answer) := by
  cases answer with
  | error failure => exact fun _ _ => ⟨rfl, fun _ failed => by cases failed; exact other failure⟩
  | ok value => exact (plain_pure _).still

section Documents

variable (application : Application) (packId : Nat) (paperOnly : Option Bool)

theorem still_addCertificates (processType : ProcessType) (reading : Nat)
    (subjects : List (String × Option String)) :
    Still (addCertificates packId processType reading subjects) := by
  induction subjects generalizing reading with
  | nil => exact (plain_pure _).still
  | cons subject subjects ih =>
    have drawn : Still (drawCertificateReference (.pack ∘ .reference) processType reading) :=
      .bind (still_ofExcept (by simp) _) fun series => (plain_drawYearly reading series).still
    exact .bind drawn fun _ => .bind (plain_addDocument packId _ _ _ _).still fun _ =>
      ih (reading + 1)

theorem still_licenceReference :
    Still (licenceReference (.pack ∘ .reference) application paperOnly) :=
  .bind (plain_withLicenceNumber application).still fun _ =>
    .bind (still_ofExcept (by simp) _) fun _ => (plain_pure _).still

theorem still_deliverLicence (revoke sends : Bool) :
    Still (deliverLicence application revoke sends) := by
  unfold deliverLicence
  split
  · refine .bind (plain_read _).still fun built => ?_
    cases built with
    | error error => exact (plain_pure _).still
    | ok payload =>
      have delivers : Still (deliver payload) := by
        intro context desk
        unfold deliver
        split <;> exact ⟨rfl, fun _ failed => by cases failed⟩
      refine .bind delivers fun refusal => ?_
      cases refusal <;> exact (plain_pure _).still
  · exact (plain_pure _).still

theorem still_sendToChief (previous : Option Nat) (revoke sends : Bool) :
    Still (sendToChief application previous revoke sends) :=
  .bind (still_deliverLicence application revoke sends) fun _ =>
    .bind (.bind (still_write fun _ => rfl) fun _ => (plain_read _).still) fun _ =>
      .bind plain_now.still fun _ => .bind (still_write fun _ => rfl) fun _ =>
        .bind (plain_createTask _ _ _).still fun _ => (plain_pure _).still

theorem still_answerRequest {answer : Nat → Work Unit} (still : ∀ number, Still (answer number)) :
    Still (answerRequest packId answer) := by
  refine .bind (plain_read _).still fun request => ?_
  cases request with
  | some request => exact still request.id
  | none => exact (plain_pure _).still

end Documents

section Packs

variable (application : Application) (id : Nat)

theorem orderly_ask {question : Store → Except PackError α}
    (found : ∀ {store error}, store.Single → question store = .error error → ¬ error.IsMultiple) :
    Orderly (ask .pack question) := by
  have kept : ∀ context desk, (ask .pack question context desk).2 = desk := by
    intro context desk
    cases answered : question desk.store <;> simp [ask, answered]
  refine ⟨fun context desk single error failed => ?_, fun context desk single => ?_⟩
  · cases answered : question desk.store with
    | error failure =>
      simp only [ask, answered] at failed
      cases failed
      exact found single answered
    | ok value => simp [ask, answered] at failed
  · rw [kept]
    exact single

theorem orderly_findDraft : Orderly (findDraft id) :=
  orderly_ask fun single found => single.not_multiple (by decide) found

theorem orderly_findActive : Orderly (findActive id) :=
  orderly_ask fun single found => single.not_multiple (by decide) found

theorem orderly_activePack? : Orderly (ask .pack fun store => store.activePack? id) := by
  refine orderly_ask fun {store error} single found => ?_
  unfold Store.activePack? at found
  split at found
  next => cases found
  next => cases found
  next failure _ looked =>
    cases found
    exact single.not_multiple (by decide) looked

theorem quiet_changePack (change : Pack → Pack) : Quiet (changePack id change) :=
  fun _ _ _ failed => by cases failed

theorem final_archiveDraft : Final (archiveDraft id) :=
  .bind (orderly_findDraft id) fun draft => (quiet_changePack draft.id _).final

theorem final_revokeActive (reason : Option String) (emailSent : Bool) :
    Final (revokeActive id reason emailSent) :=
  .bind (orderly_findActive id) fun pack =>
    ((quiet_changePack pack.id _).bind fun _ => (plain_pure _).quiet).final

theorem final_issueDraft : Final (issueDraft application) := by
  refine .bind (orderly_findDraft _) fun draft => .bind (orderly_activePack? _) fun earlier =>
    .bind plain_now.orderly fun now => Quiet.final ?_
  have issued : Quiet (do
      changePack draft.id (·.issued application.reference now)
      pure draft.id) := (quiet_changePack _ _).bind fun _ => (plain_pure _).quiet
  cases earlier with
  | some pack => exact (quiet_changePack _ _).bind fun _ => issued
  | none => exact issued

theorem orderly_initialTerms (isVariation : Bool) :
    Orderly (initialTerms application isVariation) := by
  unfold initialTerms
  split
  · split
    · exact .bind (orderly_findActive _) fun _ => (plain_pure _).orderly
    · exact (plain_pure _).orderly
  · exact (plain_pure _).orderly

theorem final_createDraft (isVariation : Bool) : Final (createDraft application isVariation) := by
  refine .bind (orderly_initialTerms application isVariation) fun terms => Quiet.final ?_
  have numbered : Still nextPack :=
    .bind (still_write fun _ => rfl) fun _ => (plain_read _).still
  refine .bind numbered.quiet fun _ => .bind plain_now.quiet fun _ =>
    .bind ?_ fun _ => (plain_pure _).quiet
  exact fun _ _ _ failed => by cases failed

theorem single_update {store : Store} (single : store.Single) (changes : LicenceUpdate) :
    Store.Single { store with packs := store.packs.modify id (·.update changes) } := by
  have rows : (store.packs.modify id (·.update changes)).rows = _ :=
    Table.rows_modify store.packs id fun _ => rfl
  intro owner status counted
  have bound := single owner status counted
  have packs : (store.packs.modify id (·.update changes)).rows.filter (·.processId == owner) =
      Table.changeAt id (·.update changes) (store.packsOf owner) := by
    rw [rows, Store.packsOf]
    exact Table.filter_changeAt fun _ => rfl
  simp only [Store.packsOf] at packs ⊢
  rw [packs, Table.changeAt, List.countP_map]
  have same : (Pack.isIn status ∘ fun row =>
      if Numbered.number row = id then row.update changes else row) = Pack.isIn status := by
    funext row
    simp only [Function.comp]
    split <;> rfl
  rw [same]
  exact bound

theorem orderly_updateDraft (changes : LicenceUpdate) : Orderly (updateDraft id changes) := by
  refine .bind (orderly_findDraft id) fun draft => ⟨?_, fun context desk single => ?_⟩
  · exact (quiet_changePack draft.id _).final
  · exact single_update draft.id single changes

theorem final_createDocuments : Final (createDocuments application) := by
  refine .bind (orderly_findDraft _) fun draft => .bind (still_write fun _ => rfl).orderly fun _ =>
    Quiet.final (Still.quiet ?_)
  split
  · exact .bind (plain_addDocument _ _ _ _ _).still fun _ =>
      .bind (still_licenceReference _ _) fun _ =>
        .bind (plain_addDocument _ _ _ _ _).still fun _ => (plain_pure _).still
  · exact .bind (still_addCertificates _ _ _ _) fun _ => (plain_pure _).still

end Packs

section Operations

variable (caseType : CaseType) (id : Nat)

theorem quiet_cancel : Quiet (cancel caseType id) :=
  .bind (plain_load id caseType).quiet fun _ => .bind (plain_currentTask id _ _).quiet fun _ =>
    .bind (.bind (plain_findApplication id).quiet fun application =>
      .bind (fun _ _ _ failed => by cases failed) fun _ => (plain_pure _).quiet)
        fun _ => (plain_pure _).quiet

theorem final_create (draft : NewApplication) : Final (create draft) :=
  .bind (plain_require _ (by simp [CaseError.ofField])).orderly fun _ =>
    .bind plain_enter.orderly fun _ => .bind plain_nextProcess.orderly fun _ =>
      .bind plain_now.orderly fun _ => .bind (plain_addApplication _).orderly fun _ =>
        .bind (plain_createTask _ _ _).orderly fun _ =>
          .bind_quiet (final_createDraft _ _) fun _ => (plain_pure _).quiet

theorem final_takeOwnership (user : User) : Final (takeOwnership caseType id user) := by
  refine .bind (plain_loadWithTask id caseType _ _).orderly fun (application, _) => ?_
  dsimp only
  split
  · refine .bind (orderly_findDraft id) fun draft => ?_
    split
    · exact .bind plain_now.orderly fun _ => .bind (orderly_updateDraft id _) fun _ =>
        (plain_saved _).quiet.final
    · exact (plain_saved _).quiet.final
  · exact (plain_saved _).quiet.final

theorem final_editLicence (changes : LicenceUpdate) : Final (editLicence caseType id changes) :=
  .bind (plain_load id caseType).orderly fun _ => .bind (plain_require _ (by simp)).orderly fun _ =>
    .bind (plain_currentTask id _ _).orderly fun _ =>
      .bind (plain_require _ (by simp [CaseError.ofField])).orderly fun _ =>
        .bind (orderly_findDraft id) fun _ =>
          .bind (plain_require _ (by simp [CaseError.ofField])).orderly fun _ =>
            .bind (orderly_updateDraft id changes) fun _ => (orderly_findDraft id).1

theorem final_startAuthorisation (user : User) :
    Final (startAuthorisation caseType id user) := by
  refine .bind (plain_loadWithTask id caseType _ _).orderly fun (application, task) =>
    .bind (plain_read _).orderly fun errors => .bind (plain_require _ (by simp)).orderly fun _ =>
      .bind (plain_finishTask _ _).orderly fun _ => ?_
  split
  · split
    · exact .bind plain_now.orderly fun _ => .bind_quiet (final_archiveDraft id) fun _ =>
        (plain_saved _).quiet
    · exact .bind (plain_createTask _ _ _).orderly fun _ => .bind_quiet (final_archiveDraft id)
        fun _ => (plain_saved _).quiet
  · exact .bind (plain_createTask _ _ _).orderly fun _ => .bind_quiet (final_createDocuments _)
      fun _ => (plain_saved _).quiet

theorem final_documentsSigned : Final (documentsSigned caseType id) := by
  refine .bind (plain_loadWithTask id caseType _ _).orderly fun (application, task) =>
    .bind (plain_finishTask _ _).orderly fun _ => ?_
  split
  · exact Quiet.final (.bind plain_context.quiet fun _ =>
      .bind (still_sendToChief _ _ _ _).quiet fun _ => (plain_saved _).quiet)
  · exact .bind plain_now.orderly fun _ => .bind_quiet (final_issueDraft _) fun _ =>
      (plain_saved _).quiet

theorem final_respondToWithdrawal (user : User) (accept : Bool) (answer : Option String) :
    Final (respondToWithdrawal caseType id user accept answer) := by
  refine .bind (plain_load id caseType).orderly fun _ => .bind (plain_checkFlow _).orderly fun _ =>
    .bind (plain_require _ (by simp)).orderly fun _ => ?_
  split
  · exact .bind plain_now.orderly fun _ => .bind (plain_finishAllTasks id).orderly fun _ =>
      .bind_quiet (final_archiveDraft id) fun _ => (plain_saved _).quiet
  · refine .bind (plain_read _).orderly fun _ => Quiet.final (Plain.quiet ?_)
    split
    · exact plain_saved _
    · exact .bind (plain_createTask _ _ _) fun _ => plain_saved _

theorem final_stop : Final (stop caseType id) :=
  .bind (plain_loadWithTask id caseType _ _).orderly fun _ => .bind plain_now.orderly fun _ =>
    .bind (plain_finishAllTasks id).orderly fun _ => .bind_quiet (final_archiveDraft id) fun _ =>
      (plain_saved _).quiet

theorem final_reopen : Final (reopen caseType id) :=
  .bind (plain_load id caseType).orderly fun _ => .bind (plain_checkFlow _).orderly fun _ =>
    .bind (plain_createTask _ _ _).orderly fun _ => .bind_quiet (final_createDraft _ _) fun _ =>
      (plain_saved _).quiet

theorem final_revoke (input : RevokeInput) : Final (revoke caseType id input) := by
  refine .bind (plain_load id caseType).orderly fun _ => .bind (plain_checkFlow _).orderly fun _ =>
    .bind_quiet (final_revokeActive id _ _) fun _ => ?_
  split
  · exact .bind plain_context.quiet fun _ => .bind (still_sendToChief _ _ _ _).quiet fun _ =>
      (plain_saved _).quiet
  · exact (plain_saved _).quiet

theorem final_requestVariation (user : User) (whatVaried : String) :
    Final (requestVariation caseType id user whatVaried) :=
  .bind (plain_require _ (by simp [CaseError.ofField])).orderly fun _ =>
    .bind (plain_load id caseType).orderly fun _ => .bind (plain_checkFlow _).orderly fun _ =>
      .bind plain_nextRecord.orderly fun _ => .bind plain_now.orderly fun _ =>
        .bind (still_ofExcept (by simp) _).orderly fun _ =>
          .bind (plain_createTask _ _ _).orderly fun _ =>
            .bind_quiet (final_createDraft _ _) fun _ => (plain_saved _).quiet

theorem still_completeRequest (number : Nat) : Still (completeRequest number) :=
  .bind plain_now.still fun _ => still_write fun _ => rfl

theorem still_failRequest (number : Nat) (errors : List ChiefResponseError) :
    Still (failRequest number errors) :=
  .bind plain_now.still fun _ => still_write fun _ => rfl

theorem final_approveLicence : Final (approveLicence id) := by
  refine .bind plain_enter.orderly fun _ => .bind (plain_findApplication id).orderly
    fun application => .bind (plain_finishWait _).orderly fun _ => ?_
  split
  · exact Quiet.final (.bind (still_answerRequest id still_completeRequest).quiet fun _ =>
      (plain_save _).quiet)
  · exact .bind plain_now.orderly fun _ => .bind_quiet (final_issueDraft _) fun _ =>
      .bind (still_answerRequest id still_completeRequest).quiet fun _ => (plain_save _).quiet

theorem quiet_rejectLicence (errors : List ChiefResponseError) :
    Quiet (rejectLicence id errors) :=
  .bind plain_enter.quiet fun _ => .bind (plain_findApplication id).quiet fun _ =>
    .bind (plain_finishWait _).quiet fun _ => .bind (plain_createTask _ _ _).quiet fun _ =>
      (still_answerRequest id fun number => still_failRequest number errors).quiet

theorem quiet_resendLicence : Quiet (resendLicence id) :=
  .bind plain_enter.quiet fun _ => .bind (plain_findApplication id).quiet fun _ =>
    .bind (plain_currentTask _ _ _).quiet fun _ => .bind (plain_finishTask _ _).quiet fun _ =>
      .bind plain_context.quiet fun _ => (still_sendToChief _ _ _ _).quiet

end Operations

theorem final_work (operation : Operation) : Final operation.work := by
  by_cases plain : operation.isPlain = true
  · exact (Operation.plain_work plain).quiet.final
  cases operation
  case create => exact .map (final_create _) _
  case cancel => exact .map (quiet_cancel _ _).final _
  case takeOwnership => exact .map (final_takeOwnership _ _ _) _
  case editLicence => exact .map (final_editLicence _ _ _) _
  case startAuthorisation => exact .map (final_startAuthorisation _ _ _) _
  case documentsSigned => exact .map (final_documentsSigned _ _) _
  case respondToWithdrawal => exact .map (final_respondToWithdrawal _ _ _ _ _) _
  case stop => exact .map (final_stop _ _) _
  case reopen => exact .map (final_reopen _ _) _
  case revoke => exact .map (final_revoke _ _ _) _
  case requestVariation => exact .map (final_requestVariation _ _ _ _) _
  case approveLicence => exact .map (final_approveLicence _) _
  case rejectLicence => exact .map (quiet_rejectLicence _ _).final _
  case resendLicence => exact .map (quiet_resendLicence _).final _
  all_goals exact absurd rfl plain

end Work

end Casework
