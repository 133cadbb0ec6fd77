import Casework.Proofs.Packs.Invariant
import Casework.Proofs.Packs.Refusals

set_option autoImplicit false

namespace Casework

open Calendar

namespace CaseFile

variable {file : CaseFile}

def Recorded (file : CaseFile) : Prop :=
  ∀ request ∈ file.requests, request.status = .internalError →
    ∃ error : ChiefError, ¬ error.IsMultiple ∧ request.errors = [⟨"ICMS", error.message⟩]

theorem payload_error {application : Application} {revoke : Bool} {error : ChiefError}
    (failed : file.payload application revoke = .error error) (several : error.IsMultiple) :
    2 ≤ file.packCount (if revoke then .revoked else .draft) := by
  unfold payload at failed
  cases kind : ChiefLicenceType.of? application.processType with
  | none =>
    rw [kind] at failed
    cases failed
    exact several.elim
  | some licenceType =>
    rw [kind] at failed
    cases single : file.singlePack (if revoke then .revoked else .draft) with
    | error missing =>
      rw [single] at failed
      cases failed
      match missing with
      | .multiple _ _ _ => exact singlePack_eq_multiple single
      | .notFound _ _ => exact several.elim
      | .reference _ => exact several.elim
    | ok pack =>
      rw [single] at failed
      simp only [mapError_ok, bind, Except.bind] at failed
      cases named : (file.licenceOf pack.id).bind (·.reference) with
      | none =>
        rw [named] at failed
        cases failed
        exact several.elim
      | some reference =>
        rw [named] at failed
        cases failed

theorem Recorded.send (recorded : file.Recorded) {base : CaseFile}
    (kept : base.requests = file.requests) {context : Context} {application : Application}
    {revoke : Bool} (single : base.packCount (if revoke then .revoked else .draft) ≤ 1)
    {requestId taskId : Nat} {previous : Option Nat} :
    (base.send context application revoke requestId taskId previous).Recorded := by
  intro request member failed
  rw [send_requests, kept, List.mem_append] at member
  rcases member with member | member
  · exact recorded request member failed
  · rw [List.mem_singleton.1 member] at failed ⊢
    cases sent : base.outcome context application revoke with
    | ok payload =>
      rw [sent] at failed
      cases failed
    | error error =>
      refine ⟨error, fun several => ?_, rfl⟩
      -- Only the look-up of the pack could have found several, and there is at most one.
      unfold outcome at sent
      split at sent
      · cases built : base.payload application revoke with
        | error failure =>
          rw [built] at sent
          cases sent
          have bound := payload_error built several
          omega
        | ok payload =>
          rw [built] at sent
          cases refused : context.transport payload with
          | some reason =>
            simp only [refused] at sent
            cases sent
            exact several
          | none =>
            simp only [refused] at sent
            cases sent
      · cases sent

theorem Recorded.answer (recorded : file.Recorded) {base : CaseFile}
    (kept : base.requests = file.requests) {change : ChiefRequest → ChiefRequest}
    (closed : ∀ request, (change request).status ≠ .internalError) :
    (base.answer change).Recorded := by
  have recorded : base.Recorded := by
    unfold Recorded
    rw [kept]
    exact recorded
  unfold CaseFile.answer
  split
  next request _ =>
    intro found member failed
    obtain ⟨row, row_mem, rfl⟩ := Table.mem_changeAt.1 member
    split at failed
    next => exact absurd failed (closed row)
    next other =>
      rw [if_neg other]
      exact recorded row row_mem failed
  next => exact recorded

theorem Recorded.carry (recorded : file.Recorded) {after : CaseFile}
    (same : after.requests = file.requests) : after.Recorded := by
  unfold Recorded
  rw [same]
  exact recorded

theorem PacksFit.drafts_le (fit : file.PacksFit) : file.packCount .draft ≤ 1 := by
  rw [fit.draft]
  split <;> simp

theorem PacksFit.revoked_le (fit : file.PacksFit) : file.packCount .revoked ≤ 1 := by
  rw [fit.revoked]
  split <;> simp

theorem Recorded.move (recorded : file.Recorded) (fit : file.PacksFit) (ordered : file.Ordered)
    {context : Context} {id : Nat} {operation : Operation} {after : CaseFile}
    (move : Move context id operation file after) : after.Recorded := by
  cases move with
  | sendDocuments =>
    refine recorded.send ?_ ?_
    · rfl
    · exact fit.drafts_le
  | resendLicence =>
    refine recorded.send ?_ ?_
    · rfl
    · split
      · exact fit.revoked_le
      · exact fit.drafts_le
  | @revokeAtChief _ _ input pack requestId new _ stage only =>
    have becomes : (pack.revoke input.reason input.sendEmail).status = .revoked := rfl
    obtain ⟨member, isActive⟩ := mem_of_only only
    have moved := packCount_restatus ordered member isActive
      (·.revoke input.reason input.sendEmail) becomes .revoked
    have before := fit.revoked
    simp only [stage, reduceCtorEq, if_pos, if_false] at moved before
    change (CaseFile.send _ context _ true requestId new none).Recorded
    refine recorded.send ?_ ?_
    · rfl
    · rw [if_pos rfl]
      omega
  | approveLicence =>
    change (CaseFile.answer _ _).Recorded
    refine recorded.answer ?_ fun _ => ?_
    · rw [issue_requests, finish_requests]
    · simp [ChiefRequest.completed]
  | approveRevocation =>
    change (CaseFile.answer _ _).Recorded
    refine recorded.answer ?_ fun _ => ?_
    · rfl
    · simp [ChiefRequest.completed]
  | rejectLicence =>
    refine recorded.answer ?_ fun _ => ?_
    · rfl
    · simp [ChiefRequest.failed]
  | submit => exact recorded.carry (ensureTask_requests _ _)
  | rejectWithdrawal => exact recorded.carry (ensureTask_requests _ _)
  | issueDocuments => exact recorded.carry (by rw [put_requests, issue_requests, finish_requests])
  | _ => exact recorded.carry rfl

theorem recorded (steps : List Step) {id : Nat} {file : CaseFile}
    (found : (System.initial.follow steps).store.fileOf id = some file) : file.Recorded := by
  refine file_invariant (fun _ _ file => file.Recorded) ?_ ?_ ?_ steps found
  · exact fun _ _ _ _ _ _ request member => by cases member
  · exact fun _ _ _ _ recorded => recorded
  · exact fun steps _ _ _ _ moves recorded =>
      recorded.move (packs_fit steps moves.found) moves.ordered moves.move

end CaseFile

def Store.packCount (store : Store) (id : Nat) (status : PackStatus) : Nat :=
  ((store.packsOf id).filter (·.status == status)).length

theorem Store.packCount_eq {store : Store} {id : Nat} {file : CaseFile}
    (found : store.fileOf id = some file) (status : PackStatus) :
    store.packCount id status = file.packCount status := by
  rw [CaseFile.packCount_eq_length, ← (fileOf_eq_some_iff.1 found).2.2.1]
  rfl

theorem System.single (steps : List Step) : (initial.follow steps).store.Single := by
  intro id status counted
  cases found : (initial.follow steps).store.fileOf id with
  | none => simp [(sound_follow steps).packsOf_unstored found]
  | some file =>
    have fit := CaseFile.packs_fit steps found
    rw [(Store.fileOf_eq_some_iff.1 found).2.2.1]
    cases status with
    | draft => exact fit.drafts_le
    | active => exact fit.active
    | revoked => exact fit.revoked_le
    | archived => exact absurd rfl counted

/-- Each case has one draft while it is worked on and none otherwise, at most one pack in force, and
a revoked pack if it is revoked. So no look-up of the one pack in a status finds several: none can,
no operation is refused for it, and it is not why a sending failed. -/
theorem packs_fit_status {system : System} (reached : Reachable system) :
    (∀ application ∈ system.store.applications.rows,
      (system.store.packCount application.id .draft =
        if application.status ∈
          [CaseStatus.inProgress, .submitted, .processing, .variationRequested] then 1 else 0) ∧
      system.store.packCount application.id .active ≤ 1 ∧
      (system.store.packCount application.id .revoked =
        if application.status = .revoked then 1 else 0) ∧
      ∀ request ∈ system.store.requestsOf application.id, request.status = .internalError →
        ∃ error : ChiefError, ¬ error.IsMultiple ∧ request.errors = [⟨"ICMS", error.message⟩]) ∧
    (∀ id error,
      system.store.draftPack id = .error error ∨ system.store.activePack id = .error error ∨
      system.store.revokedPack id = .error error → ¬ error.IsMultiple) ∧
    ∀ setting operation error,
      (system.perform setting operation).1 = .error error → ¬ error.IsMultiple := by
  obtain ⟨steps, rfl⟩ := reachable_iff.1 reached
  have single := System.single steps
  refine ⟨fun application member => ?_, fun id error looked => ?_,
    fun setting operation error failed => ?_⟩
  -- The counts of the store are those of the file.
  · have looked : (System.initial.follow steps).store.applications.find? application.id =
        some application := Table.find?_eq_some_iff.2 ⟨member, rfl⟩
    obtain ⟨file, found, rfl⟩ := Store.exists_fileOf looked
    have fit := CaseFile.packs_fit steps found
    have recorded := CaseFile.recorded steps found
    rw [Store.packCount_eq found, Store.packCount_eq found, Store.packCount_eq found,
      (Store.fileOf_eq_some_iff.1 found).2.2.2.2, fit.draft, fit.revoked]
    refine ⟨?_, fit.active, rfl, recorded⟩
    cases file.application.status <;> rfl
  · rcases looked with looked | looked | looked
    · exact single.not_multiple (by decide) looked
    · exact single.not_multiple (by decide) looked
    · exact single.not_multiple (by decide) looked
  · rw [System.perform_fst] at failed
    exact Work.final_work operation _ _ single error failed

theorem certificate_packs_fit :
    ∃ system, Reachable system ∧ ∃ application ∈ system.store.applications.rows,
      application.status = .processing ∧ system.store.packCount application.id .draft = 1 ∧
      system.store.packCount application.id .active ≤ 1 ∧
      system.store.packCount application.id .revoked = 0 := by
  let steps := Sample.certificate.map (Sample.step false)
  have reached : Reachable (System.initial.follow steps) := reachable_iff.2 ⟨steps, rfl⟩
  have worked_on : ∃ application ∈ (System.initial.follow steps).store.applications.rows,
      application.status = .processing := by
    decide +kernel
  obtain ⟨application, member, stage⟩ := worked_on
  obtain ⟨draft, active, revoked, -⟩ := (packs_fit_status reached).1 application member
  rw [stage] at draft revoked
  exact ⟨_, reached, application, member, stage, draft, active, revoked⟩

end Casework
