import Casework.Proofs.Chief.Waits
import Casework.Proofs.Document.Licences

set_option autoImplicit false

namespace Casework

def Operation.revokes (status : CaseStatus) : Operation → Bool
  | .revoke _ _ _ => true
  | _ => status == .revoked

def PackStatus.handed (revoke : Bool) : PackStatus := if revoke then .revoked else .draft

def TaskType.waiting (revoke : Bool) : TaskType := if revoke then .chiefRevokeWait else .chiefWait

namespace CaseFile

variable {file after : CaseFile}

section Accounts

variable {packId : Nat} {context : Context} {id : Nat} {operation : Operation}

theorem HasPack.of_move_revoked (ordered : file.Ordered)
    (move : Move context id operation file after) (revoked : after.HasPack .revoked packId) :
    file.HasPack .revoked packId ∨ file.HasPack .active packId := by
  obtain ⟨next, member, rfl, isIn⟩ := revoked
  have standing : next.status = .revoked := beq_iff_eq.1 isIn
  rcases (move.continues ordered).draft_or_exists member with draft | ⟨pack, pack_mem, next_of⟩
  · rw [standing] at draft
    cases draft
  · rcases next_of.status_cases with same | moved
    · exact .inl ⟨pack, pack_mem, next_of.id_eq.symm, beq_iff_eq.2 (same.symm.trans standing)⟩
    · rw [standing] at moved
      generalize was : pack.status = status at moved
      cases moved
      exact .inr ⟨pack, pack_mem, next_of.id_eq.symm, beq_iff_eq.2 was⟩

theorem issued_pack_accounted (steps : List Step)
    (found : (System.initial.follow steps).store.fileOf id = some file)
    (issued : file.HasPack .active packId ∨ file.HasPack .revoked packId) :
    Earlier steps (System.Authorises · · id packId) ∨
      Earlier steps (System.Strays · · id packId) := by
  refine file_invariant (fun steps id file =>
    (file.HasPack .active packId ∨ file.HasPack .revoked packId) →
      Earlier steps (System.Authorises · · id packId) ∨
        Earlier steps (System.Strays · · id packId)) ?_ ?_ ?_ steps found issued
  · rintro _ _ _ _ _ _ (⟨pack, member, -, isIn⟩ | ⟨pack, member, -, isIn⟩) <;>
    · cases List.mem_singleton.1 member
      cases isIn
  · exact fun _ step _ _ accounted issued => (accounted issued).imp (·.more [step]) (·.more [step])
  · intro steps step id before after moves accounted issued
    suffices Earlier steps (System.Authorises · · id packId) ∨
        Earlier steps (System.Strays · · id packId) from this.imp (·.more [step]) (·.more [step])
    rcases issued with active | revoked
    · rcases active.of_move moves.move with before_active | ⟨drafts, issuing⟩
      · exact accounted (.inl before_active)
      · exact draft_accounted steps moves.found issuing drafts
    · exact accounted (revoked.of_move_revoked moves.ordered moves.move).symm

end Accounts

section Payload

variable {context : Context} {application : Application} {revoke : Bool} {pack : Pack}

theorem exists_payload_iff
    (only : file.packs.filter (Pack.isIn (.handed revoke)) = [pack]) :
    (∃ payload, file.payload application revoke = .ok payload) ↔
      (ChiefLicenceType.of? application.processType).isSome = true ∧
        file.HasLicence pack.id := by
  constructor
  · rintro ⟨payload, built⟩
    obtain ⟨licenceType, other, reference, known, single, licence, -⟩ := payload_eq_ok built
    cases only.symm.trans single
    exact ⟨Option.isSome_iff_exists.2 ⟨_, known⟩, Option.isSome_iff_exists.2 ⟨_, licence⟩⟩
  · rintro ⟨known, licensed⟩
    obtain ⟨licenceType, known⟩ := Option.isSome_iff_exists.1 known
    obtain ⟨reference, licence⟩ := Option.isSome_iff_exists.1 licensed
    have single : file.singlePack (if revoke then .revoked else .draft) = .ok pack :=
      singlePack_eq_ok_iff.2 only
    unfold CaseFile.payload
    rw [known, single]
    simp only [mapError_ok, bind, Except.bind, licence]
    exact ⟨_, rfl⟩

theorem exists_outcome_iff (enabled : context.sendsLicences = true)
    (accepts : ∀ payload, context.transport payload = none) :
    (∃ sent, file.outcome context application revoke = .ok sent) ↔
      ∃ payload, file.payload application revoke = .ok payload := by
  rw [outcome, if_pos enabled]
  cases file.payload application revoke with
  | error error => simp
  | ok payload => simp [accepts]

theorem followingTask_eq_waiting_iff {outcome : Except ChiefError (Option LicencePayload)} :
    Work.followingTask revoke outcome = .waiting revoke ↔ ∃ sent, outcome = .ok sent := by
  cases outcome with
  | error error => cases revoke <;> simp [Work.followingTask, TaskType.waiting]
  | ok sent => exact iff_of_true rfl ⟨sent, rfl⟩

theorem payload_congr {other : CaseFile} (packs : file.packs = other.packs)
    (documents : file.documents = other.documents)
    (same : file.application.id = other.application.id) :
    file.payload application revoke = other.payload application revoke := by
  unfold CaseFile.payload singlePack licenceOf
  rw [packs, documents, same]

end Payload

def followUp (file : CaseFile) (context : Context) (revoke : Bool) : TaskType :=
  Work.followingTask revoke (file.outcome context file.application revoke)

structure HandsOver (file after : CaseFile) (context : Context) (revoke : Bool) : Prop where
  tally : ∀ taskType, after.tally taskType =
    file.tally taskType + if after.followUp context revoke = taskType then 1 else 0
  opens : after.load (after.followUp context revoke) ≠ 0
  documents : after.documents = file.documents
  revoked : after.application.status = .revoked ↔ revoke = true
  draft : revoke = false →
    file.Issuing ∧ after.packs = file.packs ∧ after.application.status.hasDraft = true

theorem HandsOver.of_send {base : CaseFile} {context : Context} {application : Application}
    {revoke : Bool} {requestId taskId : Nat} {previous : Option Nat}
    (tally : ∀ taskType, base.tally taskType = file.tally taskType)
    (documents : base.documents = file.documents) (same : base.application.id = application.id)
    (revoked : application.status = .revoked ↔ revoke = true)
    (draft : revoke = false →
      file.Issuing ∧ base.packs = file.packs ∧ application.status.hasDraft = true) :
    file.HandsOver
      ((base.send context application revoke requestId taskId previous).put application)
      context revoke := by
  have follows : ((base.send context application revoke requestId taskId previous).put
      application).followUp context revoke =
        Work.followingTask revoke (base.outcome context application revoke) := by
    have built : ((base.send context application revoke requestId taskId previous).put
        application).payload application revoke = base.payload application revoke :=
      payload_congr rfl rfl same.symm
    rw [followUp, put_application, outcome, built, outcome]
  refine ⟨fun taskType => ?_, ?_, documents, revoked, draft⟩
  · rw [follows, tally_put, send, tally_opened, ← tally]
    rfl
  · rw [follows, load_put, load_send, if_pos rfl]
    exact Nat.succ_ne_zero _

theorem HandsOver.of_move {context : Context} {id : Nat} {operation : Operation}
    (move : Move context id operation file after) (sending : operation.role id = .sending)
    (goes : file.application.goesToChief = true) :
    file.HandsOver after context (operation.revokes file.application.status) := by
  cases move with
  | edit edit =>
    rw [edit.bystander] at sending
    cases sending
  | @sendDocuments _ caseType _ _ _ _ current =>
    have standing := (not_givenUp_of_processing current.status).2.2
    have inserted : (Operation.documentsSigned caseType id).revokes file.application.status =
        false := beq_eq_false_iff_ne.2 standing
    rw [inserted]
    exact .of_send (fun _ => tally_finish _ _ _ _ _) rfl rfl
      (iff_of_false standing Bool.false_ne_true)
      fun _ => ⟨current.issuing rfl, rfl, hasDraft_of_processing current.status⟩
  | issueDocuments _ _ kept | revoke _ _ _ kept =>
    rw [goes] at kept
    cases kept
  | revokeAtChief =>
    exact .of_send (fun _ => rfl) rfl rfl (iff_of_true rfl rfl) fun kept => nomatch kept
  | resendLicence current =>
    refine .of_send (fun _ => tally_finish _ _ _ _ _) rfl rfl beq_iff_eq.symm
      fun kept => ⟨current.issuing rfl, rfl, ?_⟩
    have stage := current.status
    rw [if_neg (beq_eq_false_iff_ne.1 kept)] at stage
    exact hasDraft_of_processing stage
  | _ => simp [Operation.role] at sending

theorem HandsOver.exists_pack {context : Context} {revoke : Bool}
    (handing : file.HandsOver after context revoke) (fit : after.PacksFit) :
    ∃ pack, after.packs.filter (Pack.isIn (.handed revoke)) = [pack] := by
  cases revoke with
  | false => exact fit.exists_draft (handing.draft rfl).2.2
  | true =>
    have counted := fit.revoked
    rw [if_pos (handing.revoked.2 rfl), packCount_eq_length] at counted
    exact List.length_eq_one_iff.1 counted

theorem HandsOver.waits_iff {context : Context} {revoke : Bool} {pack : Pack}
    (handing : file.HandsOver after context revoke)
    (kind : after.application.processType = file.application.processType)
    (only : after.packs.filter (Pack.isIn (.handed revoke)) = [pack])
    (enabled : context.sendsLicences = true)
    (accepts : ∀ payload, context.transport payload = none) :
    after.followUp context revoke = .waiting revoke ↔
      (ChiefLicenceType.of? file.application.processType).isSome = true ∧
        file.HasLicence pack.id := by
  have kept : after.HasLicence pack.id ↔ file.HasLicence pack.id :=
    hasLicence_congr (by rw [handing.documents])
  rw [followUp, followingTask_eq_waiting_iff, exists_outcome_iff enabled accepts,
    exists_payload_iff only, kind, kept]

theorem HandsOver.accounted {steps : List Step} {step : Step} {id : Nat}
    (moves : (System.initial.follow steps).Moves step id file after) {context : Context}
    {revoke : Bool} {pack : Pack} (handing : file.HandsOver after context revoke)
    (only : after.packs.filter (Pack.isIn (.handed revoke)) = [pack]) :
    Earlier steps (System.Authorises · · id pack.id) ∨
      Earlier steps (System.Strays · · id pack.id) := by
  obtain ⟨member, isIn⟩ := mem_of_only only
  have has : after.HasPack (.handed revoke) pack.id := ⟨pack, member, rfl, isIn⟩
  cases revoke with
  | false =>
    obtain ⟨issuing, same, -⟩ := handing.draft rfl
    exact draft_accounted steps moves.found issuing (has.of_packs same)
  | true =>
    exact issued_pack_accounted steps moves.found
      (has.of_move_revoked moves.ordered moves.move).symm

end CaseFile

structure System.Opens (system : System) (step : Step) (id : Nat) (taskType : TaskType) :
    Prop where
  tally : ∀ other, (system.after step).store.tasks.tally id other =
    system.store.tasks.tally id other + if taskType = other then 1 else 0
  active : (system.after step).store.tasks.hasActive id taskType = true

/-- While licences are sent and the register takes them all, handing one over opens the task that
waits for the reply if the register knows licences of the process and the pack was authorised, and
the task that deals with a failure if not. A pack that was not authorised has been opened for a
variation while documents of the case were being issued. -/
theorem handed_over_iff (steps : List Step) (step : Step) (id : Nat) {application : Application}
    (taken : (System.initial.follow steps).Takes step)
    (sending : step.operation.role id = .sending)
    (stored : (System.initial.follow steps).store.applications.find? id = some application)
    (goes : application.goesToChief = true)
    (enabled : step.setting.sendsLicences = true)
    (accepts : ∀ payload, step.setting.transport payload = none) :
    ∃ pack opened,
      ((System.initial.follow steps).after step).store.singlePack id
        (.handed (step.operation.revokes application.status)) = .ok pack ∧
      (System.initial.follow steps).Opens step id opened ∧
      (opened = .waiting (step.operation.revokes application.status) ∨ opened = .chiefError) ∧
      (opened = .waiting (step.operation.revokes application.status) ↔
        (ChiefLicenceType.of? application.processType).isSome = true ∧
          Earlier steps (System.Authorises · · id pack.id)) ∧
      (Earlier steps (System.Authorises · · id pack.id) ∨
        Earlier steps (System.Strays · · id pack.id)) := by
  have involved : step.operation.role id ≠ .bystander := by simp [sending]
  obtain ⟨before, after, moves⟩ :=
    taken.moves (System.sound_follow steps) (Operation.subject_of_role involved)
  cases stored.symm.trans moves.stored
  have handing := CaseFile.HandsOver.of_move moves.move sending goes
  have final := moves.becomes
  rw [← System.follow_append] at final
  obtain ⟨pack, only⟩ := handing.exists_pack (CaseFile.packs_fit (steps ++ [step]) final)
  have imported : before.application.isImport = true := (Bool.and_eq_true_iff.1 goes).1
  refine ⟨pack, after.followUp (step.setting.around (System.initial.follow steps))
    (step.operation.revokes before.application.status), ?_, ⟨fun other => ?_, ?_⟩, ?_, ?_,
    handing.accounted moves only⟩
  · rw [Store.singlePack_eq moves.becomes]
    exact CaseFile.singlePack_eq_ok_iff.2 only
  · rw [Store.tally_eq moves.becomes, Store.tally_eq moves.found, handing.tally]
  · exact (Store.hasActive_iff moves.becomes).2 handing.opens
  · exact (CaseFile.followingTask_cases _ _).symm
  · rw [handing.waits_iff moves.move.processType_eq only enabled accepts,
      CaseFile.hasLicence_iff steps moves.found imported]

namespace Sample

def firearms : NewApplication :=
  ⟨.deactivatedFirearms, user, "Acme Ltd", none, none,
    some (.firearms ⟨some "Norway", some "Belgium", some .chapter93⟩)⟩

def textiles : NewApplication :=
  ⟨.textiles, user, "Acme Ltd", none, none,
    some (.textiles ⟨some "Norway", some "Belgium", some 2024, some ⟨"1", "Yarn"⟩, some "5205"⟩)⟩

def unsigned (application : NewApplication) : List Step :=
  let prepared : List Operation :=
    [.create user application,
      .submit .importing 1 user,
      .takeOwnership .importing 1 user,
      .editLicence .importing 1 ⟨none, some ⟨2025, 4, 30, by decide⟩, some false⟩]
  let authorised : List Operation := [.authoriseDocuments .importing 1 user]
  (prepared ++ approval .importing ++ authorised).map (step true)

def signing : Step := step true (.documentsSigned .importing 1)

theorem firearms_ready :
    ∃ application ∈ (System.initial.follow (unsigned firearms)).store.applications.rows,
      application.id = 1 ∧ application.goesToChief = true ∧ application.status ≠ .revoked := by
  decide +kernel

theorem firearms_signed : (System.initial.follow (unsigned firearms)).Takes signing :=
  System.takes_of_isOk (by decide +kernel)

theorem firearms_arrives :
    ((System.initial.follow (unsigned firearms)).after signing).store.tasks.hasActive 1
      .chiefError = false := by
  decide +kernel

theorem textiles_ready :
    ∃ application ∈ (System.initial.follow (unsigned textiles)).store.applications.rows,
      application.id = 1 ∧ application.goesToChief = true ∧ application.status ≠ .revoked := by
  decide +kernel

theorem textiles_signed : (System.initial.follow (unsigned textiles)).Takes signing :=
  System.takes_of_isOk (by decide +kernel)

theorem textiles_fails :
    ((System.initial.follow (unsigned textiles)).after signing).store.tasks.hasActive 1
      .chiefWait = false := by
  decide +kernel

theorem signing_revokes {status : CaseStatus} (standing : status ≠ .revoked) :
    signing.operation.revokes status = false := beq_eq_false_iff_ne.2 standing

end Sample

theorem firearms_handed_over :
    ∃ pack,
      ((System.initial.follow (Sample.unsigned Sample.firearms)).after
        Sample.signing).store.singlePack 1 .draft = .ok pack ∧
      (System.initial.follow (Sample.unsigned Sample.firearms)).Opens Sample.signing 1 .chiefWait ∧
      Earlier (Sample.unsigned Sample.firearms) (System.Authorises · · 1 pack.id) := by
  obtain ⟨application, stored, number, goes, standing⟩ := Sample.firearms_ready
  obtain ⟨pack, opened, single, opens, either, waits, -⟩ :=
    handed_over_iff (Sample.unsigned Sample.firearms) Sample.signing 1 Sample.firearms_signed rfl
      (Table.find?_eq_some_iff.2 ⟨stored, number⟩) goes rfl fun _ => rfl
  rw [Sample.signing_revokes standing] at single either waits
  rcases either with rfl | rfl
  · exact ⟨pack, single, opens, (waits.1 rfl).2⟩
  · exact absurd (opens.active.symm.trans Sample.firearms_arrives) (by decide)

/-- Not every licence that is meant for the register can be handed over to it: the register has no
licences for textiles. -/
theorem textiles_not_handed_over :
    ¬ ∀ (steps : List Step) (step : Step) (id : Nat) (application : Application),
      (System.initial.follow steps).Takes step → step.operation.role id = .sending →
      (System.initial.follow steps).store.applications.find? id = some application →
      application.goesToChief = true → step.setting.sendsLicences = true →
      (∀ payload, step.setting.transport payload = none) →
      (System.initial.follow steps).Opens step id
        (.waiting (step.operation.revokes application.status)) := by
  intro waits
  obtain ⟨application, stored, number, goes, standing⟩ := Sample.textiles_ready
  have opens := waits (Sample.unsigned Sample.textiles) Sample.signing 1 application
    Sample.textiles_signed rfl (Table.find?_eq_some_iff.2 ⟨stored, number⟩) goes rfl fun _ => rfl
  rw [Sample.signing_revokes standing] at opens
  exact absurd (opens.active.symm.trans Sample.textiles_fails) (by decide)

end Casework
