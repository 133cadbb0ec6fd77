import Casework.Proofs.Packs.Invariant
import Casework.Proofs.Tasks.Invariant

set_option autoImplicit false

namespace Casework

open Calendar

def TaskType.isIssuing : TaskType → Bool
  | .authorise | .documentSigning | .documentError | .chiefWait | .chiefError => true
  | .prepare | .process | .changeRequest | .chiefRevokeWait | .rejected => false

namespace CaseFile

variable {file : CaseFile}

def Issuing (file : CaseFile) : Prop :=
  ∃ taskType : TaskType, taskType.isIssuing = true ∧ file.load taskType ≠ 0

def HasPack (file : CaseFile) (status : PackStatus) (packId : Nat) : Prop :=
  ∃ pack ∈ file.packs, pack.id = packId ∧ pack.isIn status = true

theorem Current.issuing {expected : List CaseStatus} {taskType : TaskType} {task : Task}
    (current : file.Current expected taskType task) (leads : taskType.isIssuing = true) :
    file.Issuing :=
  ⟨taskType, leads, current.held⟩

theorem Issuing.of_loads {after : CaseFile} (issuing : after.Issuing)
    (same : ∀ taskType : TaskType, taskType.isIssuing = true →
      after.load taskType = file.load taskType) : file.Issuing := by
  obtain ⟨taskType, leads, held⟩ := issuing
  exact ⟨taskType, leads, same taskType leads ▸ held⟩

theorem ne_of_isIssuing {taskType other : TaskType} (leads : taskType.isIssuing = true)
    (idle : other.isIssuing = false) : other ≠ taskType := by
  rintro rfl
  rw [leads] at idle
  cases idle

theorem HasPack.of_packs {after : CaseFile} {status : PackStatus} {packId : Nat}
    (has : after.HasPack status packId) (same : after.packs = file.packs) :
    file.HasPack status packId := by
  obtain ⟨pack, member, rest⟩ := has
  exact ⟨pack, same ▸ member, rest⟩

theorem HasPack.of_change {after : CaseFile} {status : PackStatus} {packId id : Nat}
    {change : Pack → Pack} (has : after.HasPack status packId)
    (same : after.packs = (file.changePack id change).packs)
    (kept : ∀ pack, (change pack).id = pack.id)
    (was : ∀ pack, (change pack).isIn status = true → pack.isIn status = true) :
    file.HasPack status packId := by
  obtain ⟨pack, member, named, isIn⟩ := has
  rw [same] at member
  obtain ⟨row, row_mem, rfl⟩ := Table.mem_changeAt.1 member
  split at named
  next picked =>
    rw [if_pos picked] at isIn
    exact ⟨row, row_mem, (kept row).symm.trans named, was row isIn⟩
  next other =>
    rw [if_neg other] at isIn
    exact ⟨row, row_mem, named, isIn⟩

theorem HasPack.of_update {after : CaseFile} {status : PackStatus} {packId id : Nat}
    {changes : LicenceUpdate} (has : after.HasPack status packId)
    (same : after.packs = (file.changePack id (·.update changes)).packs) :
    file.HasPack status packId :=
  has.of_change same (fun _ => rfl) fun _ isIn => isIn

theorem HasPack.of_addPack {after : CaseFile} {status : PackStatus} {packId : Nat} {pack : Pack}
    (has : after.HasPack status packId) (same : after.packs = (file.addPack pack).packs)
    (other : pack.isIn status = false) : file.HasPack status packId := by
  obtain ⟨found, member, named, isIn⟩ := has
  rw [same, addPack_packs, List.mem_append, List.mem_singleton] at member
  rcases member with member | rfl
  · exact ⟨found, member, named, isIn⟩
  · rw [other] at isIn
    cases isIn

theorem HasPack.of_issue {after : CaseFile} {packId : Nat} {draft : Pack} {earlier : Option Pack}
    {reference : Option String} {now : Instant} (active : after.HasPack .active packId)
    (only : file.packs.filter (Pack.isIn .draft) = [draft])
    (same : after.packs = (file.issue draft earlier reference now).packs) :
    file.HasPack .active packId ∨ file.HasPack .draft packId := by
  obtain ⟨pack, member, named, isIn⟩ := active
  rw [same] at member
  obtain ⟨row, row_mem, rfl⟩ := Table.mem_changeAt.1 member
  split at named
  next picked =>
    obtain ⟨drafted, isDraft⟩ := mem_of_only only
    exact .inr ⟨draft, drafted, picked.symm.trans named, isDraft⟩
  next other =>
    rw [if_neg other] at isIn
    left
    cases earlier with
    | none => exact ⟨row, row_mem, named, isIn⟩
    | some earlier =>
      have kept : (file.changePack earlier.id .archived).HasPack .active packId :=
        ⟨row, row_mem, named, isIn⟩
      exact kept.of_change rfl (fun _ => rfl) fun _ archived => by cases archived

theorem PacksFit.hasDraft (fit : file.PacksFit) {packId : Nat}
    (drafts : file.HasPack .draft packId) :
    file.application.status.hasDraft = true := by
  obtain ⟨pack, member, -, isDraft⟩ := drafts
  have counted : 0 < file.packCount .draft := List.countP_pos_iff.2 ⟨pack, member, isDraft⟩
  rw [fit.draft] at counted
  cases working : file.application.status.hasDraft with
  | true => rfl
  | false =>
    rw [working] at counted
    cases counted

theorem HasPack.only {packId : Nat} (drafts : file.HasPack .draft packId) {draft : Pack}
    (only : file.packs.filter (Pack.isIn .draft) = [draft]) : draft.id = packId := by
  obtain ⟨pack, member, named, isDraft⟩ := drafts
  have picked : pack ∈ file.packs.filter (Pack.isIn .draft) := List.mem_filter.2 ⟨member, isDraft⟩
  rw [only, List.mem_singleton] at picked
  rw [← picked]
  exact named

theorem PacksFit.only_draft (fit : file.PacksFit) {packId : Nat}
    (drafts : file.HasPack .draft packId) :
    ∃ draft, file.packs.filter (Pack.isIn .draft) = [draft] ∧ draft.id = packId := by
  obtain ⟨draft, only⟩ := fit.exists_draft (fit.hasDraft drafts)
  exact ⟨draft, only, drafts.only only⟩

-- How the draft of a case comes to be on its way to being issued.
inductive Origin (file : CaseFile) (id packId : Nat) : Operation → Prop where
  | underway {operation : Operation} (drafts : file.HasPack .draft packId)
      (issuing : file.Issuing) :
      Origin file id packId operation
  | authorised {caseType : CaseType} {user : User} (drafts : file.HasPack .draft packId)
      (approved : file.application.currentDecision = some .approve) :
      Origin file id packId (.startAuthorisation caseType id user)
  | varied {caseType : CaseType} {user : User} {whatVaried : String} (issuing : file.Issuing) :
      Origin file id packId (.requestVariation caseType id user whatVaried)

theorem Origin.of_move (packs : file.PacksFit) (tasks : file.TasksFit) (ordered : file.Ordered)
    {context : Context} {id packId : Nat} {operation : Operation} {after : CaseFile}
    (move : Move context id operation file after) (issuing : after.Issuing)
    (drafts : after.HasPack .draft packId) : file.Origin id packId operation := by
  have working := (packs.move ordered move).hasDraft drafts
  -- There is a draft afterwards, so the moves that complete or revoke the case are ruled out.
  cases move with
  | edit => exact .underway drafts issuing
  | startLicence => exact .underway (drafts.of_update rfl) issuing
  | editLicence => exact .underway (drafts.of_update rfl) issuing
  | submit _ _ _ only =>
    refine .underway (drafts.of_packs (ensureTask_packs _ _))
      (issuing.of_loads fun taskType leads => ?_)
    have unlike_prepare := ne_of_isIssuing leads (rfl : TaskType.prepare.isIssuing = false)
    have unlike_process := ne_of_isIssuing leads (rfl : TaskType.process.isIssuing = false)
    rw [load_put, load_ensured, if_neg unlike_process, load_finish ordered only,
      if_neg unlike_prepare]
  | refuseVariation => simp [Application.rejectVariation, CaseStatus.hasDraft] at working
  | refuse => simp [CaseStatus.hasDraft] at working
  | approve _ _ decided => exact .authorised drafts decided
  | authoriseDocuments _ current => exact .underway drafts (current.issuing rfl)
  | sendDocuments _ current => exact .underway drafts (current.issuing rfl)
  | issueDocuments => simp [Application.complete, CaseStatus.hasDraft] at working
  | failSigning _ current => exact .underway drafts (current.issuing rfl)
  | retrySigning _ current => exact .underway drafts (current.issuing rfl)
  | acceptWithdrawal =>
    obtain ⟨taskType, -, held⟩ := issuing
    simp at held
  | rejectWithdrawal =>
    refine .underway (drafts.of_packs (ensureTask_packs _ _))
      (issuing.of_loads fun taskType leads => ?_)
    have unlike_process := ne_of_isIssuing leads (rfl : TaskType.process.isIssuing = false)
    rw [load_put, load_ensured, if_neg unlike_process]
  | stop => simp [CaseStatus.hasDraft] at working
  | reopen _ stage =>
    obtain ⟨taskType, leads, held⟩ := issuing
    have unlike_process := ne_of_isIssuing leads (rfl : TaskType.process.isIssuing = false)
    have idle := tasks.givenUp (isGivenUp_of_reopenable stage) taskType
    simp [idle, unlike_process] at held
  | revoke => simp [CaseStatus.hasDraft] at working
  | revokeAtChief => simp [CaseStatus.hasDraft] at working
  | requestVariation =>
    refine .varied (issuing.of_loads fun taskType leads => ?_)
    have unlike_process := ne_of_isIssuing leads (rfl : TaskType.process.isIssuing = false)
    rw [load_put, load_addPack, load_opened, if_neg unlike_process, Nat.add_zero]
  | addUpdateRequest =>
    refine .underway drafts (issuing.of_loads fun taskType leads => ?_)
    have unlike_prepare := ne_of_isIssuing leads (rfl : TaskType.prepare.isIssuing = false)
    rw [load_put, load_opened, if_neg unlike_prepare, Nat.add_zero]
  | withdrawUpdateRequest _ _ _ _ only =>
    refine .underway drafts (issuing.of_loads fun taskType leads => ?_)
    have unlike_prepare := ne_of_isIssuing leads (rfl : TaskType.prepare.isIssuing = false)
    rw [load_put, load_finish ordered only, if_neg unlike_prepare]
  | approveLicence => simp [Application.complete, CaseStatus.hasDraft] at working
  | approveRevocation current =>
    rw [put_application, List.mem_singleton.1 current.status] at working
    cases working
  | rejectLicence current =>
    have kept : file.HasPack .draft packId := drafts.of_packs (answer_packs _ _)
    refine .underway kept (current.issuing ?_)
    rw [awaitedReply, if_neg (ne_revoked_of_hasDraft (packs.hasDraft kept))]
    rfl
  | resendLicence current => exact .underway drafts (current.issuing rfl)
  | revertLicence current => exact .underway drafts (current.issuing rfl)

theorem HasPack.of_move {context : Context} {id packId : Nat} {operation : Operation}
    {after : CaseFile} (move : Move context id operation file after)
    (active : after.HasPack .active packId) :
    file.HasPack .active packId ∨ (file.HasPack .draft packId ∧ file.Issuing) := by
  cases move with
  | startLicence => exact .inl (active.of_update rfl)
  | editLicence => exact .inl (active.of_update rfl)
  | submit => exact .inl (active.of_packs (ensureTask_packs _ _))
  | refuseVariation =>
    exact .inl (active.of_change rfl (fun _ => rfl) fun pack archived => by cases archived)
  | refuse =>
    exact .inl (active.of_change rfl (fun _ => rfl) fun pack archived => by cases archived)
  | issueDocuments _ current _ only =>
    have issued := active.of_issue only (finish_issue_packs file _ _ _ _ _ _ _)
    exact issued.imp_right fun drafts => ⟨drafts, current.issuing rfl⟩
  | acceptWithdrawal =>
    exact .inl (active.of_change rfl (fun _ => rfl) fun pack archived => by cases archived)
  | rejectWithdrawal => exact .inl (active.of_packs (ensureTask_packs _ _))
  | stop =>
    exact .inl (active.of_change rfl (fun _ => rfl) fun pack archived => by cases archived)
  | reopen => exact .inl (active.of_addPack rfl rfl)
  | revoke =>
    exact .inl (active.of_change rfl (fun _ => rfl) fun pack revoked => by cases revoked)
  | revokeAtChief =>
    exact .inl (active.of_change rfl (fun _ => rfl) fun pack revoked => by cases revoked)
  | requestVariation => exact .inl (active.of_addPack rfl rfl)
  | approveLicence current only =>
    have issued := active.of_issue only
      ((answer_packs _ _).trans (finish_issue_packs file _ _ _ _ _ _ _))
    exact issued.imp_right fun drafts => ⟨drafts, current.issuing rfl⟩
  | approveRevocation => exact .inl (active.of_packs (answer_packs _ _))
  | rejectLicence => exact .inl (active.of_packs (answer_packs _ _))
  | _ => exact .inl active

end CaseFile

namespace System

/-- The step starts the authorisation of the draft of the case, which was approved. -/
structure Authorises (system : System) (step : Step) (id packId : Nat) : Prop where
  asked : ∃ caseType user, step.operation = .startAuthorisation caseType id user
  takes : system.Takes step
  approved : ∃ application, system.store.applications.find? id = some application ∧
    application.currentDecision = some .approve
  draft : ∃ pack, system.store.draftPack id = .ok pack ∧ pack.id = packId

/-- The step opens the draft of a variation while documents of the case are being issued. -/
structure Strays (system : System) (step : Step) (id packId : Nat) : Prop where
  asked : ∃ caseType user whatVaried, step.operation = .requestVariation caseType id user whatVaried
  takes : system.Takes step
  held : ∃ taskType : TaskType, taskType.isIssuing = true ∧
    system.store.tasks.hasActive id taskType = true
  draft : ∃ pack, (system.after step).store.draftPack id = .ok pack ∧ pack.id = packId

theorem Moves.authorises {system : System} {step : Step} {id : Nat} {before after : CaseFile}
    (moves : system.Moves step id before after) {caseType : CaseType} {user : User}
    (asked : step.operation = .startAuthorisation caseType id user)
    (approved : before.application.currentDecision = some .approve) {draft : Pack}
    (only : before.packs.filter (Pack.isIn .draft) = [draft]) :
    system.Authorises step id draft.id where
  asked := ⟨caseType, user, asked⟩
  takes := moves.takes
  approved := ⟨before.application, moves.stored, approved⟩
  draft := ⟨draft, Store.draftPack_of_only moves.found only, rfl⟩

end System

theorem CaseFile.draft_accounted (steps : List Step) {id packId : Nat} {file : CaseFile}
    (found : (System.initial.follow steps).store.fileOf id = some file) (issuing : file.Issuing)
    (drafts : file.HasPack .draft packId) :
    Earlier steps (fun system step => system.Authorises step id packId) ∨
      Earlier steps fun system step => system.Strays step id packId := by
  refine file_invariant (fun steps id file => file.Issuing → file.HasPack .draft packId →
    Earlier steps (fun system step => system.Authorises step id packId) ∨
      Earlier steps fun system step => system.Strays step id packId)
    ?_ ?_ ?_ steps found issuing drafts
  · rintro steps step id draft task pack ⟨taskType, leads, held⟩ -
    rw [load_started, if_neg (ne_of_isIssuing leads rfl).symm] at held
    exact absurd rfl held
  · exact fun steps step _ _ accounted issuing drafts =>
      (accounted issuing drafts).imp (·.more [step]) (·.more [step])
  -- A move leaves the draft on its way, starts its authorisation, or opens it over old tasks.
  · intro steps step id before after moves accounted issuing drafts
    have packs := packs_fit steps moves.found
    have ordered := moves.ordered
    have origin :=
      Origin.of_move packs (tasks_fit steps moves.found) ordered moves.move issuing drafts
    generalize asked : step.operation = operation at origin
    cases origin with
    | underway drafts issuing =>
      exact (accounted issuing drafts).imp (·.more [step]) (·.more [step])
    | authorised drafted approved =>
      obtain ⟨draft, only, rfl⟩ := packs.only_draft drafted
      exact .inl (earlier_last (moves.authorises asked approved only))
    | varied held =>
      obtain ⟨taskType, leads, open_task⟩ := held
      obtain ⟨draft, only, named⟩ := (packs.move ordered moves.move).only_draft drafts
      refine .inr (earlier_last ⟨⟨_, _, _, asked⟩, moves.takes, ?_, ?_⟩)
      · exact ⟨taskType, leads, (Store.hasActive_iff moves.found).2 open_task⟩
      · exact ⟨draft, Store.draftPack_of_only moves.becomes only, named⟩

/-- Whatever is put in force was the draft of an authorisation that was started before, unless that
draft was opened for a variation while tasks of an earlier issue were active. -/
theorem issued_accounted (steps : List Step) (step : Step) {pack : Pack}
    (issued : pack ∈ ((System.initial.follow steps).after step).store.packs.rows)
    (active : pack.status = .active)
    (fresh : ∀ earlier ∈ (System.initial.follow steps).store.packs.rows,
      earlier.id = pack.id → earlier.status ≠ .active) :
    Earlier steps (fun system step => system.Authorises step pack.processId pack.id) ∨
      Earlier steps fun system step => system.Strays step pack.processId pack.id := by
  have sound := System.sound_follow steps
  obtain ⟨application, looked⟩ :=
    Option.isSome_iff_exists.1 ((System.sound_after sound step).packs pack issued).2
  obtain ⟨after, stored, -⟩ := Store.exists_fileOf looked
  have in_force : after.HasPack .active pack.id :=
    ⟨pack, (Store.mem_packs_iff stored).2 ⟨issued, rfl⟩, rfl, beq_iff_eq.2 active⟩
  have unissued : ∀ before,
      (System.initial.follow steps).store.fileOf pack.processId = some before →
      ¬ before.HasPack .active pack.id := by
    rintro before found ⟨earlier, member, named, was⟩
    exact fresh earlier ((Store.mem_packs_iff found).1 member).1 named (beq_iff_eq.1 was)
  rcases System.file_after sound step pack.processId with
    same | ⟨_, draft, task, new, -, -, -, created⟩ | ⟨_, -, -, removed⟩ | ⟨before, final, moves⟩
  · exact absurd in_force (unissued after (same.symm.trans stored))
  -- The only pack of a new case is its draft.
  · cases created.symm.trans stored
    obtain ⟨found, member, -, isIn⟩ := in_force
    cases List.mem_singleton.1 member
    cases isIn
  · cases removed.symm.trans stored
  · cases moves.becomes.symm.trans stored
    rcases in_force.of_move moves.move with was | ⟨drafts, issuing⟩
    · exact absurd was (unissued before moves.found)
    · exact CaseFile.draft_accounted steps moves.found issuing drafts

namespace Sample

-- A case is refused while it is being authorised, and then the documents of a variation are signed
-- by the tasks that are left.
def strayIssue : List Step :=
  let refused : List Operation :=
    [.decide .exporting 1 ⟨.refuse, some "not eligible"⟩, .startAuthorisation .exporting 1 user]
  let varied : List Operation :=
    [.requestVariation .exporting 1 user "country", .authoriseDocuments .exporting 1 user]
  (certificate ++ refusedWithdrawal .exporting ++ refused ++ varied).map (step false)

def signed : Step := step false (.documentsSigned .exporting 1)

def strayPack : Pack :=
  (((System.initial.follow strayIssue).after signed).store.packs.find? 2).getD
    (.drafted 0 0 ⟨none, none, none⟩ signed.setting.now)

def startsWith (packId : Nat) (system : System) (step : Step) : Bool :=
  match step.operation, system.store.draftPack 1 with
  | .startAuthorisation _ _ _, .ok pack => pack.id == packId
  | _, _ => false

theorem strayPack_issued :
    strayPack ∈ ((System.initial.follow strayIssue).after signed).store.packs.rows ∧
      strayPack.status = .active ∧ strayPack.processId = 1 ∧ strayPack.id = 2 ∧
      ∀ earlier ∈ (System.initial.follow strayIssue).store.packs.rows,
        earlier.id = strayPack.id → earlier.status ≠ .active := by
  decide +kernel

theorem strayPack_not_started :
    ∀ index : Fin strayIssue.length,
      startsWith 2 (System.initial.follow (strayIssue.take index)) strayIssue[index] = false := by
  decide +kernel

end Sample

theorem stray_issue_accounted :
    Earlier Sample.strayIssue (fun system step =>
        system.Authorises step Sample.strayPack.processId Sample.strayPack.id) ∨
      Earlier Sample.strayIssue fun system step =>
        system.Strays step Sample.strayPack.processId Sample.strayPack.id :=
  issued_accounted Sample.strayIssue Sample.signed Sample.strayPack_issued.1
    Sample.strayPack_issued.2.1 Sample.strayPack_issued.2.2.2.2

theorem issued_unauthorised :
    ¬ ∀ (steps : List Step) (step : Step),
      ∀ pack ∈ ((System.initial.follow steps).after step).store.packs.rows, pack.status = .active →
        (∀ earlier ∈ (System.initial.follow steps).store.packs.rows,
          earlier.id = pack.id → earlier.status ≠ .active) →
        Earlier steps fun system step => system.Authorises step pack.processId pack.id := by
  intro authorised
  obtain ⟨issued, active, process, number, fresh⟩ := Sample.strayPack_issued
  have earlier := authorised Sample.strayIssue Sample.signed _ issued active fresh
  rw [process, number] at earlier
  obtain ⟨index, ⟨_, _, asked⟩, -, -, pack, drafted, named⟩ := earlier.exists_index
  have started := Sample.strayPack_not_started index
  rw [Sample.startsWith, asked, drafted] at started
  simp [named] at started

end Casework
