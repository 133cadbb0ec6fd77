import Casework.Proofs.CaseFile.Counts
import Casework.Proofs.CaseFile.Run

set_option autoImplicit false

namespace Casework

open Calendar
open Table (changeAt)
open Numbered (number)

def CaseStatus.hasDraft : CaseStatus → Bool
  | .inProgress | .submitted | .processing | .variationRequested => true
  | .completed | .withdrawn | .stopped | .revoked => false

namespace CaseFile

structure PacksFit (file : CaseFile) : Prop where
  draft : file.packCount .draft = if file.application.status.hasDraft then 1 else 0
  active : file.packCount .active ≤ 1
  revoked : file.packCount .revoked = if file.application.status = .revoked then 1 else 0

variable {file : CaseFile}

theorem Ordered.changePack (ordered : file.Ordered) (id : Nat) {change : Pack → Pack}
    (same : ∀ pack, (change pack).id = pack.id) : (file.changePack id change).Ordered := by
  refine ⟨ordered.tasks, ?_, ordered.requests⟩
  have kept : ∀ pack : Pack, number (if number pack = id then change pack else pack) =
      number pack := by
    intro pack
    split
    · exact same pack
    · rfl
  simp only [changePack_packs, changeAt, List.pairwise_map, kept]
  exact ordered.packs

theorem ne_of_status {first second : PackStatus} (apart : first ≠ second) {pack other : Pack}
    (isFirst : pack.isIn first = true) (isSecond : other.isIn second = true) : pack ≠ other := by
  rintro rfl
  simp only [Pack.isIn, beq_iff_eq] at isFirst isSecond
  exact apart (isFirst.symm.trans isSecond)

theorem Ordered.pack_eq (ordered : file.Ordered) {pack other : Pack} (member : pack ∈ file.packs)
    (other_mem : other ∈ file.packs) (same : pack.id = other.id) : pack = other :=
  let table : Table Pack := ⟨file.packs, ordered.packs⟩
  table.eq_of_number_eq member other_mem same

theorem packCount_restatus (ordered : file.Ordered) {pack : Pack} (member : pack ∈ file.packs)
    {first second : PackStatus} (was : pack.isIn first = true) (change : Pack → Pack)
    (becomes : (change pack).status = second) (status : PackStatus) :
    (file.changePack pack.id change).packCount status + (if first = status then 1 else 0) =
      file.packCount status + if second = status then 1 else 0 := by
  have counted := packCount_changePack ordered member change status
  have held : pack.status = first := by simpa [Pack.isIn] using was
  simpa only [Pack.isIn, held, becomes, beq_iff_eq] using counted

theorem draft_kept (ordered : file.Ordered) {draft earlier : Pack}
    (only : file.packs.filter (Pack.isIn .draft) = [draft])
    (before : file.packs.filter (Pack.isIn .active) = [earlier]) :
    draft ∈ (file.changePack earlier.id .archived).packs := by
  obtain ⟨drafted, isDraft⟩ := mem_of_only only
  obtain ⟨member, isActive⟩ := mem_of_only before
  have apart : number draft ≠ earlier.id := fun same =>
    ne_of_status (by decide) isDraft isActive (ordered.pack_eq drafted member same)
  exact Table.mem_changeAt.2 ⟨draft, drafted, if_neg apart⟩

theorem issued_mem (ordered : file.Ordered) {draft : Pack} {earlier : Option Pack}
    (only : file.packs.filter (Pack.isIn .draft) = [draft])
    (before : file.packs.filter (Pack.isIn .active) = earlier.toList) (reference : Option String)
    (now : Instant) :
    draft.issued reference now ∈ (file.issue draft earlier reference now).packs := by
  cases earlier with
  | none => exact Table.mem_changeAt.2 ⟨draft, (mem_of_only only).1, if_pos rfl⟩
  | some earlier => exact Table.mem_changeAt.2 ⟨draft, draft_kept ordered only before, if_pos rfl⟩

theorem packCount_issue (ordered : file.Ordered) {draft : Pack} {earlier : Option Pack}
    (only : file.packs.filter (Pack.isIn .draft) = [draft])
    (before : file.packs.filter (Pack.isIn .active) = earlier.toList) (reference : Option String)
    (now : Instant) :
    (file.issue draft earlier reference now).packCount .draft = 0 ∧
      (file.issue draft earlier reference now).packCount .active = 1 ∧
      (file.issue draft earlier reference now).packCount .revoked = file.packCount .revoked := by
  obtain ⟨drafted, isDraft⟩ := mem_of_only only
  have drafts := packCount_of_only only
  have issued : (draft.issued reference now).status = .active := rfl
  cases earlier with
  | none =>
    have actives : file.packCount .active = 0 := by
      rw [packCount_eq_length, before]
      rfl
    have moved := packCount_restatus ordered drafted isDraft (·.issued reference now) issued
    have first := moved .draft
    have second := moved .active
    have third := moved .revoked
    simp only [reduceCtorEq, if_pos, if_false] at first second third
    simp only [issue]
    omega
  | some pack =>
    obtain ⟨member, isActive⟩ := mem_of_only before
    have actives := packCount_of_only before
    -- The pack in force is archived first, so the draft is counted in the file that leaves.
    have kept := draft_kept ordered only before
    have put_away : pack.archived.status = .archived := rfl
    have archived := packCount_restatus ordered member isActive _ put_away
    have reordered : (file.changePack pack.id .archived).Ordered :=
      ordered.changePack pack.id fun _ => rfl
    have moved := packCount_restatus reordered kept isDraft (·.issued reference now) issued
    have draft_archived := archived .draft
    have active_archived := archived .active
    have revoked_archived := archived .revoked
    have draft_moved := moved .draft
    have active_moved := moved .active
    have revoked_moved := moved .revoked
    simp only [reduceCtorEq, if_pos, if_false] at draft_archived active_archived revoked_archived
    simp only [reduceCtorEq, if_pos, if_false] at draft_moved active_moved revoked_moved
    simp only [issue]
    omega

theorem active_of_issue (ordered : file.Ordered) {draft : Pack} {earlier : Option Pack}
    (only : file.packs.filter (Pack.isIn .draft) = [draft])
    (before : file.packs.filter (Pack.isIn .active) = earlier.toList) (reference : Option String)
    (now : Instant) :
    (file.issue draft earlier reference now).packs.filter (Pack.isIn .active) =
      [draft.issued reference now] := by
  obtain ⟨-, counted, -⟩ := packCount_issue ordered only before reference now
  rw [packCount_eq_length] at counted
  obtain ⟨pack, found⟩ := List.length_eq_one_iff.1 counted
  have member : draft.issued reference now ∈
      (file.issue draft earlier reference now).packs.filter (Pack.isIn .active) :=
    List.mem_filter.2 ⟨issued_mem ordered only before reference now, rfl⟩
  rw [found, List.mem_singleton] at member
  rw [found, member]

theorem packCount_update (ordered : file.Ordered) {pack : Pack} (member : pack ∈ file.packs)
    (changes : LicenceUpdate) (status : PackStatus) :
    (file.changePack pack.id (·.update changes)).packCount status = file.packCount status := by
  have counted := packCount_changePack ordered member (·.update changes) status
  have same : (pack.update changes).isIn status = pack.isIn status := rfl
  rw [same] at counted
  omega

theorem ne_revoked_of_hasDraft {status : CaseStatus} (working : status.hasDraft = true) :
    status ≠ .revoked := by
  rintro rfl
  cases working

theorem hasDraft_of_open {status : CaseStatus} (stage : status ∈ openStates) :
    status.hasDraft = true := by
  simp only [openStates, List.mem_cons, List.not_mem_nil, or_false] at stage
  rcases stage with rfl | rfl | rfl <;> rfl

theorem hasDraft_of_processing {status : CaseStatus} (stage : status ∈ processingStates) :
    status.hasDraft = true := hasDraft_of_open (List.mem_cons_of_mem _ stage)

theorem hasDraft_of_untaken {status : CaseStatus}
    (stage : status ∈ [CaseStatus.submitted, .variationRequested]) : status.hasDraft = true := by
  simp only [List.mem_cons, List.not_mem_nil, or_false] at stage
  rcases stage with rfl | rfl <;> rfl

theorem hasDraft_of_editing (editing : file.Editing) :
    file.application.status.hasDraft = true := by
  have stage := editing.status_mem
  simp only [List.mem_cons, List.not_mem_nil, or_false] at stage
  rcases stage with stage | stage | stage | stage <;> rw [stage] <;> rfl

theorem PacksFit.exists_draft (fit : file.PacksFit)
    (working : file.application.status.hasDraft = true) :
    ∃ draft, file.packs.filter (Pack.isIn .draft) = [draft] := by
  have counted := fit.draft
  rw [working, if_pos rfl, packCount_eq_length] at counted
  exact List.length_eq_one_iff.1 counted

namespace PacksFit

theorem archive (fit : file.PacksFit) (ordered : file.Ordered) {draft : Pack}
    (only : file.packs.filter (Pack.isIn .draft) = [draft]) {after : CaseFile}
    (packs : after.packs = (file.changePack draft.id .archived).packs)
    (idle : after.application.status.hasDraft = false)
    (standing : after.application.status ≠ .revoked)
    (working : file.application.status.hasDraft = true) : after.PacksFit := by
  obtain ⟨drafted, isDraft⟩ := mem_of_only only
  have drafts := packCount_of_only only
  have put_away : draft.archived.status = .archived := rfl
  have archived := packCount_restatus ordered drafted isDraft _ put_away
  have first := archived .draft
  have second := archived .active
  have third := archived .revoked
  have active := fit.active
  have revoked := fit.revoked
  simp only [reduceCtorEq, if_pos, if_false] at first second third
  rw [if_neg (ne_revoked_of_hasDraft working)] at revoked
  constructor
  · rw [packCount_congr packs, idle, if_neg Bool.false_ne_true]
    omega
  · rw [packCount_congr packs]
    omega
  · rw [packCount_congr packs, if_neg standing]
    omega

theorem issue (fit : file.PacksFit) (ordered : file.Ordered) {draft : Pack} {earlier : Option Pack}
    (only : file.packs.filter (Pack.isIn .draft) = [draft])
    (found : file.packs.filter (Pack.isIn .active) = earlier.toList) (reference : Option String)
    (now : Instant) {after : CaseFile}
    (packs : after.packs = (file.issue draft earlier reference now).packs)
    (complete : after.application.status = .completed)
    (working : file.application.status.hasDraft = true) : after.PacksFit := by
  obtain ⟨drafts, actives, revoked⟩ := packCount_issue ordered only found reference now
  have was := fit.revoked
  rw [if_neg (ne_revoked_of_hasDraft working)] at was
  constructor
  · rw [packCount_congr packs, complete, drafts]
    rfl
  · rw [packCount_congr packs]
    exact Nat.le_of_eq actives
  · rw [packCount_congr packs, complete, revoked, was]
    rfl

theorem carry (fit : file.PacksFit) {after : CaseFile}
    (counts : ∀ status, after.packCount status = file.packCount status)
    (drafting : after.application.status.hasDraft = file.application.status.hasDraft)
    (revoked : after.application.status = .revoked ↔ file.application.status = .revoked) :
    after.PacksFit := by
  constructor
  · rw [counts, drafting, fit.draft]
  · rw [counts]
    exact fit.active
  · rw [counts, fit.revoked]
    exact if_congr revoked.symm rfl rfl

theorem carry_working (fit : file.PacksFit) {after : CaseFile}
    (counts : ∀ status, after.packCount status = file.packCount status)
    (before : file.application.status.hasDraft = true)
    (still : after.application.status.hasDraft = true) : after.PacksFit :=
  fit.carry counts (still.trans before.symm)
    (iff_of_false (ne_revoked_of_hasDraft still) (ne_revoked_of_hasDraft before))

theorem reopen (fit : file.PacksFit) {new id : Nat} {terms : LicenceUpdate} {now : Instant}
    {after : CaseFile} (packs : after.packs = (file.addPack (.drafted new id terms now)).packs)
    (idle : file.application.status.hasDraft = false)
    (working : after.application.status.hasDraft = true)
    (before : file.application.status ≠ .revoked) : after.PacksFit := by
  have drafts := fit.draft
  have revoked := fit.revoked
  rw [idle, if_neg Bool.false_ne_true] at drafts
  rw [if_neg before] at revoked
  have standing : after.application.status ≠ .revoked := by
    intro same
    rw [same] at working
    cases working
  constructor
  · rw [packCount_congr packs, packCount_addPack, drafts, working]
    rfl
  · rw [packCount_congr packs, packCount_addPack]
    exact fit.active
  · rw [packCount_congr packs, packCount_addPack, revoked, if_neg standing]
    rfl

theorem started (application : Application) (task pack : Nat) (now : Instant)
    (new : application.status = .inProgress) :
    (CaseFile.started application task pack now).PacksFit := by
  have draft : Pack.isIn .draft (.drafted pack application.id application.firstTerms now) = true :=
    rfl
  have others : ∀ status, status ≠ .draft →
      Pack.isIn status (.drafted pack application.id application.firstTerms now) = false := by
    intro status apart
    simpa [Pack.isIn, Pack.drafted] using Ne.symm apart
  constructor <;>
    simp [packCount, CaseFile.started, new, CaseStatus.hasDraft, draft, others]

end PacksFit

theorem PacksFit.edit (fit : file.PacksFit) {context : Context} {id : Nat} {operation : Operation}
    {application : Application} (edit : Edit context id operation file application) :
    (file.put application).PacksFit := by
  rcases edit.status_cases with same | ⟨before, stage⟩
  · exact fit.carry (fun _ => rfl) (congrArg _ same) (by rw [put_application, same])
  · exact fit.carry_working (fun _ => rfl) (hasDraft_of_open before) (hasDraft_of_open stage)

theorem PacksFit.revoke (fit : file.PacksFit) (ordered : file.Ordered) {pack : Pack}
    (only : file.packs.filter (Pack.isIn .active) = [pack]) {reason : Option String}
    {emailSent : Bool} {after : CaseFile}
    (packs : after.packs = (file.changePack pack.id (·.revoke reason emailSent)).packs)
    (complete : file.application.status = .completed)
    (revoked : after.application.status = .revoked) : after.PacksFit := by
  obtain ⟨member, isActive⟩ := mem_of_only only
  have actives := packCount_of_only only
  have becomes : (pack.revoke reason emailSent).status = .revoked := rfl
  have moved := packCount_restatus ordered member isActive (·.revoke reason emailSent) becomes
  have draft_moved := moved .draft
  have active_moved := moved .active
  have revoked_moved := moved .revoked
  have drafts := fit.draft
  have none_revoked := fit.revoked
  simp only [reduceCtorEq, if_pos, if_false] at draft_moved active_moved revoked_moved
  simp only [complete, CaseStatus.hasDraft, Bool.false_eq_true, if_false] at drafts
  simp only [complete, reduceCtorEq, if_false] at none_revoked
  constructor
  · rw [packCount_congr packs, revoked]
    simp only [CaseStatus.hasDraft, Bool.false_eq_true, if_false]
    omega
  · rw [packCount_congr packs]
    omega
  · rw [packCount_congr packs, revoked, if_pos rfl]
    omega

theorem PacksFit.move (fit : file.PacksFit) (ordered : file.Ordered) {context : Context} {id : Nat}
    {operation : Operation} {after : CaseFile} (move : Move context id operation file after) :
    after.PacksFit := by
  cases move with
  | edit edit => exact fit.edit edit
  | startLicence _ current _ only =>
    have stage := hasDraft_of_untaken current.status
    refine fit.carry_working (packCount_update ordered (mem_of_only only).1 _) stage ?_
    simp only [put_application, Application.taken]
    split
    · rfl
    · exact stage
  | editLicence _ _ _ _ only =>
    exact fit.carry (packCount_update ordered (mem_of_only only).1 _) rfl .rfl
  -- An applicant who is editing has a draft already, at whatever stage.
  | submit _ editing =>
    refine fit.carry_working (packCount_congr (ensureTask_packs _ _))
      (hasDraft_of_editing editing) ?_
    simp only [put_application, Application.afterSubmission]
    split
    · rfl
    · split <;> rfl
  -- A refusal closes the case, and its draft goes with it.
  | refuseVariation _ current _ _ _ only =>
    exact fit.archive ordered only rfl rfl (by simp [Application.rejectVariation])
      (hasDraft_of_processing current.status)
  | refuse _ current _ _ _ only =>
    exact fit.archive ordered only rfl rfl (by simp) (hasDraft_of_processing current.status)
  | approve _ current =>
    refine fit.carry_working (fun _ => rfl) (hasDraft_of_processing current.status) ?_
    simp only [put_application, Application.authorising]
    split
    next varied =>
      rw [varied]
      rfl
    next => rfl
  | authoriseDocuments => exact fit.carry (fun _ => rfl) rfl .rfl
  | sendDocuments => exact fit.carry (fun _ => rfl) rfl .rfl
  | issueDocuments _ current _ only before =>
    refine fit.issue ordered only before file.application.reference context.now ?_ rfl
      (hasDraft_of_processing current.status)
    rw [put_packs, finish_issue_packs]
  | failSigning => exact fit.carry (fun _ => rfl) rfl .rfl
  | retrySigning => exact fit.carry (fun _ => rfl) rfl .rfl
  | @acceptWithdrawal _ _ user answer _ _ stage _ only =>
    -- Of a variation only the variation is withdrawn, and the case is complete again.
    have ended : ∀ status : CaseStatus, status = .completed ∨ status = .withdrawn →
        status.hasDraft = false ∧ status ≠ .revoked := by
      rintro _ (rfl | rfl) <;> decide
    have either : ((file.application.answerWithdrawal user .accepted answer).withdraw
        context.now).status = .completed ∨ ((file.application.answerWithdrawal user .accepted
          answer).withdraw context.now).status = .withdrawn := by
      unfold Application.withdraw
      split
      · exact .inl rfl
      · exact .inr rfl
    exact fit.archive ordered only rfl (ended _ either).1 (ended _ either).2
      (hasDraft_of_open stage)
  | rejectWithdrawal => exact fit.carry (packCount_congr (ensureTask_packs _ _)) rfl .rfl
  | stop _ current only =>
    exact fit.archive ordered only rfl rfl (by simp) (hasDraft_of_open current.status)
  | reopen _ stage =>
    simp only [List.mem_cons, List.not_mem_nil, or_false] at stage
    refine fit.reopen rfl ?_ rfl ?_ <;> rcases stage with stage | stage <;> rw [stage]
    · rfl
    · rfl
    · simp
    · simp
  | revoke _ stage only => exact fit.revoke ordered only rfl stage rfl
  | revokeAtChief _ stage only => exact fit.revoke ordered only rfl stage rfl
  | requestVariation _ stage opened =>
    subst opened
    refine fit.reopen rfl ?_ rfl ?_ <;> rw [stage]
    · rfl
    · simp
  | addUpdateRequest => exact fit.carry (fun _ => rfl) rfl .rfl
  | withdrawUpdateRequest => exact fit.carry (fun _ => rfl) rfl .rfl
  | approveLicence current only before =>
    refine fit.issue ordered only before file.application.reference context.now ?_ rfl
      (hasDraft_of_processing current.status)
    rw [put_packs, answer_packs, finish_issue_packs]
  | approveRevocation => exact fit.carry (packCount_congr (answer_packs _ _)) rfl .rfl
  | rejectLicence =>
    exact fit.carry (packCount_congr (answer_packs _ _)) (by rw [answer_application]; rfl)
      (by rw [answer_application]; rfl)
  | resendLicence => exact fit.carry (fun _ => rfl) rfl .rfl
  | revertLicence => exact fit.carry (fun _ => rfl) rfl .rfl

theorem packs_fit (steps : List Step) {id : Nat} {file : CaseFile}
    (found : (System.initial.follow steps).store.fileOf id = some file) : file.PacksFit := by
  refine file_invariant (fun _ _ file => file.PacksFit) ?_ ?_ ?_ steps found
  · exact fun _ step _ _ _ _ => .started _ _ _ _ rfl
  · exact fun _ _ _ _ fit => fit
  · exact fun _ _ _ _ _ moves fit => fit.move moves.ordered moves.move

end CaseFile

end Casework
