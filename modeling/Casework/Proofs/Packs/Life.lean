import Casework.Proofs.Chief.Sent

set_option autoImplicit false

namespace Casework

open Calendar
open Table (changeAt)
open Numbered (number)

inductive PackStatus.Precedes : PackStatus → PackStatus → Prop where
  | issued : Precedes .draft .active
  | abandoned : Precedes .draft .archived
  | replaced : Precedes .active .archived
  | revoked : Precedes .active .revoked

namespace Pack

inductive Next (pack : Pack) : Pack → Prop where
  | same : pack.Next pack
  | updated (draft : pack.status = .draft) (changes : LicenceUpdate) :
      pack.Next (pack.update changes)
  | issued (draft : pack.status = .draft) (reference : Option String) (now : Instant) :
      pack.Next (pack.issued reference now)
  | archived (ready : pack.status = .draft ∨ pack.status = .active) : pack.Next pack.archived
  | revoked (active : pack.status = .active) (reason : Option String) (emailSent : Bool) :
      pack.Next (pack.revoke reason emailSent)

/-- The packs are alike in all that is settled when a pack is issued. -/
structure Alike (pack other : Pack) : Prop where
  id : other.id = pack.id
  process : other.processId = pack.processId
  created : other.created = pack.created
  starts : other.startDate = pack.startDate
  ends : other.endDate = pack.endDate
  paperOnly : other.paperOnly = pack.paperOnly
  reference : other.caseReference = pack.caseReference
  completed : other.completed = pack.completed

def isIssued (pack : Pack) : Bool := pack.status != .draft && pack.completed.isSome

variable {pack other third : Pack}

theorem isIssued_iff :
    pack.isIssued = true ↔ pack.status ≠ .draft ∧ pack.completed.isSome = true := by
  simp [isIssued]

theorem Alike.refl (pack : Pack) : pack.Alike pack := by constructor <;> rfl

theorem Alike.trans (first : pack.Alike other) (second : other.Alike third) :
    pack.Alike third where
  id := second.id.trans first.id
  process := second.process.trans first.process
  created := second.created.trans first.created
  starts := second.starts.trans first.starts
  ends := second.ends.trans first.ends
  paperOnly := second.paperOnly.trans first.paperOnly
  reference := second.reference.trans first.reference
  completed := second.completed.trans first.completed

namespace Next

theorem id_eq (next : pack.Next other) : other.id = pack.id := by
  cases next <;> rfl

theorem process_eq (next : pack.Next other) : other.processId = pack.processId := by
  cases next <;> rfl

theorem status_cases (next : pack.Next other) :
    other.status = pack.status ∨ pack.status.Precedes other.status := by
  cases next with
  | same => exact .inl rfl
  | updated => exact .inl rfl
  | issued draft => exact .inr (draft ▸ .issued)
  | archived ready =>
    rcases ready with draft | active
    · exact .inr (draft ▸ .abandoned)
    · exact .inr (active ▸ .replaced)
  | revoked active => exact .inr (active ▸ .revoked)

theorem alike (next : pack.Next other) (settled : pack.status ≠ .draft) :
    pack.Alike other ∧ other.status ≠ .draft := by
  cases next with
  | same => exact ⟨.refl pack, settled⟩
  | updated draft => exact absurd draft settled
  | issued draft => exact absurd draft settled
  | archived => exact ⟨by constructor <;> rfl, by simp [Pack.archived]⟩
  | revoked => exact ⟨by constructor <;> rfl, by simp [Pack.revoke]⟩

theorem isIssued (next : pack.Next other) (issued : pack.isIssued = true) :
    other.isIssued = true := by
  obtain ⟨settled, completed⟩ := isIssued_iff.1 issued
  obtain ⟨alike, still⟩ := next.alike settled
  exact isIssued_iff.2 ⟨still, alike.completed ▸ completed⟩

theorem completed_of_active (next : pack.Next other)
    (dated : pack.status = .active → pack.completed.isSome = true)
    (active : other.status = .active) :
    other.completed.isSome = true := by
  cases next with
  | same => exact dated active
  | updated => exact dated active
  | issued => rfl
  | archived => cases active
  | revoked => cases active

end Next

end Pack

namespace CaseFile

variable {file after : CaseFile}

def Continues (file after : CaseFile) : Prop :=
  ∃ (change : Pack → Pack) (added : List Pack), after.packs = file.packs.map change ++ added ∧
    (∀ pack ∈ file.packs, pack.Next (change pack)) ∧ ∀ pack ∈ added, pack.status = .draft

theorem Continues.exists_next (goes_on : file.Continues after) {pack : Pack}
    (member : pack ∈ file.packs) : ∃ next ∈ after.packs, pack.Next next := by
  obtain ⟨change, added, packs, next, -⟩ := goes_on
  refine ⟨change pack, ?_, next pack member⟩
  rw [packs]
  exact List.mem_append_left _ (List.mem_map_of_mem member)

theorem Continues.draft_or_exists (goes_on : file.Continues after) {next : Pack}
    (member : next ∈ after.packs) :
    next.status = .draft ∨ ∃ pack ∈ file.packs, pack.Next next := by
  obtain ⟨change, added, packs, next_of, drafts⟩ := goes_on
  rw [packs, List.mem_append, List.mem_map] at member
  rcases member with ⟨pack, pack_mem, rfl⟩ | member
  · exact .inr ⟨pack, pack_mem, next_of pack pack_mem⟩
  · exact .inl (drafts next member)

theorem status_of_only {status : PackStatus} {pack : Pack}
    (only : file.packs.filter (Pack.isIn status) = [pack]) :
    pack ∈ file.packs ∧ pack.status = status := by
  obtain ⟨member, isIn⟩ := mem_of_only only
  exact ⟨member, beq_iff_eq.1 isIn⟩

theorem continues_same (same : after.packs = file.packs) : file.Continues after :=
  ⟨fun pack => pack, [], by simp [same], fun _ _ => .same, by simp⟩

theorem continues_change (ordered : file.Ordered) {pack : Pack} {change : Pack → Pack}
    (member : pack ∈ file.packs) (next : pack.Next (change pack))
    (packs : after.packs = (file.changePack pack.id change).packs) : file.Continues after := by
  refine ⟨fun row => if number row = pack.id then change row else row, [], ?_, ?_, by simp⟩
  · rw [packs, List.append_nil]
    rfl
  · intro row row_mem
    by_cases same : number row = pack.id
    · cases ordered.pack_eq row_mem member same
      simpa only [same, if_true] using next
    · simpa only [if_neg same] using .same

theorem continues_archive (ordered : file.Ordered) {draft : Pack}
    (only : file.packs.filter (Pack.isIn .draft) = [draft])
    (packs : after.packs = (file.changePack draft.id .archived).packs) : file.Continues after :=
  continues_change ordered (status_of_only only).1 (.archived (.inl (status_of_only only).2)) packs

theorem continues_update (ordered : file.Ordered) {draft : Pack} {changes : LicenceUpdate}
    (only : file.packs.filter (Pack.isIn .draft) = [draft])
    (packs : after.packs = (file.changePack draft.id (·.update changes)).packs) :
    file.Continues after :=
  continues_change ordered (status_of_only only).1 (.updated (status_of_only only).2 changes) packs

theorem continues_revoke (ordered : file.Ordered) {pack : Pack} {reason : Option String}
    {emailSent : Bool} (only : file.packs.filter (Pack.isIn .active) = [pack])
    (packs : after.packs = (file.changePack pack.id (·.revoke reason emailSent)).packs) :
    file.Continues after :=
  continues_change ordered (status_of_only only).1
    (.revoked (status_of_only only).2 reason emailSent) packs

def givesWay (draft earlier : Pack) (reference : Option String) (now : Instant) (row : Pack) :
    Pack :=
  if number row = earlier.id then row.archived
  else if number row = draft.id then row.issued reference now else row

theorem changeAt_givesWay {draft earlier : Pack} (apart : draft.id ≠ earlier.id)
    (reference : Option String) (now : Instant) (rows : List Pack) :
    changeAt draft.id (·.issued reference now) (changeAt earlier.id .archived rows) =
      rows.map (givesWay draft earlier reference now) := by
  rw [changeAt, changeAt, List.map_map]
  refine List.map_congr_left fun row _ => ?_
  by_cases first : number row = earlier.id
  · have kept : number row.archived ≠ draft.id := fun same => apart (same.symm.trans first)
    simp only [Function.comp, givesWay, if_pos first, if_neg kept]
  · simp only [Function.comp, givesWay, if_neg first]

theorem continues_issue (ordered : file.Ordered) {draft : Pack} {earlier : Option Pack}
    {reference : Option String} {now : Instant}
    (only : file.packs.filter (Pack.isIn .draft) = [draft])
    (before : file.packs.filter (Pack.isIn .active) = earlier.toList)
    (packs : after.packs = (file.issue draft earlier reference now).packs) :
    file.Continues after := by
  obtain ⟨drafted, isDraft⟩ := status_of_only only
  cases earlier with
  | none => exact continues_change ordered drafted (.issued isDraft reference now) packs
  | some earlier =>
    obtain ⟨member, isActive⟩ := status_of_only before
    have apart : draft.id ≠ earlier.id := fun same =>
      ne_of_status (by decide) (mem_of_only only).2 (mem_of_only before).2
        (ordered.pack_eq drafted member same)
    refine ⟨givesWay draft earlier reference now, [], ?_, fun row row_mem => ?_, by simp⟩
    · rw [packs, List.append_nil]
      exact changeAt_givesWay apart reference now file.packs
    · unfold givesWay
      split
      next first =>
        cases ordered.pack_eq row_mem member first
        exact .archived (.inr isActive)
      next =>
        split
        next second =>
          cases ordered.pack_eq row_mem drafted second
          exact .issued isDraft reference now
        next => exact .same

theorem continues_draft {new processId : Nat} {terms : LicenceUpdate} {now : Instant}
    (packs : after.packs = (file.addPack (.drafted new processId terms now)).packs) :
    file.Continues after := by
  refine ⟨fun pack => pack, [.drafted new processId terms now], ?_, fun _ _ => .same, ?_⟩
  · rw [packs, addPack_packs, List.map_id']
  · intro pack added
    rw [List.mem_singleton.1 added]
    rfl

end CaseFile

section Moves

open CaseFile

variable {context : Context} {id : Nat} {operation : Operation} {file after : CaseFile}

theorem Move.continues (ordered : file.Ordered) (move : Move context id operation file after) :
    file.Continues after := by
  cases move with
  | startLicence _ _ _ only => exact continues_update ordered only rfl
  | editLicence _ _ _ _ only => exact continues_update ordered only rfl
  | submit => exact continues_same (ensureTask_packs _ _)
  | refuseVariation _ _ _ _ _ only => exact continues_archive ordered only rfl
  | refuse _ _ _ _ _ only => exact continues_archive ordered only rfl
  | issueDocuments _ _ _ only before =>
    exact continues_issue ordered only before (finish_issue_packs file _ _ _ _ _ _ _)
  | acceptWithdrawal _ _ _ only => exact continues_archive ordered only rfl
  | rejectWithdrawal => exact continues_same (ensureTask_packs _ _)
  | stop _ _ only => exact continues_archive ordered only rfl
  | reopen => exact continues_draft rfl
  | revoke _ _ only => exact continues_revoke ordered only rfl
  | revokeAtChief _ _ only => exact continues_revoke ordered only rfl
  | requestVariation => exact continues_draft rfl
  | approveLicence _ only before =>
    exact continues_issue ordered only before
      ((answer_packs _ _).trans (finish_issue_packs file _ _ _ _ _ _ _))
  | approveRevocation => exact continues_same (answer_packs _ _)
  | rejectLicence => exact continues_same (answer_packs _ _)
  | _ => exact continues_same rfl

theorem Move.documents_cases (move : Move context id operation file after) (packId : Nat) :
    after.documents.filter (·.packId == packId) = file.documents.filter (·.packId == packId) ∨
      ∃ caseType user draft, operation = .startAuthorisation caseType id user ∧
        file.application.currentDecision = some .approve ∧
        file.packs.filter (Pack.isIn .draft) = [draft] ∧ draft.id = packId := by
  cases move with
  | submit => exact .inl (by rw [put_documents, ensureTask_documents, finish_documents])
  | @approve _ caseType user _ _ draft documents _ _ _ decided _ only _ _ own =>
    by_cases mine : draft.id = packId
    · exact .inr ⟨caseType, user, draft, rfl, decided, only, mine⟩
    · have others : documents.filter (·.packId == packId) = [] := by
        refine List.filter_eq_nil_iff.2 fun document added same => mine ?_
        rw [← own document added, beq_iff_eq.1 same]
      have kept : ∀ document : Document,
          (document.packId == packId && document.packId != draft.id) =
            (document.packId == packId) := by
        intro document
        by_cases same : document.packId = packId
        · simp [same, Ne.symm mine]
        · simp [same]
      left
      simp only [put_documents, redocument, List.filter_append, others, List.append_nil,
        List.filter_filter, kept]
      rfl
  | issueDocuments => exact .inl (by rw [put_documents, issue_documents, finish_documents])
  | rejectWithdrawal => exact .inl (by rw [put_documents, ensureTask_documents])
  | approveLicence =>
    exact .inl (by rw [put_documents, answer_documents, issue_documents, finish_documents])
  | approveRevocation => exact .inl (by rw [put_documents, answer_documents, finish_documents])
  | rejectLicence => exact .inl (by rw [answer_documents]; rfl)
  | _ => exact .inl rfl

theorem Move.documents_eq (ordered : file.Ordered) (move : Move context id operation file after)
    {pack : Pack} (member : pack ∈ file.packs) (settled : pack.status ≠ .draft) :
    after.documents.filter (·.packId == pack.id) =
      file.documents.filter (·.packId == pack.id) := by
  rcases move.documents_cases pack.id with same | ⟨_, _, draft, -, -, only, mine⟩
  · exact same
  · obtain ⟨drafted, isDraft⟩ := status_of_only only
    cases ordered.pack_eq drafted member mine
    exact absurd isDraft settled

theorem Move.of_inProgress (move : Move context id operation file after)
    (new : after.application.status = .inProgress) :
    file.application.status = .inProgress ∧ after.packs = file.packs := by
  have never : ∀ {status : CaseStatus}, status ∈ openStates → status ≠ .inProgress :=
    fun stage => (not_givenUp_of_open stage).2.1
  have working : ∀ {status : CaseStatus}, status ∈ processingStates → status ≠ .inProgress :=
    fun stage => (not_givenUp_of_processing stage).2.1
  cases move with
  | edit edit =>
    refine ⟨?_, rfl⟩
    rcases edit.status_cases with same | ⟨-, stage⟩
    · exact same.symm.trans new
    · exact absurd new (never stage)
  | startLicence _ current =>
    simp only [put_application, Application.taken] at new
    split at new
    next => cases new
    next =>
      have stage := current.status
      simp [new] at stage
  | submit =>
    simp only [put_application, Application.afterSubmission] at new
    split at new
    next => cases new
    next => split at new <;> cases new
  | approve =>
    simp only [put_application, Application.authorising] at new
    split at new
    next varied => rw [varied] at new; cases new
    next => cases new
  | acceptWithdrawal =>
    simp only [put_application, Application.withdraw] at new
    split at new <;> cases new
  | requestVariation _ _ opened =>
    subst opened
    cases new
  | editLicence _ _ current => exact absurd new (working current.status)
  | authoriseDocuments _ current | sendDocuments _ current | failSigning _ current
  | retrySigning _ current | addUpdateRequest _ current | withdrawUpdateRequest _ current =>
    exact absurd new (working current.status)
  | revertLicence current => exact absurd new (working current.status)
  | rejectWithdrawal _ stage => exact absurd new (never stage)
  | approveRevocation current =>
    have stage := current.status
    rw [put_application] at new
    simp [new] at stage
  | rejectLicence current =>
    have stage := current.status
    rw [answer_application, addTask_application, finish_application] at new
    simp [new, awaitedReply] at stage
  | resendLicence current =>
    have stage := current.status
    rw [send_application, finish_application] at new
    simp [new, processingStates] at stage
  | _ => cases new

theorem Move.processing_of_starts {caseType : CaseType} {user : User}
    (move : Move context id (.startAuthorisation caseType id user) file after) :
    file.application.status ∈ processingStates := by
  cases move with
  | edit edit => cases edit
  | refuseVariation _ current => exact current.status
  | refuse _ current => exact current.status
  | approve _ current => exact current.status

end Moves

namespace CaseFile

structure PacksDated (file : CaseFile) : Prop where
  active : ∀ pack ∈ file.packs, pack.status = .active → pack.completed.isSome = true
  new : file.application.status = .inProgress → ∀ pack ∈ file.packs, pack.status = .draft

theorem PacksDated.move {file after : CaseFile} (dated : file.PacksDated) (ordered : file.Ordered)
    {context : Context} {id : Nat} {operation : Operation}
    (move : Move context id operation file after) : after.PacksDated := by
  constructor
  · intro pack member active
    rcases (move.continues ordered).draft_or_exists member with draft | ⟨was, was_mem, next⟩
    · rw [draft] at active
      cases active
    · exact next.completed_of_active (dated.active was was_mem) active
  · intro new
    obtain ⟨was_new, packs⟩ := move.of_inProgress new
    rw [packs]
    exact dated.new was_new

theorem packs_dated (steps : List Step) {id : Nat} {file : CaseFile}
    (found : (System.initial.follow steps).store.fileOf id = some file) : file.PacksDated := by
  refine file_invariant (fun _ _ file => file.PacksDated) ?_ ?_ ?_ steps found
  · intro _ _ _ _ _ _
    constructor
    · intro pack member active
      rw [List.mem_singleton.1 member] at active
      cases active
    · intro _ pack member
      rw [List.mem_singleton.1 member]
      rfl
  · exact fun _ _ _ _ dated => dated
  · exact fun _ _ _ _ _ moves dated => dated.move moves.ordered moves.move

end CaseFile

namespace Store

variable {store : Store}

theorem Sound.exists_owner (sound : store.Sound) {pack : Pack} (stored : pack ∈ store.packs.rows) :
    ∃ file, store.fileOf pack.processId = some file ∧ pack ∈ file.packs := by
  have owned := (sound.packs pack stored).2
  rw [← fileOf_isSome_iff] at owned
  obtain ⟨file, found⟩ := Option.isSome_iff_exists.1 owned
  exact ⟨file, found, (mem_packs_iff found).2 ⟨stored, rfl⟩⟩

theorem mem_issuedPacks_iff {processId : Nat} {pack : Pack} :
    pack ∈ store.issuedPacks processId ↔
      pack ∈ store.packs.rows ∧ pack.processId = processId ∧ pack.isIssued = true := by
  rw [issuedPacks, List.mem_mergeSort, List.mem_filter, packsOf, List.mem_filter, beq_iff_eq,
    and_assoc]
  rfl

/-- The later store still lists the pack as issued, alike and with the same documents. -/
structure Retains (store later : Store) (pack : Pack) : Prop where
  listed : ∃ kept ∈ later.issuedPacks pack.processId, pack.Alike kept
  documents : later.documentsOf pack.id = store.documentsOf pack.id

theorem Retains.refl {pack : Pack} (stored : pack ∈ store.packs.rows)
    (issued : pack.isIssued = true) : store.Retains store pack :=
  ⟨⟨pack, mem_issuedPacks_iff.2 ⟨stored, rfl, issued⟩, .refl pack⟩, rfl⟩

theorem Retains.trans {later last : Store} {pack : Pack} (first : store.Retains later pack)
    (second : ∀ kept ∈ later.packs.rows, kept.isIssued = true → later.Retains last kept) :
    store.Retains last pack := by
  obtain ⟨⟨kept, listed, alike⟩, documents⟩ := first
  obtain ⟨stored, -, issued⟩ := mem_issuedPacks_iff.1 listed
  obtain ⟨⟨final, final_listed, final_alike⟩, final_documents⟩ := second kept stored issued
  rw [alike.process] at final_listed
  rw [alike.id] at final_documents
  exact ⟨⟨final, final_listed, alike.trans final_alike⟩, final_documents.trans documents⟩

end Store

namespace System

theorem removed_by_cancel {system : System} {step : Step} {id : Nat} {file : CaseFile}
    (sound : system.store.Sound) (found : system.store.fileOf id = some file)
    (gone : (system.after step).store.fileOf id = none) :
    system.Takes step ∧ file.application.status = .inProgress ∧
      ∃ caseType, step.operation = .cancel caseType id := by
  rcases after_cases sound step with ⟨-, same⟩ | ⟨takes, changes⟩
  · rw [same, found] at gone
    cases gone
  · have change := changes.files id
    rw [found, gone] at change
    cases change with
    | removed named kind current =>
      exact ⟨takes, List.mem_singleton.1 current.status, _, named⟩

def Cancels (system : System) (step : Step) (id : Nat) : Prop :=
  system.Takes step ∧ (∃ caseType, step.operation = .cancel caseType id) ∧
    (∃ application, system.store.applications.find? id = some application ∧
      application.status = .inProgress) ∧
    (system.after step).store.applications.contains id = false

theorem cancels_of_gone {system : System} {step : Step} {id : Nat} {file : CaseFile}
    (sound : system.store.Sound) (found : system.store.fileOf id = some file)
    (gone : (system.after step).store.fileOf id = none) : system.Cancels step id := by
  obtain ⟨takes, new, named⟩ := removed_by_cancel sound found gone
  rw [← Option.isNone_iff_eq_none, ← Option.not_isSome, Store.fileOf_isSome_iff] at gone
  exact ⟨takes, named, ⟨_, (Store.fileOf_eq_some_iff.1 found).1, new⟩, by simpa using gone⟩

/-- What a step makes of the packs: those that are stored keep their status or move on, unless
their case is cancelled while it is new, and what is added is a draft. -/
structure MovesPacks (system : System) (step : Step) : Prop where
  kept : ∀ pack ∈ system.store.packs.rows, system.Cancels step pack.processId ∨
    ∃ next ∈ (system.after step).store.packs.rows, next.id = pack.id ∧
      (next.status = pack.status ∨ pack.status.Precedes next.status)
  added : ∀ next ∈ (system.after step).store.packs.rows, next.status = .draft ∨
    ∃ pack ∈ system.store.packs.rows, pack.id = next.id

variable (steps : List Step) (step : Step) {pack : Pack}

theorem pack_after (stored : pack ∈ (initial.follow steps).store.packs.rows) :
    (initial.follow steps).Cancels step pack.processId ∨
      ∃ next ∈ ((initial.follow steps).after step).store.packs.rows, pack.Next next ∧
        (pack.status ≠ .draft → ((initial.follow steps).after step).store.documentsOf pack.id =
          (initial.follow steps).store.documentsOf pack.id) := by
  have sound := sound_follow steps
  obtain ⟨file, found, member⟩ := sound.exists_owner stored
  rcases case_after sound step found with same | ⟨-, gone⟩ | ⟨after, moves⟩
  · refine .inr ⟨pack, ((Store.mem_packs_iff same).1 member).1, .same, fun _ => ?_⟩
    rw [Store.documentsOf_eq same member, Store.documentsOf_eq found member]
  · exact .inl (cancels_of_gone sound found gone)
  · obtain ⟨next, next_mem, next_of⟩ :=
      (moves.move.continues moves.ordered).exists_next member
    refine .inr ⟨next, ((Store.mem_packs_iff moves.becomes).1 next_mem).1, next_of,
      fun settled => ?_⟩
    rw [← next_of.id_eq, Store.documentsOf_eq moves.becomes next_mem, next_of.id_eq,
      moves.move.documents_eq moves.ordered member settled, Store.documentsOf_eq found member]

theorem pack_before {next : Pack}
    (stored : next ∈ ((initial.follow steps).after step).store.packs.rows) :
    next.status = .draft ∨ ∃ pack ∈ (initial.follow steps).store.packs.rows, pack.id = next.id := by
  have sound := sound_follow steps
  obtain ⟨file, found, member⟩ := (sound_after sound step).exists_owner stored
  rcases case_before sound step found with
    same | ⟨_, _, _, _, -, -, -, rfl⟩ | ⟨before, moves⟩
  · exact .inr ⟨next, ((Store.mem_packs_iff same).1 member).1, rfl⟩
  · exact .inl (by rw [List.mem_singleton.1 member]; rfl)
  · rcases (moves.move.continues moves.ordered).draft_or_exists member with
      draft | ⟨pack, pack_mem, next_of⟩
    · exact .inl draft
    · exact .inr ⟨pack, ((Store.mem_packs_iff moves.found).1 pack_mem).1, next_of.id_eq.symm⟩

theorem movesPacks : (initial.follow steps).MovesPacks step where
  kept pack stored := by
    rcases pack_after steps step stored with cancelled | ⟨next, next_mem, next_of, -⟩
    · exact .inl cancelled
    · exact .inr ⟨next, next_mem, next_of.id_eq, next_of.status_cases⟩
  added _ stored := pack_before steps step stored

theorem retains_after (stored : pack ∈ (initial.follow steps).store.packs.rows)
    (issued : pack.isIssued = true) :
    (initial.follow steps).store.Retains ((initial.follow steps).after step).store pack := by
  obtain ⟨settled, -⟩ := Pack.isIssued_iff.1 issued
  rcases pack_after steps step stored with ⟨-, -, ⟨_, looked, new⟩, -⟩ | ⟨next, kept, goes_on, rest⟩
  -- A case that can be cancelled has issued nothing.
  · obtain ⟨file, found, rfl⟩ := Store.exists_fileOf looked
    have member := (Store.mem_packs_iff found).2 ⟨stored, rfl⟩
    exact absurd ((CaseFile.packs_dated steps found).new new pack member) settled
  · obtain ⟨alike, -⟩ := goes_on.alike settled
    have listed := Store.mem_issuedPacks_iff.2 ⟨kept, alike.process, goes_on.isIssued issued⟩
    exact ⟨⟨next, listed, alike⟩,
      rest settled⟩

theorem retains_follow (later : List Step)
    (stored : pack ∈ (initial.follow steps).store.packs.rows) (issued : pack.isIssued = true) :
    (initial.follow steps).store.Retains (initial.follow (steps ++ later)).store pack := by
  induction later using List.reverseRecOn with
  | nil =>
    rw [List.append_nil]
    exact .refl stored issued
  | append_singleton later step ih =>
    rw [← List.append_assoc, follow_append]
    exact ih.trans fun _ => retains_after (steps ++ later) step

theorem isIssued_of_active (stored : pack ∈ (initial.follow steps).store.packs.rows)
    (active : pack.status = .active) : pack.isIssued = true := by
  obtain ⟨file, found, member⟩ := (sound_follow steps).exists_owner stored
  refine Pack.isIssued_iff.2 ⟨?_, (CaseFile.packs_dated steps found).active pack member active⟩
  rw [active]
  decide

end System

/-- Once a pack is in force it stays among the issued packs of its case, with all that was issued,
whatever is done later. The status of a pack only ever moves on. -/
theorem issued_for_good (steps : List Step) :
    (∀ pack ∈ (System.initial.follow steps).store.packs.rows, pack.status = .active →
      ∀ later, (System.initial.follow steps).store.Retains
        (System.initial.follow (steps ++ later)).store pack) ∧
      ∀ step, (System.initial.follow steps).MovesPacks step := by
  refine ⟨fun pack stored active later => ?_, System.movesPacks steps⟩
  exact System.retains_follow steps later stored (System.isIssued_of_active steps stored active)

namespace Sample

def issue : List Operation :=
  [.authoriseDocuments .exporting 1 user, .documentsSigned .exporting 1]

def issued : List Step := (certificate ++ issue).map (step false)

def replaced : List Step :=
  let varied : List Operation :=
    [.requestVariation .exporting 1 user "new address", .takeOwnership .exporting 1 user]
  let revoked : List Operation := [.revoke .exporting 1 ⟨some "withdrawn from sale", true⟩]
  (varied ++ approval .exporting ++ issue ++ revoked).map (step false)

theorem issued_active :
    ∃ pack ∈ (System.initial.follow issued).store.packs.rows, pack.status = .active ∧
      ((System.initial.follow issued).store.documentsOf pack.id).map (·.country) =
        [some "France"] ∧
      (System.initial.follow (issued ++ replaced)).store.packs.rows.map (·.status) =
        [.archived, .revoked] := by
  decide +kernel

end Sample

theorem certificate_retained :
    ∃ pack ∈ (System.initial.follow Sample.issued).store.packs.rows, pack.status = .active ∧
      ((System.initial.follow Sample.issued).store.documentsOf pack.id).map (·.country) =
        [some "France"] ∧
      (System.initial.follow (Sample.issued ++ Sample.replaced)).store.packs.rows.map (·.status) =
        [.archived, .revoked] ∧
      (System.initial.follow Sample.issued).store.Retains
        (System.initial.follow (Sample.issued ++ Sample.replaced)).store pack := by
  obtain ⟨pack, stored, active, country, statuses⟩ := Sample.issued_active
  have retained := (issued_for_good Sample.issued).1 pack stored active Sample.replaced
  exact ⟨pack, stored, active, country, statuses, retained⟩

end Casework
