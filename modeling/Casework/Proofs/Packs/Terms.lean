import Casework.Proofs.Case.Particulars
import Casework.Proofs.Packs.Authorised

set_option autoImplicit false

namespace Casework

open Calendar
open Table (changeAt)
open Numbered (number)

def Pack.licence (pack : Pack) : LicenceUpdate := ⟨pack.startDate, pack.endDate, pack.paperOnly⟩

namespace LicenceUpdate

variable {terms changes : LicenceUpdate}

structure Valid (terms : LicenceUpdate) : Prop where
  inOrder : ∀ start finish, terms.startDate = some start → terms.endDate = some finish →
    start < finish
  -- The start is never looked at again when it is set, so nothing may end without one.
  started : terms.endDate.isSome = true → terms.startDate.isSome = true

structure Complete (terms : LicenceUpdate) (licensing : LicensingTerms) : Prop where
  starts : terms.startDate.isSome = true
  ends : terms.endDate.isSome = true
  medium : ∃ paperOnly, terms.paperOnly = some paperOnly ∧ licensing.supports paperOnly = true

theorem valid_of_endless (endless : terms.endDate = none) : terms.Valid := by
  refine ⟨fun _ _ _ ends => ?_, fun ends => ?_⟩
  · rw [endless] at ends
    cases ends
  · rw [endless] at ends
    cases ends

theorem datesInOrder_iff {start finish : Option Date} :
    Work.datesInOrder start finish = true ↔
      ∀ first last, start = some first → finish = some last → first < last := by
  cases start <;> cases finish <;> simp [Work.datesInOrder]

end LicenceUpdate

namespace Pack

variable {pack : Pack} {changes : LicenceUpdate}

theorem update_started (started : pack.startDate.isSome = true) :
    (pack.update changes).startDate.isSome = true := by
  rw [Pack.update, Option.isSome_or, started, Bool.or_true]

theorem update_valid (started : pack.startDate.isSome = true)
    (ordered : Work.datesInOrder (pack.update changes).startDate
      (pack.update changes).endDate = true) :
    (pack.update changes).licence.Valid :=
  ⟨LicenceUpdate.datesInOrder_iff.1 ordered, fun _ => update_started started⟩

theorem update_complete {licensing : LicensingTerms} (complete : pack.licence.Complete licensing)
    (supported : (changes.paperOnly.map licensing.supports).getD true = true) :
    (pack.update changes).licence.Complete licensing := by
  refine ⟨update_started complete.starts, ?_, ?_⟩
  · have ends : pack.endDate.isSome = true := complete.ends
    simp only [licence, Pack.update, Option.isSome_or, ends, Bool.or_true]
  · cases chosen : changes.paperOnly with
    | none => simpa [licence, Pack.update, chosen] using complete.medium
    | some paperOnly =>
      rw [chosen] at supported
      exact ⟨paperOnly, by simp [licence, Pack.update, chosen], supported⟩

end Pack

namespace CaseFile

inductive Source (file : CaseFile) : Pack → Prop where
  | kept {pack next : Pack} (member : pack ∈ file.packs) (same : next.licence = pack.licence)
      (completed : next.completed = pack.completed)
      (draft : next.status = .draft → pack.status = .draft) : Source file next
  | issued {pack : Pack} {reference : Option String} {now : Instant} (member : pack ∈ file.packs)
      (draft : pack.status = .draft) (issuing : file.Issuing) :
      Source file (pack.issued reference now)
  | begun {pack : Pack} (date : Date) (member : pack ∈ file.packs)
      (draft : pack.status = .draft) (unset : pack.startDate = none) :
      Source file (pack.update ⟨some date, none, none⟩)
  | edited {pack : Pack} {changes : LicenceUpdate} (member : pack ∈ file.packs)
      (draft : pack.status = .draft) (stage : file.application.status ∈ processingStates)
      (supported : (changes.paperOnly.map file.application.terms.supports).getD true = true)
      (ordered : Work.datesInOrder (pack.update changes).startDate
        (pack.update changes).endDate = true) :
      Source file (pack.update changes)
  | first {new processId : Nat} {paperOnly : Option Bool} {now : Instant}
      (stage : file.application.status ∈ [CaseStatus.stopped, .withdrawn]) :
      Source file (.drafted new processId ⟨none, none, paperOnly⟩ now)
  | copied {pack : Pack} {new processId : Nat} {now : Instant} (member : pack ∈ file.packs)
      (active : pack.status = .active) : Source file (.drafted new processId pack.licence now)

variable {file after : CaseFile}

theorem Source.same {pack : Pack} (member : pack ∈ file.packs) : file.Source pack :=
  .kept member rfl rfl fun draft => draft

theorem Source.of_same (packs : after.packs = file.packs) :
    ∀ next ∈ after.packs, file.Source next :=
  fun _ member => .same (packs ▸ member)

theorem Source.of_change {id : Nat} {change : Pack → Pack}
    (packs : after.packs = (file.changePack id change).packs)
    (changed : ∀ pack ∈ file.packs, pack.id = id → file.Source (change pack)) :
    ∀ next ∈ after.packs, file.Source next := by
  intro next member
  rw [packs] at member
  obtain ⟨pack, pack_mem, rfl⟩ := Table.mem_changeAt.1 member
  split
  next picked => exact changed pack pack_mem picked
  next => exact .same pack_mem

theorem Source.of_archive {id : Nat} (packs : after.packs = (file.changePack id .archived).packs) :
    ∀ next ∈ after.packs, file.Source next :=
  .of_change packs fun _ member _ => .kept member rfl rfl fun draft => by cases draft

theorem Source.of_revoke {id : Nat} {reason : Option String} {emailSent : Bool}
    (packs : after.packs = (file.changePack id (·.revoke reason emailSent)).packs) :
    ∀ next ∈ after.packs, file.Source next :=
  .of_change packs fun _ member _ => .kept member rfl rfl fun draft => by cases draft

theorem Source.of_draft {pack : Pack} (packs : after.packs = (file.addPack pack).packs)
    (added : file.Source pack) : ∀ next ∈ after.packs, file.Source next := by
  intro next member
  rw [packs, addPack_packs, List.mem_append, List.mem_singleton] at member
  rcases member with member | rfl
  · exact .same member
  · exact added

theorem Source.of_issue (ordered : file.Ordered) {draft : Pack} {earlier : Option Pack}
    {reference : Option String} {now : Instant}
    (only : file.packs.filter (Pack.isIn .draft) = [draft])
    (issuing : file.Issuing)
    (packs : after.packs = (file.issue draft earlier reference now).packs) :
    ∀ next ∈ after.packs, file.Source next := by
  obtain ⟨drafted, isDraft⟩ := status_of_only only
  have changed : ∀ pack ∈ file.packs, pack.id = draft.id →
      file.Source (pack.issued reference now) := by
    intro pack member same
    cases ordered.pack_eq member drafted same
    exact .issued drafted isDraft issuing
  cases earlier with
  | none => exact .of_change packs changed
  | some earlier =>
    intro next member
    rw [packs] at member
    obtain ⟨between, between_mem, rfl⟩ := Table.mem_changeAt.1 member
    obtain ⟨pack, pack_mem, rfl⟩ := Table.mem_changeAt.1 between_mem
    split
    next =>
      split
      next picked => exact changed pack pack_mem picked
      next => exact .kept pack_mem rfl rfl fun draft => by cases draft
    next =>
      split
      next picked => exact changed pack pack_mem picked
      next => exact .same pack_mem

end CaseFile

section Moves

open CaseFile

variable {context : Context} {id : Nat} {operation : Operation} {file after : CaseFile}

theorem Move.source (ordered : file.Ordered) (imported : file.application.isImport = true)
    (move : Move context id operation file after) : ∀ next ∈ after.packs, file.Source next := by
  cases move with
  | @startLicence _ _ _ _ draft _ _ _ only unset =>
    obtain ⟨drafted, isDraft⟩ := status_of_only only
    refine .of_change rfl fun pack member same => ?_
    cases ordered.pack_eq member drafted same
    exact .begun context.now.date drafted isDraft unset
  | @editLicence _ _ _ _ draft _ _ current supported only dated =>
    obtain ⟨drafted, isDraft⟩ := status_of_only only
    refine .of_change rfl fun pack member same => ?_
    cases ordered.pack_eq member drafted same
    exact .edited drafted isDraft current.status supported dated
  | submit => exact .of_same (ensureTask_packs _ _)
  | refuseVariation => exact .of_archive rfl
  | refuse => exact .of_archive rfl
  | issueDocuments _ current _ only =>
    exact .of_issue ordered only (current.issuing rfl) (finish_issue_packs file _ _ _ _ _ _ _)
  | acceptWithdrawal => exact .of_archive rfl
  | rejectWithdrawal => exact .of_same (ensureTask_packs _ _)
  | stop => exact .of_archive rfl
  | reopen _ stage =>
    refine .of_draft rfl ?_
    rw [Application.firstTerms, if_pos imported]
    exact .first stage
  | revoke => exact .of_revoke rfl
  | revokeAtChief => exact .of_revoke rfl
  | requestVariation _ _ opened _ initial =>
    rw [VariationTerms, if_pos ((congrArg Application.isImport opened).trans imported)] at initial
    obtain ⟨pack, only, rfl⟩ := initial
    obtain ⟨member, active⟩ := status_of_only only
    exact .of_draft rfl (.copied member active)
  | approveLicence current only =>
    exact .of_issue ordered only (current.issuing rfl)
      ((answer_packs _ _).trans (finish_issue_packs file _ _ _ _ _ _ _))
  | approveRevocation => exact .of_same (answer_packs _ _)
  | rejectLicence => exact .of_same (answer_packs _ _)
  | _ => exact .of_same rfl

theorem Edit.enters_processing {application : Application}
    (edit : Edit context id operation file application)
    (working : application.status ∈ processingStates) :
    file.application.status ∈ processingStates ∨
      ∃ caseType user, operation = .takeOwnership caseType id user := by
  cases edit with
  | takeOwnership => exact .inr ⟨_, _, rfl⟩
  | releaseOwnership =>
    left
    simp only [Application.released] at working
    split at working
    next varied => simp [varied, processingStates]
    next => simp [processingStates] at working
  | decision =>
    left
    unfold Application.withDecision at working
    split at working <;> exact working
  | _ => exact .inl working

theorem Move.enters_processing (facts : file.FactsFit)
    (move : Move context id operation file after)
    (working : after.application.status ∈ processingStates) :
    file.application.status ∈ processingStates ∨ file.application.status = .completed ∨
      ∃ caseType user, operation = .takeOwnership caseType id user := by
  cases move with
  | edit edit => exact (edit.enters_processing working).imp_right .inr
  | startLicence => exact .inr (.inr ⟨_, _, rfl⟩)
  | submit _ editing =>
    have stage := editing.status_mem
    simp only [List.mem_cons, List.not_mem_nil, or_false] at stage
    have waits : file.application.owner = none →
        file.application.status ≠ .variationRequested →
          file.application.status ∈ processingStates := by
      intro unowned unvaried
      simp [Application.afterSubmission, unowned, unvaried, processingStates] at working
    rcases stage with stage | stage | stage | stage
    · exact .inl (waits (facts.new stage).1.owner (by simp [stage]))
    · exact .inl (waits (facts.owner.untaken stage) (by simp [stage]))
    · exact .inl (by simp [stage, processingStates])
    · exact .inl (by simp [stage, processingStates])
  | refuseVariation _ current | refuse _ current | approve _ current
  | issueDocuments _ current => exact .inl current.status
  | approveLicence current => exact .inl current.status
  | acceptWithdrawal =>
    simp only [put_application, Application.withdraw] at working
    split at working <;> simp [processingStates] at working
  | stop => simp [processingStates] at working
  | reopen => simp [processingStates] at working
  | revoke => simp [processingStates] at working
  | revokeAtChief => simp [processingStates] at working
  | requestVariation _ stage => exact .inr (.inl stage)
  | rejectLicence =>
    rw [answer_application] at working
    exact .inl working
  | _ => exact .inl working

theorem Move.taken_started {caseType : CaseType} {user : User}
    (imported : file.application.isImport = true)
    (move : Move context id (.takeOwnership caseType id user) file after) :
    ∀ next ∈ after.packs, next.status = .draft → next.startDate.isSome = true := by
  cases move with
  | edit edit =>
    cases edit with
    | takeOwnership _ _ started =>
      intro next member draft
      obtain ⟨only, picked, starts⟩ := started imported
      have listed : next ∈ file.packs.filter (Pack.isIn .draft) :=
        List.mem_filter.2 ⟨member, beq_iff_eq.2 draft⟩
      rw [picked, List.mem_singleton] at listed
      rw [listed]
      exact starts
  | @startLicence _ _ _ _ draft _ _ _ picked =>
    intro next member isDraft
    obtain ⟨pack, pack_mem, rfl⟩ := Table.mem_changeAt.1 member
    split
    next => rfl
    next other =>
      rw [if_neg other] at isDraft
      have listed : pack ∈ file.packs.filter (Pack.isIn .draft) :=
        List.mem_filter.2 ⟨pack_mem, beq_iff_eq.2 isDraft⟩
      rw [picked, List.mem_singleton] at listed
      exact absurd (congrArg Pack.id listed) other

theorem Move.authorised_complete {caseType : CaseType} {user : User}
    (imported : file.application.isImport = true)
    (move : Move context id (.startAuthorisation caseType id user) file after)
    (working : after.application.status.hasDraft = true) :
    ∀ next ∈ after.packs, next.status = .draft →
      next.licence.Complete file.application.terms := by
  cases move with
  | edit edit => cases edit
  | refuseVariation => simp [Application.rejectVariation, CaseStatus.hasDraft] at working
  | refuse => simp [CaseStatus.hasDraft] at working
  | approve _ _ _ _ only terms =>
    intro next member draft
    have listed : next ∈ file.packs.filter (Pack.isIn .draft) :=
      List.mem_filter.2 ⟨member, beq_iff_eq.2 draft⟩
    rw [only, List.mem_singleton] at listed
    obtain ⟨starts, ends, medium⟩ := terms imported
    rw [listed]
    exact ⟨starts, ends, medium⟩

end Moves

namespace CaseFile

-- The dates of every pack of a licence are in order, its draft has a start while a caseworker is on
-- it, and nothing is missing from what has been issued or is on its way.
structure TermsFit (file : CaseFile) : Prop where
  valid : ∀ pack ∈ file.packs, pack.licence.Valid
  begun : file.application.status ∈ processingStates →
    ∀ pack ∈ file.packs, pack.status = .draft → pack.startDate.isSome = true
  issued : ∀ pack ∈ file.packs, pack.completed.isSome = true →
    pack.licence.Complete file.application.terms
  authorised : file.Issuing → ∀ pack ∈ file.packs, pack.status = .draft →
    pack.licence.Complete file.application.terms

variable {file : CaseFile}

theorem not_draft_of_idle (packs : file.PacksFit)
    (idle : file.application.status.hasDraft = false) {pack : Pack} (member : pack ∈ file.packs) :
    pack.status ≠ .draft := by
  intro draft
  have working := packs.hasDraft ⟨pack, member, rfl, beq_iff_eq.2 draft⟩
  rw [idle] at working
  cases working

theorem unset_of_incomplete {pack : Pack} {licensing : LicensingTerms}
    (complete : pack.licence.Complete licensing) (unset : pack.startDate = none) : False := by
  have starts : pack.startDate.isSome = true := complete.starts
  rw [unset] at starts
  cases starts

namespace TermsFit

theorem valid_source (fit : file.TermsFit) {next : Pack} (source : file.Source next) :
    next.licence.Valid := by
  cases source with
  | kept member same => exact same ▸ fit.valid _ member
  | @issued pack _ _ member => exact fit.valid pack member
  -- A draft without a start has no end either.
  | @begun pack date member draft unset =>
    refine LicenceUpdate.valid_of_endless ?_
    cases ends : pack.endDate with
    | none => simp [Pack.licence, Pack.update, ends]
    | some last =>
      have starts := (fit.valid pack member).started (Option.isSome_iff_exists.2 ⟨last, ends⟩)
      rw [Pack.licence, unset] at starts
      cases starts
  | edited member draft stage _ ordered =>
    exact Pack.update_valid (fit.begun stage _ member draft) ordered
  | first => exact LicenceUpdate.valid_of_endless rfl
  | @copied pack _ _ _ member => exact fit.valid pack member

theorem issued_source (fit : file.TermsFit) {next : Pack} (source : file.Source next)
    (completed : next.completed.isSome = true) :
    next.licence.Complete file.application.terms := by
  cases source with
  | kept member same kept => exact same ▸ fit.issued _ member (kept ▸ completed)
  | @issued pack _ _ member draft issuing => exact fit.authorised issuing pack member draft
  | begun _ member _ unset => exact (unset_of_incomplete (fit.issued _ member completed) unset).elim
  | edited member _ _ supported =>
    exact Pack.update_complete (fit.issued _ member completed) supported
  | first => cases completed
  | copied => cases completed

-- While documents are on their way nothing that they need goes missing from the draft.
theorem issuing_source (fit : file.TermsFit) (dated : file.PacksDated) (tasks : file.TasksFit)
    (issuing : file.Issuing) {next : Pack} (source : file.Source next)
    (draft : next.status = .draft) : next.licence.Complete file.application.terms := by
  cases source with
  | kept member same _ was => exact same ▸ fit.authorised issuing _ member (was draft)
  | issued => cases draft
  | begun _ member was unset =>
    exact (unset_of_incomplete (fit.authorised issuing _ member was) unset).elim
  | edited member was _ supported =>
    exact Pack.update_complete (fit.authorised issuing _ member was) supported
  | first stage =>
    obtain ⟨taskType, -, held⟩ := issuing
    exact absurd (tasks.givenUp (isGivenUp_of_reopenable stage) taskType) held
  | @copied pack _ _ _ member active =>
    exact fit.issued pack member (dated.active pack member active)

theorem begun_source (fit : file.TermsFit) (packs : file.PacksFit) (dated : file.PacksDated)
    (working : file.application.status ∈ processingStates ∨
      file.application.status = .completed)
    {next : Pack} (source : file.Source next) (draft : next.status = .draft) :
    next.startDate.isSome = true := by
  cases source with
  | kept member same _ was =>
    have starts : next.startDate = _ := congrArg LicenceUpdate.startDate same
    rcases working with stage | complete
    · exact starts ▸ fit.begun stage _ member (was draft)
    · exact absurd (was draft) (not_draft_of_idle packs (by rw [complete]; rfl) member)
  | issued => cases draft
  | begun => rfl
  | edited member was stage => exact Pack.update_started (fit.begun stage _ member was)
  | first stage =>
    simp only [List.mem_cons, List.not_mem_nil, or_false] at stage
    rcases stage with stage | stage <;> simp [stage, processingStates] at working
  | @copied pack _ _ _ member active =>
    exact (fit.issued pack member (dated.active pack member active)).starts

theorem move (fit : file.TermsFit) (imported : file.application.isImport = true)
    (packs : file.PacksFit) (dated : file.PacksDated) (tasks : file.TasksFit)
    (facts : file.FactsFit) (ordered : file.Ordered) {context : Context} {id : Nat}
    {operation : Operation} {after : CaseFile} (move : Move context id operation file after) :
    after.TermsFit := by
  have source := move.source ordered imported
  have kind : after.application.terms = file.application.terms :=
    congrArg ProcessType.terms move.processType_eq
  refine ⟨fun next member => fit.valid_source (source next member), fun working => ?_,
    fun next member completed => ?_, fun issuing next member draft => ?_⟩
  · rcases move.enters_processing facts working with stage | complete | ⟨_, _, rfl⟩
    · exact fun next member => fit.begun_source packs dated (.inl stage) (source next member)
    · exact fun next member => fit.begun_source packs dated (.inr complete) (source next member)
    · exact move.taken_started imported
  · rw [kind]
    exact fit.issued_source (source next member) completed
  · rw [kind]
    have drafts : after.HasPack .draft next.id := ⟨next, member, rfl, beq_iff_eq.2 draft⟩
    have still := (packs.move ordered move).hasDraft drafts
    cases Origin.of_move packs tasks ordered move issuing drafts with
    | underway _ underway =>
      exact fit.issuing_source dated tasks underway (source next member) draft
    | authorised => exact move.authorised_complete imported still next member draft
    | varied underway => exact fit.issuing_source dated tasks underway (source next member) draft

theorem started (application : Application) (task pack : Nat) (now : Instant)
    (new : application.status = .inProgress) :
    (CaseFile.started application task pack now).TermsFit := by
  have only : ∀ next ∈ (CaseFile.started application task pack now).packs,
      next = .drafted pack application.id application.firstTerms now :=
    fun _ member => List.mem_singleton.1 member
  refine ⟨fun next member => ?_, fun working => ?_, fun next member completed => ?_,
    fun issuing => ?_⟩
  · rw [only next member]
    refine LicenceUpdate.valid_of_endless ?_
    simp only [Pack.licence, Pack.drafted, Application.firstTerms]
    split <;> rfl
  · rw [CaseFile.started, new] at working
    simp [processingStates] at working
  · rw [only next member] at completed
    cases completed
  · obtain ⟨taskType, leads, held⟩ := issuing
    rw [load_started, if_neg (ne_of_isIssuing leads rfl).symm] at held
    exact absurd rfl held

end TermsFit

theorem terms_fit (steps : List Step) {id : Nat} {file : CaseFile}
    (found : (System.initial.follow steps).store.fileOf id = some file)
    (imported : file.application.isImport = true) : file.TermsFit := by
  refine file_invariant (fun _ _ file => file.application.isImport = true → file.TermsFit)
    ?_ ?_ ?_ steps found imported
  · exact fun _ _ _ _ _ _ _ => .started _ _ _ _ rfl
  · exact fun _ _ _ _ fit => fit
  · intro steps step id before after moves fit imported
    rw [Application.isImport_congr moves.move.processType_eq] at imported
    exact (fit imported).move imported (packs_fit steps moves.found)
      (packs_dated steps moves.found) (tasks_fit steps moves.found) (facts_fit steps moves.found)
      moves.ordered moves.move

end CaseFile

/-- The terms of import licences are always valid: a licence starts before it ends, as far as both
dates are known, and one that was ever issued has both and comes in a form its type can have. -/
theorem licence_terms {system : System} (reached : Reachable system) {application : Application}
    (stored : application ∈ system.store.applications.rows)
    (imported : application.isImport = true) {pack : Pack}
    (listed : pack ∈ system.store.packsOf application.id) :
    (∀ start finish, pack.startDate = some start → pack.endDate = some finish → start < finish) ∧
    (pack.completed.isSome = true →
      pack.startDate.isSome = true ∧ pack.endDate.isSome = true ∧
        ∃ paperOnly, pack.paperOnly = some paperOnly ∧
          application.terms.supports paperOnly = true) := by
  obtain ⟨steps, rfl⟩ := reachable_iff.1 reached
  obtain ⟨file, found, rfl⟩ := Store.exists_fileOf (Table.find?_eq_some_iff.2 ⟨stored, rfl⟩)
  have fit := CaseFile.terms_fit steps found imported
  have member : pack ∈ file.packs := (Store.fileOf_eq_some_iff.1 found).2.2.1 ▸ listed
  refine ⟨(fit.valid pack member).inOrder, fun completed => ?_⟩
  obtain ⟨starts, ends, medium⟩ := fit.issued pack member completed
  exact ⟨starts, ends, medium⟩

namespace Sample

def onPaper : List Step :=
  let taken : List Operation :=
    [.create user ⟨.wood, user, "Acme Ltd", none, none, some (.wood ⟨some 2024, some "4403"⟩)⟩,
      .submit .importing 1 user,
      .takeOwnership .importing 1 user,
      .editLicence .importing 1 ⟨none, some ⟨2024, 11, 30, by decide⟩, none⟩]
  let issued : List Operation :=
    [.authoriseDocuments .importing 1 user, .documentsSigned .importing 1]
  let varied : List Operation := [.requestVariation .importing 1 user "new address"]
  (taken ++ approval .importing ++ issued ++ varied).map (step false)

theorem onPaper_stored :
    ∃ application ∈ (System.initial.follow onPaper).store.applications.rows,
      application.isImport = true ∧
      ∃ active ∈ (System.initial.follow onPaper).store.packsOf application.id,
        active.completed.isSome = true ∧
      ∃ draft ∈ (System.initial.follow onPaper).store.packsOf application.id,
        draft.status = .draft ∧ draft.startDate = some ⟨2024, 2, 1, by decide⟩ ∧
          draft.endDate = some ⟨2024, 11, 30, by decide⟩ := by
  decide +kernel

end Sample

theorem onPaper_terms :
    ∃ application ∈ (System.initial.follow Sample.onPaper).store.applications.rows,
      ∃ active ∈ (System.initial.follow Sample.onPaper).store.packsOf application.id,
        (∃ paperOnly, active.paperOnly = some paperOnly ∧
          application.terms.supports paperOnly = true) ∧
      ∃ draft ∈ (System.initial.follow Sample.onPaper).store.packsOf application.id,
        ∃ start finish, draft.startDate = some start ∧ draft.endDate = some finish ∧
          start < finish := by
  obtain ⟨application, stored, imported, active, active_mem, completed, draft, draft_mem, -,
    starts, ends⟩ := Sample.onPaper_stored
  have reached : Reachable (System.initial.follow Sample.onPaper) :=
    reachable_iff.2 ⟨Sample.onPaper, rfl⟩
  obtain ⟨-, issued⟩ := licence_terms reached stored imported active_mem
  obtain ⟨-, -, medium⟩ := issued completed
  obtain ⟨inOrder, -⟩ := licence_terms reached stored imported draft_mem
  exact ⟨application, stored, active, active_mem, medium, draft, draft_mem, _, _, starts, ends,
    inOrder _ _ starts ends⟩

end Casework
