import Casework.Proofs.Packs.Invariant
import Casework.Proofs.Tasks.Invariant

set_option autoImplicit false

namespace Casework

open Calendar

def TaskType.isAtChief : TaskType → Bool
  | .chiefWait | .chiefRevokeWait | .chiefError => true
  | .prepare | .process | .changeRequest | .authorise | .documentError | .documentSigning
  | .rejected => false

theorem TaskType.ne_of_isAtChief {taskType other : TaskType} (away : taskType.isAtChief = true)
    (here : other.isAtChief = false) : other ≠ taskType := by
  rintro rfl
  rw [away] at here
  cases here

theorem Application.goesToChief_congr {first second : Application}
    (same : first.processType = second.processType) : first.goesToChief = second.goesToChief := by
  unfold Application.goesToChief Application.isImport Application.caseType Application.terms
  rw [same]

theorem Application.isImport_congr {first second : Application}
    (same : first.processType = second.processType) : first.isImport = second.isImport := by
  unfold Application.isImport Application.caseType
  rw [same]

section Moves

open CaseFile

variable {context : Context} {id : Nat} {operation : Operation} {file after : CaseFile}

theorem Move.processType_eq (move : Move context id operation file after) :
    after.application.processType = file.application.processType := by
  cases move with
  | edit edit => exact edit.processType_eq
  | submit => rfl
  | acceptWithdrawal =>
    simp only [put_application, Application.withdraw]
    split <;> rfl
  | requestVariation _ _ opened =>
    subst opened
    rfl
  | rejectLicence => rw [answer_application]; rfl
  | _ => rfl

theorem Move.reference_cases (move : Move context id operation file after) :
    after.application.reference.isSome = true ∨
      (after.application.reference = file.application.reference ∧
        (file.application.status = .inProgress → after.application.status = .inProgress)) := by
  cases move with
  | edit edit =>
    refine .inr ⟨edit.reference_eq, fun new => ?_⟩
    rcases edit.status_cases with same | ⟨before, -⟩
    · exact same.trans new
    · exact absurd new (not_givenUp_of_open before).2.1
  | startLicence _ current =>
    refine .inr ⟨rfl, fun new => ?_⟩
    have stage := current.status
    simp [new] at stage
  | submit => exact .inl rfl
  | refuseVariation _ current =>
    exact .inr ⟨rfl, fun new => absurd new (not_givenUp_of_processing current.status).2.1⟩
  | refuse _ current =>
    exact .inr ⟨rfl, fun new => absurd new (not_givenUp_of_processing current.status).2.1⟩
  | approve _ current =>
    exact .inr ⟨rfl, fun new => absurd new (not_givenUp_of_processing current.status).2.1⟩
  | issueDocuments _ current =>
    exact .inr ⟨rfl, fun new => absurd new (not_givenUp_of_processing current.status).2.1⟩
  | acceptWithdrawal _ stage =>
    refine .inr ⟨?_, fun new => absurd new (not_givenUp_of_open stage).2.1⟩
    simp only [put_application, Application.withdraw]
    split <;> rfl
  | stop _ current =>
    exact .inr ⟨rfl, fun new => absurd new (not_givenUp_of_open current.status).2.1⟩
  | reopen _ stage =>
    refine .inr ⟨rfl, fun new => ?_⟩
    simp [new] at stage
  | revoke _ stage =>
    refine .inr ⟨rfl, fun new => ?_⟩
    simp [new] at stage
  | revokeAtChief _ stage =>
    refine .inr ⟨rfl, fun new => ?_⟩
    simp [new] at stage
  | requestVariation => exact .inl rfl
  | approveLicence current =>
    exact .inr ⟨rfl, fun new => absurd new (not_givenUp_of_processing current.status).2.1⟩
  | rejectLicence => exact .inr (by rw [answer_application]; exact ⟨rfl, fun new => new⟩)
  | _ => exact .inr ⟨rfl, fun new => new⟩

theorem Move.atChief (ordered : file.Ordered) (move : Move context id operation file after)
    {taskType : TaskType} (away : taskType.isAtChief = true) (held : after.load taskType ≠ 0) :
    file.application.goesToChief = true ∨
      ∃ other : TaskType, other.isAtChief = true ∧ file.load other ≠ 0 := by
  cases move with
  | submit _ _ _ only =>
    have unlike : TaskType.process ≠ taskType := TaskType.ne_of_isAtChief away rfl
    refine .inr ⟨taskType, away, fun none_open => held ?_⟩
    simp [load_finish ordered only, none_open, unlike]
  | refuseVariation _ current =>
    refine .inr ⟨taskType, away, fun none_open => held ?_⟩
    simp [load_finish ordered current.only, none_open]
  | refuse _ current =>
    have unlike : TaskType.rejected ≠ taskType := TaskType.ne_of_isAtChief away rfl
    refine .inr ⟨taskType, away, fun none_open => held ?_⟩
    simp [load_finish ordered current.only, none_open, unlike]
  | approve _ current =>
    have unlike : TaskType.authorise ≠ taskType := TaskType.ne_of_isAtChief away rfl
    refine .inr ⟨taskType, away, fun none_open => held ?_⟩
    simp [load_finish ordered current.only, none_open, unlike]
  | authoriseDocuments _ current =>
    have unlike : TaskType.documentSigning ≠ taskType := TaskType.ne_of_isAtChief away rfl
    refine .inr ⟨taskType, away, fun none_open => held ?_⟩
    simp [load_finish ordered current.only, none_open, unlike]
  | sendDocuments _ _ sent => exact .inl sent
  | issueDocuments _ current =>
    refine .inr ⟨taskType, away, fun none_open => held ?_⟩
    simp [load_finish ordered current.only, none_open]
  | failSigning _ current =>
    have unlike : TaskType.documentError ≠ taskType := TaskType.ne_of_isAtChief away rfl
    refine .inr ⟨taskType, away, fun none_open => held ?_⟩
    simp [load_finish ordered current.only, none_open, unlike]
  | retrySigning _ current =>
    have unlike : TaskType.documentSigning ≠ taskType := TaskType.ne_of_isAtChief away rfl
    refine .inr ⟨taskType, away, fun none_open => held ?_⟩
    simp [load_finish ordered current.only, none_open, unlike]
  | acceptWithdrawal => exact absurd (by simp) held
  | rejectWithdrawal =>
    have unlike : TaskType.process ≠ taskType := TaskType.ne_of_isAtChief away rfl
    refine .inr ⟨taskType, away, fun none_open => held ?_⟩
    simp [none_open, unlike]
  | stop => exact absurd (by simp) held
  | reopen =>
    have unlike : TaskType.process ≠ taskType := TaskType.ne_of_isAtChief away rfl
    refine .inr ⟨taskType, away, fun none_open => held ?_⟩
    simp [none_open, unlike]
  | revokeAtChief _ _ _ sent => exact .inl sent
  | requestVariation =>
    have unlike : TaskType.process ≠ taskType := TaskType.ne_of_isAtChief away rfl
    refine .inr ⟨taskType, away, fun none_open => held ?_⟩
    simp [none_open, unlike]
  | addUpdateRequest =>
    have unlike : TaskType.prepare ≠ taskType := TaskType.ne_of_isAtChief away rfl
    refine .inr ⟨taskType, away, fun none_open => held ?_⟩
    simp [none_open, unlike]
  | withdrawUpdateRequest _ _ _ _ only =>
    refine .inr ⟨taskType, away, fun none_open => held ?_⟩
    simp [load_finish ordered only, none_open]
  | approveLicence current =>
    refine .inr ⟨taskType, away, fun none_open => held ?_⟩
    simp [load_finish ordered current.only, none_open]
  | approveRevocation current =>
    refine .inr ⟨taskType, away, fun none_open => held ?_⟩
    simp [load_finish ordered current.only, none_open]
  | rejectLicence current =>
    refine .inr ⟨_, ?_, current.held⟩
    unfold awaitedReply
    split <;> rfl
  | resendLicence current =>
    exact .inr ⟨_, rfl, current.held⟩
  | revertLicence current =>
    have unlike : TaskType.process ≠ taskType := TaskType.ne_of_isAtChief away rfl
    refine .inr ⟨taskType, away, fun none_open => held ?_⟩
    simp [load_finish ordered current.only, none_open, unlike]
  | _ => exact .inr ⟨taskType, away, held⟩

end Moves

namespace CaseFile

variable {file : CaseFile}

theorem goes (steps : List Step) {id : Nat} {file : CaseFile}
    (found : (System.initial.follow steps).store.fileOf id = some file) {taskType : TaskType}
    (away : taskType.isAtChief = true) (held : file.load taskType ≠ 0) :
    file.application.goesToChief = true := by
  refine file_invariant (fun _ _ file => ∀ taskType : TaskType, taskType.isAtChief = true →
    file.load taskType ≠ 0 → file.application.goesToChief = true) ?_ ?_ ?_
    steps found taskType away held
  · intro _ _ _ _ _ _ taskType away held
    rw [load_started, if_neg (TaskType.ne_of_isAtChief away rfl).symm] at held
    exact absurd rfl held
  · exact fun _ _ _ _ goes => goes
  · intro _ _ _ before after moves goes taskType away held
    rw [Application.goesToChief_congr moves.move.processType_eq]
    rcases moves.move.atChief moves.ordered away held with
      sent | ⟨other, elsewhere, open_task⟩
    · exact sent
    · exact goes other elsewhere open_task

theorem named (steps : List Step) {id : Nat} {file : CaseFile}
    (found : (System.initial.follow steps).store.fileOf id = some file)
    (old : file.application.status ≠ .inProgress) : file.application.reference.isSome = true := by
  refine file_invariant (fun _ _ file => file.application.status ≠ .inProgress →
    file.application.reference.isSome = true) ?_ ?_ ?_ steps found old
  · exact fun _ _ _ _ _ _ old => absurd rfl old
  · exact fun _ _ _ _ named => named
  · intro _ _ _ before after moves named old
    rcases moves.move.reference_cases with given | ⟨same, new⟩
    · exact given
    · rw [same]
      exact named fun started => old (new started)

def Dated (file : CaseFile) : Prop :=
  file.application.isImport = true → ∀ pack ∈ file.packs, pack.isIn .draft = true →
    (file.licenceOf pack.id).isSome = true → pack.startDate.isSome = true

def DraftsOf (after file : CaseFile) : Prop :=
  ∀ pack ∈ after.packs, pack.isIn .draft = true → pack ∈ file.packs

theorem draftsOf_packs {after : CaseFile} (same : after.packs = file.packs) : after.DraftsOf file :=
  fun _ member _ => same ▸ member

theorem draftsOf_change {after : CaseFile} {id : Nat} {change : Pack → Pack}
    (same : after.packs = (file.changePack id change).packs)
    (never : ∀ pack, (change pack).isIn .draft = false) : after.DraftsOf file := by
  intro pack member isDraft
  rw [same] at member
  obtain ⟨row, row_mem, rfl⟩ := Table.mem_changeAt.1 member
  split at isDraft
  next =>
    rw [never] at isDraft
    cases isDraft
  next other =>
    rw [if_neg other]
    exact row_mem

theorem draftsOf_issue {after : CaseFile} {draft : Pack} {earlier : Option Pack}
    {reference : Option String} {now : Instant}
    (same : after.packs = (file.issue draft earlier reference now).packs) :
    after.DraftsOf file := by
  have issued : ∀ pack : Pack, (pack.issued reference now).isIn .draft = false := fun _ => rfl
  cases earlier with
  | none => exact draftsOf_change same issued
  | some earlier =>
    intro pack member isDraft
    exact draftsOf_change rfl (fun _ => rfl) pack (draftsOf_change same issued pack member isDraft)
      isDraft

theorem licenceOf_congr {other : CaseFile} (same : file.documents = other.documents)
    (packId : Nat) :
    file.licenceOf packId = other.licenceOf packId := by
  rw [licenceOf, licenceOf, same]

def Owned (file : CaseFile) : Prop :=
  ∀ document ∈ file.documents, ∃ pack ∈ file.packs, pack.id = document.packId

theorem licenceOf_new (owned : file.Owned) {packId : Nat}
    (fresh : ∀ pack ∈ file.packs, pack.id < packId) : file.licenceOf packId = none := by
  -- A document of the new pack would belong to an older one.
  have unused : file.documents.filter (·.packId == packId) = [] := by
    refine List.filter_eq_nil_iff.2 fun document member same => ?_
    obtain ⟨pack, pack_mem, named⟩ := owned document member
    have below := fresh pack pack_mem
    rw [named, beq_iff_eq.1 same] at below
    exact Nat.lt_irrefl _ below
  rw [licenceOf, unused]
  rfl

namespace Dated

variable {after : CaseFile}

theorem carry (dated : file.Dated)
    (kind : after.application.processType = file.application.processType)
    (documents : after.documents = file.documents) (drafts : after.DraftsOf file) :
    after.Dated := by
  intro imported pack member isDraft licensed
  rw [licenceOf_congr documents] at licensed
  rw [Application.isImport_congr kind] at imported
  exact dated imported pack (drafts pack member isDraft) isDraft licensed

theorem update (dated : file.Dated)
    (kind : after.application.processType = file.application.processType)
    (documents : after.documents = file.documents) {id : Nat} {changes : LicenceUpdate}
    (packs : after.packs = (file.changePack id (·.update changes)).packs) : after.Dated := by
  intro imported pack member isDraft licensed
  rw [licenceOf_congr documents] at licensed
  rw [Application.isImport_congr kind] at imported
  rw [packs] at member
  obtain ⟨row, row_mem, rfl⟩ := Table.mem_changeAt.1 member
  split at isDraft
  next picked =>
    rw [if_pos picked] at licensed ⊢
    simp [Pack.update, dated imported row row_mem isDraft licensed]
  next other =>
    rw [if_neg other] at licensed ⊢
    exact dated imported row row_mem isDraft licensed

theorem approve {draft : Pack}
    (kind : after.application.processType = file.application.processType)
    (only : file.packs.filter (Pack.isIn .draft) = [draft])
    (terms : file.application.isImport = true → draft.startDate.isSome = true)
    (packs : after.packs = file.packs) : after.Dated := by
  intro imported pack member isDraft _
  rw [Application.isImport_congr kind] at imported
  rw [packs] at member
  have picked : pack ∈ file.packs.filter (Pack.isIn .draft) := List.mem_filter.2 ⟨member, isDraft⟩
  rw [only, List.mem_singleton] at picked
  rw [picked]
  exact terms imported

theorem addPack (dated : file.Dated) (owned : file.Owned)
    (kind : after.application.processType = file.application.processType)
    (documents : after.documents = file.documents) {pack : Pack}
    (packs : after.packs = file.packs ++ [pack])
    (fresh : ∀ found ∈ file.packs, found.id < pack.id) :
    after.Dated := by
  intro imported found member isDraft licensed
  rw [licenceOf_congr documents] at licensed
  rw [Application.isImport_congr kind] at imported
  rw [packs, List.mem_append, List.mem_singleton] at member
  rcases member with member | rfl
  · exact dated imported found member isDraft licensed
  · rw [licenceOf_new owned fresh] at licensed
    cases licensed

end Dated

theorem Dated.move (dated : file.Dated) (owned : file.Owned) {context : Context} {id : Nat}
    {operation : Operation} {after : CaseFile} (move : Move context id operation file after) :
    after.Dated := by
  have kind := move.processType_eq
  cases move with
  | startLicence => exact dated.update kind rfl rfl
  | editLicence => exact dated.update kind rfl rfl
  | submit =>
    exact dated.carry kind (ensureTask_documents _ _) (draftsOf_packs (ensureTask_packs _ _))
  | refuseVariation => exact dated.carry kind rfl (draftsOf_change rfl fun _ => rfl)
  | refuse => exact dated.carry kind rfl (draftsOf_change rfl fun _ => rfl)
  | approve _ _ _ _ only terms => exact .approve kind only (fun imported => (terms imported).1) rfl
  | issueDocuments =>
    refine dated.carry kind ?_ (draftsOf_issue (finish_issue_packs file _ _ _ _ _ _ _))
    rw [put_documents, issue_documents, finish_documents]
  | acceptWithdrawal => exact dated.carry kind rfl (draftsOf_change rfl fun _ => rfl)
  | rejectWithdrawal =>
    exact dated.carry kind (ensureTask_documents _ _) (draftsOf_packs (ensureTask_packs _ _))
  | stop => exact dated.carry kind rfl (draftsOf_change rfl fun _ => rfl)
  | reopen _ _ _ freshPack => exact dated.addPack owned kind rfl rfl freshPack
  | revoke => exact dated.carry kind rfl (draftsOf_change rfl fun _ => rfl)
  | revokeAtChief => exact dated.carry kind rfl (draftsOf_change rfl fun _ => rfl)
  | requestVariation _ _ _ _ _ _ freshPack => exact dated.addPack owned kind rfl rfl freshPack
  | approveLicence =>
    refine dated.carry kind ?_
      (draftsOf_issue ((answer_packs _ _).trans (finish_issue_packs file _ _ _ _ _ _ _)))
    rw [put_documents, answer_documents, issue_documents, finish_documents]
  | approveRevocation =>
    exact dated.carry kind (answer_documents _ _) (draftsOf_packs (answer_packs _ _))
  | rejectLicence =>
    exact dated.carry kind (answer_documents _ _) (draftsOf_packs (answer_packs _ _))
  | _ => exact dated.carry kind rfl (draftsOf_packs rfl)

theorem owned_of_fileOf {store : Store} {id : Nat} (found : store.fileOf id = some file) :
    file.Owned :=
  fun _ member => ((Store.mem_documents_iff found).1 member).2

theorem dated (steps : List Step) {id : Nat} {file : CaseFile}
    (found : (System.initial.follow steps).store.fileOf id = some file) : file.Dated := by
  refine file_invariant (fun _ _ file => file.Dated) ?_ ?_ ?_ steps found
  · intro _ _ _ _ _ _ _ _ _ _ licensed
    cases licensed
  · exact fun _ _ _ _ dated => dated
  · exact fun _ _ _ _ _ moves dated => dated.move (owned_of_fileOf moves.found) moves.move

end CaseFile

end Casework
