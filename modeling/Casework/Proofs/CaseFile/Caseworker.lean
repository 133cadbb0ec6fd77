import Casework.Proofs.Case.Authorisation
import Casework.Proofs.CaseFile.Applicant

set_option autoImplicit false

namespace Casework

open Calendar

namespace Work

variable {id : Nat} {caseType : CaseType} {context : Context} {desk after : Desk}

theorem takeOwnership_moves (sound : desk.store.Sound) {user : User} {answer : Application}
    (ran : takeOwnership caseType id user context desk = (.ok answer, after)) :
    Moved context id (.takeOwnership caseType id user) desk.store after.store := by
  simp only [takeOwnership, bind_eq_ok_iff] at ran
  obtain ⟨⟨_, task⟩, _, loaded, ran⟩ := ran
  obtain ⟨rfl, file, rfl, kind, current, held⟩ := Replaces.loadWithTask sound loaded
  by_cases imported : file.application.isImport = true
  · simp only [imported, if_pos, bind_eq_ok_iff] at ran
    obtain ⟨draft, _, looked, ran⟩ := ran
    obtain ⟨rfl, only⟩ := held.findDraft looked
    cases start : draft.startDate with
    | none =>
      simp only [start, Option.isNone_none, if_pos, bind_eq_ok_iff, now_run, Prod.mk.injEq,
        Except.ok.injEq] at ran
      obtain ⟨_, _, ⟨rfl, rfl⟩, _, _, updated, ran⟩ := ran
      obtain ⟨found, found_only, updated⟩ := held.updateDraft updated
      cases only.symm.trans found_only
      exact ⟨file, _, held.found, .startLicence kind current imported only start,
        (updated.saved ran held.id_eq).2⟩
    | some date =>
      simp only [start, Option.isNone_some] at ran
      have started : draft.startDate.isSome = true := by rw [start]; rfl
      exact ⟨file, _, held.found,
        .edit (.takeOwnership kind current fun _ => ⟨draft, only, started⟩),
        (held.saved ran held.id_eq).2⟩
  · simp only [imported] at ran
    exact ⟨file, _, held.found,
      .edit (.takeOwnership kind current fun other => absurd other imported),
      (held.saved ran held.id_eq).2⟩

theorem releaseOwnership_moves (sound : desk.store.Sound) {answer : Application}
    (ran : releaseOwnership caseType id context desk = (.ok answer, after)) :
    Moved context id (.releaseOwnership caseType id) desk.store after.store := by
  simp only [releaseOwnership, bind_eq_ok_iff] at ran
  obtain ⟨⟨_, task⟩, _, loaded, ran⟩ := ran
  obtain ⟨rfl, file, rfl, kind, current, held⟩ := Replaces.loadWithTask sound loaded
  exact ⟨file, _, held.found, .edit (.releaseOwnership kind current),
    (held.saved ran held.id_eq).2⟩

theorem completeChecklist_moves (sound : desk.store.Sound) {checklist : Checklist}
    {answer : Application}
    (ran : completeChecklist caseType id checklist context desk = (.ok answer, after)) :
    Moved context id (.completeChecklist caseType id checklist) desk.store after.store := by
  simp only [completeChecklist, bind_eq_ok_iff, require_eq_ok_iff] at ran
  obtain ⟨⟨_, task⟩, _, loaded, _, _, ⟨listed, rfl⟩, ran⟩ := ran
  obtain ⟨rfl, file, rfl, kind, current, held⟩ := Replaces.loadWithTask sound loaded
  exact ⟨file, _, held.found, .edit (.checklist kind current listed),
    (held.saved ran held.id_eq).2⟩

theorem editLicence_moves (sound : desk.store.Sound) {changes : LicenceUpdate} {answer : Pack}
    (ran : editLicence caseType id changes context desk = (.ok answer, after)) :
    Moved context id (.editLicence caseType id changes) desk.store after.store := by
  simp only [editLicence, bind_eq_ok_iff, require_eq_ok_iff] at ran
  obtain ⟨_, _, loaded, _, _, ⟨imported, rfl⟩, task, _, checked, _, _, ⟨supported, rfl⟩, draft, _,
    looked, _, _, ⟨ordered, rfl⟩, _, _, updated, answered⟩ := ran
  obtain ⟨rfl, file, rfl, kind, held⟩ := Replaces.load sound loaded
  obtain ⟨rfl, current⟩ := held.current checked
  obtain ⟨rfl, only⟩ := held.findDraft looked
  obtain ⟨found, found_only, updated⟩ := held.updateDraft updated
  cases only.symm.trans found_only
  obtain ⟨rfl, -⟩ := updated.findDraft answered
  exact ⟨file, _, held.found, .editLicence kind imported current supported only ordered, updated⟩

theorem decisionReason_eq_ok {input : DecisionInput} {reason : Option String}
    (ran : decisionReason input context desk = (.ok reason, after)) :
    after = desk ∧ match input.decision with
      | .approve => reason = none
      | .refuse => ∃ text, input.refuseReason = some text ∧ Text.isBlankText text = false ∧
        reason = some text := by
  obtain ⟨decision, refuseReason⟩ := input
  match decision, refuseReason with
  | .approve, _ =>
    cases ran
    exact ⟨rfl, rfl⟩
  | .refuse, some text =>
    simp only [decisionReason, bind_eq_ok_iff, require_eq_ok_iff, Bool.not_eq_true', pure_run,
      Prod.mk.injEq, Except.ok.injEq] at ran
    obtain ⟨_, _, ⟨filled, rfl⟩, rfl, rfl⟩ := ran
    exact ⟨rfl, text, rfl, filled, rfl⟩
  | .refuse, none => cases ran

theorem decide_moves (sound : desk.store.Sound) {input : DecisionInput} {answer : Application}
    (ran : Work.decide caseType id input context desk = (.ok answer, after)) :
    Moved context id (.decide caseType id input) desk.store after.store := by
  simp only [Work.decide, bind_eq_ok_iff] at ran
  obtain ⟨⟨_, task⟩, _, loaded, reason, _, reasoned, ran⟩ := ran
  obtain ⟨rfl, file, rfl, kind, current, held⟩ := Replaces.loadWithTask sound loaded
  obtain ⟨rfl, given⟩ := decisionReason_eq_ok reasoned
  have same : (file.application.withDecision input.decision reason).id = id := by
    rw [Application.withDecision]
    split <;> exact held.id_eq
  exact ⟨file, _, held.found, .edit (.decision kind current given), (held.saved ran same).2⟩

theorem startAuthorisation_moves (sound : desk.store.Sound) {user : User} {answer : Application}
    (ran : startAuthorisation caseType id user context desk = (.ok answer, after)) :
    Moved context id (.startAuthorisation caseType id user) desk.store after.store := by
  simp only [startAuthorisation, bind_eq_ok_iff, read_run, require_eq_ok_iff, Prod.mk.injEq,
    Except.ok.injEq] at ran
  obtain ⟨⟨_, task⟩, _, loaded, _, _, ⟨rfl, rfl⟩, _, _, ⟨clean, rfl⟩, _, _, ended, ran⟩ := ran
  obtain ⟨rfl, file, rfl, kind, current, held⟩ := Replaces.loadWithTask sound loaded
  obtain ⟨decided, closed, terms⟩ := Application.authorisationErrors_isEmpty clean
  have ended := held.finishTask (CaseFile.mem_of_only current.only).1 ended
  by_cases refused : file.application.currentDecision = some .refuse
  · rw [if_pos refused] at ran
    by_cases varied : file.application.isImportVariation = true
    · rw [if_pos varied] at ran
      simp only [bind_eq_ok_iff, now_run, Prod.mk.injEq, Except.ok.injEq] at ran
      obtain ⟨_, _, ⟨rfl, rfl⟩, _, _, archived, ran⟩ := ran
      obtain ⟨draft, only, archived⟩ := ended.archiveDraft archived
      exact ⟨file, _, held.found, .refuseVariation kind current refused closed varied only,
        (archived.saved ran held.id_eq).2⟩
    · rw [if_neg varied] at ran
      simp only [bind_eq_ok_iff] at ran
      obtain ⟨_, _, created, _, _, archived, ran⟩ := ran
      obtain ⟨new, fresh, created⟩ := ended.createTask created
      obtain ⟨draft, only, archived⟩ := created.archiveDraft archived
      have fresh := CaseFile.below_of_finish fresh
      have plain : file.application.isImportVariation = false := by simpa using varied
      exact ⟨file, _, held.found, .refuse kind current refused closed plain only fresh,
        (archived.saved ran held.id_eq).2⟩
  · rw [if_neg refused] at ran
    simp only [bind_eq_ok_iff] at ran
    obtain ⟨_, _, created, documented, _, filled, ran⟩ := ran
    have approved := Application.approved_of_decided decided refused
    obtain ⟨new, fresh, created⟩ := ended.createTask created
    obtain ⟨draft, documents, only, own, ⟨number, rfl⟩, held'⟩ :=
      created.createDocuments filled held.id_eq
    have fresh := CaseFile.below_of_finish fresh
    have terms : file.application.isImport = true →
        draft.startDate.isSome = true ∧ draft.endDate.isSome = true ∧
          ∃ paperOnly, draft.paperOnly = some paperOnly ∧
            file.application.terms.supports paperOnly = true := by
      intro imported
      obtain ⟨pack, looked, given⟩ := terms imported approved
      rw [Store.draftPack, held.id_eq, Store.singlePack_eq held.found,
        CaseFile.singlePack_eq_ok_iff] at looked
      cases only.symm.trans looked
      exact given
    exact ⟨file, _, held.found, .approve kind current approved closed only terms fresh own,
      (held'.saved ran held.id_eq).2⟩

theorem authoriseDocuments_moves (sound : desk.store.Sound) {user : User} {answer : Application}
    (ran : authoriseDocuments caseType id user context desk = (.ok answer, after)) :
    Moved context id (.authoriseDocuments caseType id user) desk.store after.store := by
  simp only [authoriseDocuments, bind_eq_ok_iff, pure_run, Prod.mk.injEq] at ran
  obtain ⟨⟨_, task⟩, _, loaded, _, _, ended, _, _, created, -, rfl⟩ := ran
  obtain ⟨rfl, file, rfl, kind, current, held⟩ := Replaces.loadWithTask sound loaded
  have ended := held.finishTask (CaseFile.mem_of_only current.only).1 ended
  obtain ⟨new, fresh, created⟩ := ended.createTask created
  exact ⟨file, _, held.found, .authoriseDocuments kind current (CaseFile.below_of_finish fresh),
    created⟩

theorem documentsSigned_moves (sound : desk.store.Sound) {answer : Application}
    (ran : documentsSigned caseType id context desk = (.ok answer, after)) :
    Moved context id (.documentsSigned caseType id) desk.store after.store := by
  simp only [documentsSigned, bind_eq_ok_iff] at ran
  obtain ⟨⟨_, task⟩, _, loaded, _, _, ended, ran⟩ := ran
  obtain ⟨rfl, file, rfl, kind, current, held⟩ := Replaces.loadWithTask sound loaded
  have ended := held.finishTask (CaseFile.mem_of_only current.only).1 ended
  by_cases sent : file.application.goesToChief = true
  · rw [if_pos sent] at ran
    simp only [bind_eq_ok_iff, context_run, Prod.mk.injEq, Except.ok.injEq] at ran
    obtain ⟨_, _, ⟨rfl, rfl⟩, _, _, delivered, ran⟩ := ran
    obtain ⟨requestId, new, freshRequest, fresh, -, delivered⟩ :=
      ended.sendToChief delivered held.id_eq
    exact ⟨file, _, held.found,
      .sendDocuments kind current sent freshRequest (CaseFile.below_of_finish fresh),
      (delivered.saved ran held.id_eq).2⟩
  · rw [if_neg sent] at ran
    simp only [bind_eq_ok_iff, now_run, Prod.mk.injEq, Except.ok.injEq] at ran
    obtain ⟨_, _, ⟨rfl, rfl⟩, _, _, issued, ran⟩ := ran
    obtain ⟨draft, earlier, only, before, issued⟩ := ended.issueDraft issued held.id_eq
    have kept : file.application.goesToChief = false := by simpa using sent
    exact ⟨file, _, held.found, .issueDocuments kind current kept only before,
      (issued.saved ran held.id_eq).2⟩

theorem replaceTask_moves (sound : desk.store.Sound) {ended created : TaskType}
    {answer : Application}
    (ran : replaceTask caseType id ended created context desk = (.ok answer, after)) :
    ∃ file task new, desk.store.fileOf id = some file ∧ file.application.caseType = caseType ∧
      file.Current processingStates ended task ∧ (∀ task ∈ file.tasks, task.id < new) ∧
      Replaces desk.store id ((file.finish task.id none context.now).addTask
        (.opened new id created (some task.id) context.now)) after.store := by
  simp only [replaceTask, bind_eq_ok_iff, pure_run, Prod.mk.injEq] at ran
  obtain ⟨⟨_, task⟩, _, loaded, _, _, finished, _, _, opened, -, rfl⟩ := ran
  obtain ⟨rfl, file, rfl, kind, current, held⟩ := Replaces.loadWithTask sound loaded
  have finished := held.finishTask (CaseFile.mem_of_only current.only).1 finished
  obtain ⟨new, fresh, opened⟩ := finished.createTask opened
  exact ⟨file, task, new, held.found, kind, current, CaseFile.below_of_finish fresh, opened⟩

theorem documentsFailed_moves (sound : desk.store.Sound) {answer : Application}
    (ran : documentsFailed caseType id context desk = (.ok answer, after)) :
    Moved context id (.documentsFailed caseType id) desk.store after.store := by
  obtain ⟨file, task, new, found, kind, current, fresh, held⟩ := replaceTask_moves sound ran
  exact ⟨file, _, found, .failSigning kind current fresh, held⟩

theorem retrySigning_moves (sound : desk.store.Sound) {answer : Application}
    (ran : retrySigning caseType id context desk = (.ok answer, after)) :
    Moved context id (.retrySigning caseType id) desk.store after.store := by
  obtain ⟨file, task, new, found, kind, current, fresh, held⟩ := replaceTask_moves sound ran
  exact ⟨file, _, found, .retrySigning kind current fresh, held⟩

theorem respondToWithdrawal_moves (sound : desk.store.Sound) {user : User} {accept : Bool}
    {response : Option String} {answer : Application}
    (ran : respondToWithdrawal caseType id user accept response context desk =
      (.ok answer, after)) :
    Moved context id (.respondToWithdrawal caseType id user accept response) desk.store
      after.store := by
  simp only [respondToWithdrawal, bind_eq_ok_iff, checkFlow_eq_ok_iff, require_eq_ok_iff,
    Standing.checkStatus_eq_ok_iff] at ran
  obtain ⟨_, _, loaded, _, _, ⟨stage, rfl⟩, _, _, ⟨asked, rfl⟩, ran⟩ := ran
  obtain ⟨rfl, file, rfl, kind, held⟩ := Replaces.load sound loaded
  cases accept with
  | true =>
    simp only [if_pos, bind_eq_ok_iff, now_run, Prod.mk.injEq, Except.ok.injEq] at ran
    obtain ⟨_, _, ⟨rfl, rfl⟩, _, _, ended, _, _, archived, ran⟩ := ran
    obtain ⟨draft, only, archived⟩ := (held.finishAllTasks ended).archiveDraft archived
    have same : ((file.application.answerWithdrawal user .accepted response).withdraw
        context.now).id = id := by
      rw [Application.withdraw]
      split <;> exact held.id_eq
    exact ⟨file, _, held.found, .acceptWithdrawal kind stage asked only,
      (archived.saved ran same).2⟩
  | false =>
    rw [if_neg Bool.false_ne_true] at ran
    obtain ⟨new, _, fresh, ensured, saved⟩ := held.ensureTask ran
    exact ⟨file, _, held.found, .rejectWithdrawal kind stage asked fresh,
      (ensured.saved saved held.id_eq).2⟩

theorem stop_moves (sound : desk.store.Sound) {answer : Application}
    (ran : stop caseType id context desk = (.ok answer, after)) :
    Moved context id (.stop caseType id) desk.store after.store := by
  simp only [stop, bind_eq_ok_iff, now_run, Prod.mk.injEq, Except.ok.injEq] at ran
  obtain ⟨⟨_, task⟩, _, loaded, _, _, ⟨rfl, rfl⟩, _, _, ended, _, _, archived, ran⟩ := ran
  obtain ⟨rfl, file, rfl, kind, current, held⟩ := Replaces.loadWithTask sound loaded
  obtain ⟨draft, only, archived⟩ := (held.finishAllTasks ended).archiveDraft archived
  exact ⟨file, _, held.found, .stop kind current only, (archived.saved ran held.id_eq).2⟩

theorem reopen_moves (sound : desk.store.Sound) {answer : Application}
    (ran : reopen caseType id context desk = (.ok answer, after)) :
    Moved context id (.reopen caseType id) desk.store after.store := by
  simp only [reopen, bind_eq_ok_iff, checkFlow_eq_ok_iff, Standing.checkStatus_eq_ok_iff] at ran
  obtain ⟨_, _, loaded, _, _, ⟨stage, rfl⟩, _, _, created, _, _, drafted, ran⟩ := ran
  obtain ⟨rfl, file, rfl, kind, held⟩ := Replaces.load sound loaded
  obtain ⟨new, fresh, created⟩ := held.createTask created
  obtain ⟨pack, _, freshPack, rfl, held'⟩ := created.createDraft drafted held.id_eq
  exact ⟨file, _, held.found, .reopen kind stage fresh freshPack,
    (held'.saved ran held.id_eq).2⟩

theorem revoke_moves (sound : desk.store.Sound) {input : RevokeInput} {answer : Application}
    (ran : revoke caseType id input context desk = (.ok answer, after)) :
    Moved context id (.revoke caseType id input) desk.store after.store := by
  simp only [revoke, bind_eq_ok_iff, checkFlow_eq_ok_iff, Application.checkComplete,
    Standing.checkStatus_eq_ok_iff, Bool.false_eq_true, if_false, List.mem_singleton] at ran
  obtain ⟨_, _, loaded, _, _, ⟨stage, rfl⟩, _, _, revoked, ran⟩ := ran
  obtain ⟨rfl, file, rfl, kind, held⟩ := Replaces.load sound loaded
  obtain ⟨pack, only, revoked⟩ := held.revokeActive revoked
  by_cases sent : file.application.goesToChief = true
  · rw [if_pos sent] at ran
    simp only [bind_eq_ok_iff, context_run, Prod.mk.injEq, Except.ok.injEq] at ran
    obtain ⟨_, _, ⟨rfl, rfl⟩, _, _, delivered, ran⟩ := ran
    obtain ⟨requestId, new, freshRequest, fresh, -, delivered⟩ :=
      revoked.sendToChief delivered held.id_eq
    exact ⟨file, _, held.found, .revokeAtChief kind stage only sent freshRequest fresh,
      (delivered.saved ran held.id_eq).2⟩
  · rw [if_neg sent] at ran
    have kept : file.application.goesToChief = false := by simpa using sent
    exact ⟨file, _, held.found, .revoke kind stage only kept, (revoked.saved ran held.id_eq).2⟩

theorem requestVariation_moves (sound : desk.store.Sound) {user : User} {whatVaried : String}
    {answer : Application}
    (ran : requestVariation caseType id user whatVaried context desk = (.ok answer, after)) :
    Moved context id (.requestVariation caseType id user whatVaried) desk.store after.store := by
  simp only [requestVariation, bind_eq_ok_iff, checkFlow_eq_ok_iff, require_eq_ok_iff,
    Application.checkComplete, Standing.checkStatus_eq_ok_iff, ofExcept_eq_ok_iff, now_run,
    Bool.false_eq_true, if_false, List.mem_singleton, Prod.mk.injEq, Except.ok.injEq] at ran
  obtain ⟨_, _, ⟨_, rfl⟩, _, _, loaded, _, _, ⟨stage, rfl⟩, record, _, counted, _, _, ⟨rfl, rfl⟩,
    reference, _, ⟨named, rfl⟩, _, _, created, _, _, drafted, ran⟩ := ran
  obtain ⟨rfl, file, rfl, kind, held⟩ := Replaces.load sound loaded
  obtain ⟨new, fresh, created⟩ := (held.nextRecord counted).createTask created
  obtain ⟨pack, terms, freshPack, initial, held'⟩ := created.createDraft drafted held.id_eq
  exact ⟨file, _, held.found, .requestVariation kind stage rfl named initial fresh freshPack,
    (held'.saved ran held.id_eq).2⟩

theorem addInformationRequest_moves (sound : desk.store.Sound) {subject : String}
    {answer : InformationRequest}
    (ran : addInformationRequest caseType id subject context desk = (.ok answer, after)) :
    Moved context id (.addInformationRequest caseType id subject) desk.store after.store := by
  simp only [addInformationRequest, bind_eq_ok_iff, pure_run, Prod.mk.injEq] at ran
  obtain ⟨⟨_, task⟩, _, loaded, _, _, ran, -, rfl⟩ := ran
  obtain ⟨rfl, file, rfl, kind, current, held⟩ := Replaces.loadWithTask sound loaded
  exact ⟨file, _, held.found, .edit (.informationRequest kind current), held.save ran held.id_eq⟩

theorem closeInformationRequest_moves (sound : desk.store.Sound) {entry : Nat}
    {answer : InformationRequest}
    (ran : closeInformationRequest caseType id entry context desk = (.ok answer, after)) :
    Moved context id (.closeInformationRequest caseType id entry) desk.store after.store := by
  simp only [closeInformationRequest, bind_eq_ok_iff, findEntry_eq_ok_iff, require_eq_ok_iff,
    Bool.or_eq_true, beq_iff_eq, pure_run, Prod.mk.injEq] at ran
  obtain ⟨⟨_, task⟩, _, loaded, _, _, ⟨found, rfl⟩, _, _, ⟨closable, rfl⟩, _, _, ran, -, rfl⟩ := ran
  obtain ⟨rfl, file, rfl, kind, current, held⟩ := Replaces.loadWithTask sound loaded
  exact ⟨file, _, held.found, .edit (.informationClosed kind current found closable),
    held.save ran held.id_eq⟩

theorem addUpdateRequest_moves (sound : desk.store.Sound) {subject : String}
    {answer : UpdateRequest}
    (ran : addUpdateRequest caseType id subject context desk = (.ok answer, after)) :
    Moved context id (.addUpdateRequest caseType id subject) desk.store after.store := by
  simp only [addUpdateRequest, bind_eq_ok_iff, require_eq_ok_iff, now_run, List.isEmpty_iff,
    pure_run, Prod.mk.injEq, Except.ok.injEq] at ran
  obtain ⟨⟨_, task⟩, _, loaded, _, _, ⟨free, rfl⟩, _, _, ⟨rfl, rfl⟩, _, _, created, _, _, ran, -,
    rfl⟩ :=
    ran
  obtain ⟨rfl, file, rfl, kind, current, held⟩ := Replaces.loadWithTask sound loaded
  obtain ⟨new, fresh, created⟩ := held.createTask created
  exact ⟨file, _, held.found, .addUpdateRequest kind current free fresh,
    created.save ran held.id_eq⟩

theorem closeUpdateRequest_moves (sound : desk.store.Sound) {entry : Nat} {answer : UpdateRequest}
    (ran : closeUpdateRequest caseType id entry context desk = (.ok answer, after)) :
    Moved context id (.closeUpdateRequest caseType id entry) desk.store after.store := by
  simp only [closeUpdateRequest, bind_eq_ok_iff, findEntry_eq_ok_iff] at ran
  obtain ⟨⟨_, task⟩, _, loaded, request, _, ⟨found, rfl⟩, ran⟩ := ran
  obtain ⟨rfl, file, rfl, kind, current, held⟩ := Replaces.loadWithTask sound loaded
  obtain ⟨entryId, status, subject⟩ := request
  cases status with
  | opened =>
    simp only [UpdateStatus.afterClosing?, if_pos, bind_eq_ok_iff, checkFlow_eq_ok_iff, pure_run,
      Prod.mk.injEq] at ran
    obtain ⟨prepare, _, ⟨expected, rfl⟩, _, _, ended, _, _, ran, -, rfl⟩ := ran
    obtain ⟨-, only⟩ := (Store.expectedTask_eq_ok_iff held.found).1 expected
    have ended := held.finishTask (CaseFile.mem_of_only only).1 ended
    exact ⟨file, _, held.found, .withdrawUpdateRequest kind current found rfl only,
      ended.save ran held.id_eq⟩
  | responded =>
    simp only [UpdateStatus.afterClosing?, reduceCtorEq, if_false, bind_eq_ok_iff, pure_run,
      Prod.mk.injEq] at ran
    obtain ⟨_, _, ran, -, rfl⟩ := ran
    exact ⟨file, _, held.found, .edit (.closeUpdate kind current found rfl),
      held.save ran held.id_eq⟩
  | draft | inProgress | closed | deleted => simp [UpdateStatus.afterClosing?] at ran

theorem addEmail_moves (sound : desk.store.Sound) {recipient : String} {answer : CaseEmail}
    (ran : addEmail caseType id recipient context desk = (.ok answer, after)) :
    Moved context id (.addEmail caseType id recipient) desk.store after.store := by
  simp only [addEmail, bind_eq_ok_iff, pure_run, Prod.mk.injEq] at ran
  obtain ⟨⟨_, task⟩, _, loaded, _, _, ran, -, rfl⟩ := ran
  obtain ⟨rfl, file, rfl, kind, current, held⟩ := Replaces.loadWithTask sound loaded
  exact ⟨file, _, held.found, .edit (.email kind current), held.save ran held.id_eq⟩

theorem closeEmail_moves (sound : desk.store.Sound) {entry : Nat} {answer : CaseEmail}
    (ran : closeEmail caseType id entry context desk = (.ok answer, after)) :
    Moved context id (.closeEmail caseType id entry) desk.store after.store := by
  simp only [closeEmail, bind_eq_ok_iff, findEntry_eq_ok_iff, require_eq_ok_iff,
    Bool.or_eq_true, beq_iff_eq, pure_run, Prod.mk.injEq] at ran
  obtain ⟨⟨_, task⟩, _, loaded, _, _, ⟨found, rfl⟩, _, _, ⟨closable, rfl⟩, _, _, ran, -, rfl⟩ := ran
  obtain ⟨rfl, file, rfl, kind, current, held⟩ := Replaces.loadWithTask sound loaded
  exact ⟨file, _, held.found, .edit (.emailClosed kind current found closable),
    held.save ran held.id_eq⟩

def Reassigned (caseType : CaseType) (ids : List Nat) (owner : User) (id : Nat)
    (before after : Option CaseFile) : Prop :=
  after = before ∨ ∃ file, before = some file ∧ file.application.caseType = caseType ∧ id ∈ ids ∧
    file.application.status ∈ processingStates ∧
    after = some (file.put { file.application with owner := some owner })

theorem reassignEach_files {ids answer : List Nat} {owner : User} (sound : desk.store.Sound)
    (ran : reassignEach caseType owner ids context desk = (.ok answer, after)) :
    after.store.Sound ∧
      (∀ id, Reassigned caseType ids owner id (desk.store.fileOf id) (after.store.fileOf id)) ∧
      desk.store.Extends after.store ∧
      ∀ id, after.store.requestsOf id = desk.store.requestsOf id := by
  induction ids generalizing desk answer with
  | nil =>
    cases ran
    exact ⟨sound, fun _ => .inl rfl, .refl _, fun _ => rfl⟩
  | cons head ids ih =>
    simp only [reassignEach, bind_eq_ok_iff] at ran
    obtain ⟨_, start, loaded, ran⟩ := ran
    obtain ⟨rfl, file, rfl, kind, held⟩ := Replaces.load sound loaded
    by_cases stage : file.application.status ∈ processingStates
    · simp only [stage, if_pos, bind_eq_ok_iff, pure_run, Prod.mk.injEq] at ran
      obtain ⟨_, between, saved, _, _, rest, -, rfl⟩ := ran
      have found := held.found
      have unsent : ∀ id, between.store.requestsOf id = start.store.requestsOf id := by
        obtain ⟨-, rfl⟩ := save_eq_ok_iff.1 saved
        exact fun _ => rfl
      have held := held.save saved held.id_eq
      obtain ⟨sound, files, numbers, requests⟩ := ih held.sound rest
      refine ⟨sound, fun id => ?_, held.numbers.trans numbers,
        fun id => (requests id).trans (unsent id)⟩
      by_cases mine : id = head
      · subst mine
        refine .inr ⟨file, found, kind, List.mem_cons_self, stage, ?_⟩
        have again := files id
        rw [held.found] at again
        rcases again with same | ⟨other, named, -, -, -, same⟩
        · exact same
        · cases named
          exact same
      · have again := files id
        rw [held.others id mine] at again
        rcases again with same | ⟨other, named, kind, member, stage, same⟩
        · exact .inl same
        · exact .inr ⟨other, named, kind, List.mem_cons_of_mem _ member, stage, same⟩
    · simp only [stage, if_false] at ran
      obtain ⟨sound, files, numbers⟩ := ih sound ran
      refine ⟨sound, fun id => ?_, numbers⟩
      rcases files id with same | ⟨other, named, kind, member, stage, same⟩
      · exact .inl same
      · exact .inr ⟨other, named, kind, List.mem_cons_of_mem _ member, stage, same⟩

end Work

end Casework
