import Casework.Proofs.Case.Variations
import Casework.Proofs.Chief.Outbox
import Casework.Proofs.Chief.Waits

set_option autoImplicit false

namespace Casework

open Calendar

def CaseStatus.isSettled : CaseStatus → Bool
  | .completed | .revoked => true
  | .inProgress | .submitted | .processing | .withdrawn | .stopped | .variationRequested => false

theorem caseType_of_licenceType {processType : ProcessType} {licenceType : ChiefLicenceType}
    (kind : ChiefLicenceType.of? processType = some licenceType) :
    processType.caseType = .importing := by
  cases processType <;> first | rfl | cases kind

structure CaseFile.Sends (file : CaseFile) (payload : LicencePayload) : Prop where
  reference : payload.caseReference = file.application.shownReference
  imported : file.application.isImport = true
  action : payload.action = .cancel ∨
    (file.application.status ∈ processingStates ∧ payload.action =
      if file.application.status = .variationRequested then .replace else .insert)

namespace CaseFile

variable {file base : CaseFile} {context : Context} {application : Application} {revoke : Bool}
  {payload : LicencePayload}

theorem Sends.of_outcome (succeeded : base.outcome context application revoke = .ok (some payload))
    (kind : application.processType = file.application.processType)
    (named : application.reference = file.application.reference)
    (status : revoke = false → application.status = file.application.status ∧
      file.application.status ∈ processingStates) : file.Sends payload := by
  obtain ⟨licenceType, pack, reference, licensed, -, -, rfl⟩ :=
    payload_eq_ok (payload_of_outcome succeeded)
  rw [kind] at licensed
  refine ⟨congrArg (·.getD "Not Assigned") named, ?_, ?_⟩
  · exact beq_iff_eq.2 (caseType_of_licenceType licensed)
  · cases revoke with
    | true => exact .inl rfl
    | false =>
      obtain ⟨same, stage⟩ := status rfl
      exact .inr ⟨stage, by rw [same]; rfl⟩

theorem Sends.cancels (succeeded : base.outcome context application true = .ok (some payload)) :
    payload.action = .cancel := by
  obtain ⟨_, _, _, -, -, -, rfl⟩ := payload_eq_ok (payload_of_outcome succeeded)
  rfl

end CaseFile

theorem Store.packsOf_of_found {start last : Store} {id : Nat} {before after : CaseFile}
    (found : start.fileOf id = some before) (becomes : last.fileOf id = some after)
    (same : after.packs = before.packs) : last.packsOf id = start.packsOf id := by
  obtain ⟨-, -, packs, -⟩ := fileOf_eq_some_iff.1 found
  obtain ⟨-, -, kept, -⟩ := fileOf_eq_some_iff.1 becomes
  rw [kept, same, packs]

def Work.HandsOver (id : Nat) (desk after : Desk) : Prop :=
  ∀ payload ∈ after.accepted.drop desk.accepted.length, ∃ file,
    desk.store.fileOf id = some file ∧ file.Sends payload ∧
      (payload.action ≠ .cancel → after.store.packsOf id = desk.store.packsOf id)

namespace Work

variable {context : Context} {desk after : Desk} {id : Nat}

theorem handsOver_of_same (same : after.accepted = desk.accepted) : HandsOver id desk after := by
  intro payload taken
  rw [same, List.drop_length] at taken
  cases taken

theorem Silent.accepted {α : Type} {work : Work α} {result : Except CaseError α}
    (silent : Silent work) (ran : work context desk = (result, after)) :
    after.accepted = desk.accepted := by
  have kept := (silent context desk).1.accepted
  rwa [ran] at kept

theorem sendToChief_delivers {start : Store} {file : CaseFile}
    (held : Replaces start id file desk.store) {application : Application} {revoke : Bool}
    {previous : Option Nat} {answer : TaskType}
    (ran : sendToChief application previous revoke context.sendsLicences context desk =
      (.ok answer, after)) (same : application.id = id) :
    after.accepted =
      desk.accepted ++ (delivered (file.outcome context application revoke)).toList := by
  simp only [sendToChief, bind_eq_ok_iff, nextRequest, now_run, write_run, read_run, pure_run,
    createTask_run, Prod.mk.injEq] at ran
  obtain ⟨outcome, between, sent, _, _, ⟨_, _, ⟨-, rfl⟩, -, rfl⟩, _, _, ⟨-, rfl⟩, _, _,
    ⟨-, rfl⟩, _, _, ⟨-, rfl⟩, -, rfl⟩ := ran
  obtain ⟨rfl, -⟩ := held.deliverLicence sent same
  obtain ⟨outcome, ran⟩ :=
    deliverLicence_run context desk application revoke context.sendsLicences
  cases ran.symm.trans sent
  rfl

theorem outcome_of_taken {payload : LicencePayload}
    {outcome : Except ChiefError (Option LicencePayload)}
    (accepted : after.accepted = desk.accepted ++ (delivered outcome).toList)
    (taken : payload ∈ after.accepted.drop desk.accepted.length) :
    outcome = .ok (some payload) := by
  rw [accepted, List.drop_left, Option.mem_toList] at taken
  cases outcome with
  | error error => cases taken
  | ok sent => exact congrArg Except.ok taken

theorem documentsSigned_handsOver (sound : desk.store.Sound) {caseType : CaseType}
    {answer : Application} (ran : documentsSigned caseType id context desk = (.ok answer, after)) :
    HandsOver id desk after := by
  simp only [documentsSigned, bind_eq_ok_iff] at ran
  obtain ⟨⟨_, task⟩, _, loaded, _, ended, finished, ran⟩ := ran
  obtain ⟨rfl, file, rfl, kind, current, held⟩ := Replaces.loadWithTask sound loaded
  have same := (plain_finishTask _ _).silent.accepted finished
  have finished := held.finishTask (CaseFile.mem_of_only current.only).1 finished
  split at ran
  next sent =>
    simp only [bind_eq_ok_iff, context_run, Prod.mk.injEq, Except.ok.injEq] at ran
    obtain ⟨_, _, ⟨rfl, rfl⟩, _, last, delivered, ran⟩ := ran
    have accepted := sendToChief_delivers finished delivered held.id_eq
    obtain ⟨_, _, -, -, -, sent⟩ := finished.sendToChief delivered held.id_eq
    obtain ⟨-, saved⟩ := sent.saved ran held.id_eq
    rw [same, ← (plain_saved _).silent.accepted ran] at accepted
    intro payload taken
    refine ⟨file, held.found, ?_, fun _ => ?_⟩
    · exact .of_outcome (outcome_of_taken accepted taken) rfl rfl fun _ => ⟨rfl, current.status⟩
    · exact Store.packsOf_of_found held.found saved.found rfl
  next kept =>
    refine handsOver_of_same (Eq.trans ?_ same)
    refine Silent.accepted ?_ ran
    exact .bind plain_now.silent fun _ => .bind (silent_issueDraft _) fun _ =>
      (plain_saved _).silent

theorem revoke_handsOver (sound : desk.store.Sound) {caseType : CaseType} {input : RevokeInput}
    {answer : Application} (ran : revoke caseType id input context desk = (.ok answer, after)) :
    HandsOver id desk after := by
  simp only [revoke, bind_eq_ok_iff, checkFlow_eq_ok_iff] at ran
  obtain ⟨_, _, loaded, _, _, ⟨-, rfl⟩, _, _, revoked, ran⟩ := ran
  obtain ⟨rfl, file, rfl, kind, held⟩ := Replaces.load sound loaded
  have same := (silent_revokeActive id _ _).accepted revoked
  obtain ⟨pack, only, revoked⟩ := held.revokeActive revoked
  split at ran
  next sent =>
    simp only [bind_eq_ok_iff, context_run, Prod.mk.injEq, Except.ok.injEq] at ran
    obtain ⟨_, _, ⟨rfl, rfl⟩, _, last, delivered, ran⟩ := ran
    have accepted := sendToChief_delivers revoked delivered held.id_eq
    rw [same, ← (plain_saved _).silent.accepted ran] at accepted
    intro payload taken
    have succeeded := outcome_of_taken accepted taken
    refine ⟨file, held.found, .of_outcome succeeded rfl rfl ?_, fun back => ?_⟩
    · intro unrevoked
      cases unrevoked
    · exact absurd (CaseFile.Sends.cancels succeeded) back
  next kept => exact handsOver_of_same (((plain_saved _).silent.accepted ran).trans same)

theorem resendLicence_handsOver (sound : desk.store.Sound) {answer : TaskType}
    (ran : resendLicence id context desk = (.ok answer, after)) : HandsOver id desk after := by
  obtain ⟨file, task, _, found, current, ended, sent⟩ := resendLicence_ran sound ran
  have held := Replaces.refl sound found
  have same := (plain_finishTask _ _).silent.accepted ended
  have ended := held.finishTask (CaseFile.mem_of_only current.only).1 ended
  have accepted := sendToChief_delivers ended sent held.id_eq
  obtain ⟨_, _, -, -, -, last⟩ := ended.sendToChief sent held.id_eq
  rw [same] at accepted
  intro payload taken
  refine ⟨file, found, ?_, fun _ => Store.packsOf_of_found found last.found rfl⟩
  refine .of_outcome (outcome_of_taken accepted taken) rfl rfl fun standing => ⟨rfl, ?_⟩
  have stage := current.status
  rwa [if_neg (beq_eq_false_iff_ne.1 standing)] at stage

end Work

theorem System.sent_after {system : System} (sound : system.store.Sound) {step : Step}
    {payload : LicencePayload}
    (taken : payload ∈ (system.after step).accepted.drop system.accepted.length) :
    ∃ id file, step.operation.role id = .sending ∧ system.store.fileOf id = some file ∧
      file.Sends payload ∧ (payload.action ≠ .cancel →
        (system.after step).store.packsOf id = system.store.packsOf id) := by
  obtain ⟨setting, operation⟩ := step
  rcases ran : operation.work (setting.around system) ⟨system.store, system.accepted⟩ with
    ⟨error | answer, desk⟩
  · have failed : (system.perform setting operation).1 = .error error := by
      rw [perform_of_error ran]
    rw [after, unchanged_of_error sound failed, List.drop_length] at taken
    cases taken
  · rw [after, perform_of_ok ran] at taken ⊢
    have handed : ∀ id, operation.role id = .sending →
        Work.HandsOver id ⟨system.store, system.accepted⟩ desk →
        ∃ id file, operation.role id = .sending ∧ system.store.fileOf id = some file ∧
          file.Sends payload ∧ (payload.action ≠ .cancel →
            desk.store.packsOf id = system.store.packsOf id) := by
      intro id role handsOver
      obtain ⟨file, found, sends, packs⟩ := handsOver payload taken
      exact ⟨id, file, role, found, sends, packs⟩
    by_cases sends : operation.sends = true
    · cases operation
      case documentsSigned caseType id =>
        obtain ⟨_, signed, -⟩ := Work.map_eq_ok_iff.1 ran
        exact handed id (if_pos rfl) (Work.documentsSigned_handsOver sound signed)
      case revoke caseType id input =>
        obtain ⟨_, revoked, -⟩ := Work.map_eq_ok_iff.1 ran
        exact handed id (if_pos rfl) (Work.revoke_handsOver sound revoked)
      case resendLicence id =>
        obtain ⟨_, resent, -⟩ := Work.map_eq_ok_iff.1 ran
        exact handed id (if_pos rfl) (Work.resendLicence_handsOver sound resent)
      all_goals cases sends
    · have same :=
        (Operation.silent_work (eq_false_of_ne_true sends)).accepted ran
      simp only [same, List.drop_length] at taken
      cases taken

namespace CaseFile

variable {file after : CaseFile}

inductive Course (id : Nat) (file : CaseFile) (operation : Operation) (after : CaseFile) :
    Prop where
  | carried (varied : after.application.status = .variationRequested ↔
        file.application.status = .variationRequested)
      (unsettled : after.application.status.isSettled = false →
        file.application.status.isSettled = false)
      (live : after.packCount .active = file.packCount .active)
  | varied (status : after.application.status = .variationRequested)
      (live : file.application.isImport = true → after.packCount .active ≠ 0)
  | stopped (named : ∃ caseType, operation = .stop caseType id)
      (before : file.application.status.isSettled = false)
      (status : after.application.status = .stopped)
      (live : after.packCount .active = file.packCount .active)
  | settled (status : after.application.status.isSettled = true)

namespace Course

variable {id : Nat} {operation : Operation}

theorem carry (status : after.application.status = file.application.status)
    (packs : after.packs = file.packs) : Course id file operation after :=
  .carried (by rw [status]) (by rw [status]; exact fun unsettled => unsettled)
    (packCount_congr packs .active)

theorem advance (varied : after.application.status = .variationRequested ↔
      file.application.status = .variationRequested)
    (before : file.application.status.isSettled = false)
    (packs : after.packs = file.packs) : Course id file operation after :=
  .carried varied (fun _ => before) (packCount_congr packs .active)

end Course

theorem unsettled_of_open {status : CaseStatus} (stage : status ∈ openStates) :
    status.isSettled = false := by
  simp only [openStates, List.mem_cons, List.not_mem_nil, or_false] at stage
  rcases stage with rfl | rfl | rfl <;> rfl

theorem unsettled_of_processing {status : CaseStatus} (stage : status ∈ processingStates) :
    status.isSettled = false := unsettled_of_open (List.mem_cons_of_mem _ stage)

theorem packCount_archived (ordered : file.Ordered) {draft : Pack}
    (only : file.packs.filter (Pack.isIn .draft) = [draft]) :
    (file.changePack draft.id .archived).packCount .active = file.packCount .active := by
  obtain ⟨drafted, isDraft⟩ := mem_of_only only
  have put_away : draft.archived.status = .archived := rfl
  simpa using packCount_restatus ordered drafted isDraft _ put_away .active

theorem packCount_newDraft {pack id : Nat} {terms : LicenceUpdate} {now : Instant}
    (packs : after.packs = file.packs ++ [.drafted pack id terms now]) :
    after.packCount .active = file.packCount .active := by
  rw [packCount, packs, List.countP_append]
  rfl

theorem VariationTerms.in_force {application : Application} {terms : LicenceUpdate}
    (initial : file.VariationTerms application terms) (imported : application.isImport = true) :
    file.packCount .active = 1 := by
  rw [VariationTerms, if_pos imported] at initial
  obtain ⟨pack, only, -⟩ := initial
  exact packCount_of_only only

theorem Course.of_edit {context : Context} {id : Nat} {operation : Operation}
    {application : Application} (edit : Edit context id operation file application) :
    Course id file operation (file.put application) := by
  cases edit with
  | takeOwnership _ current =>
    refine .advance (Application.taken_varied_iff _) ?_ rfl
    have stage := current.status
    simp only [List.mem_cons, List.not_mem_nil, or_false] at stage
    rcases stage with stage | stage <;> rw [stage] <;> rfl
  | releaseOwnership _ current =>
    exact .advance Application.released_varied_iff (unsettled_of_open current.status) rfl
  | decision =>
    refine .carry ?_ rfl
    simp only [put_application, Application.withDecision]
    split <;> rfl
  | _ => exact .carry rfl rfl

theorem Course.of_move (ordered : file.Ordered) {context : Context} {id : Nat}
    {operation : Operation} (move : Move context id operation file after) :
    Course id file operation after := by
  cases move with
  | edit edit => exact .of_edit edit
  | startLicence _ current _ only =>
    refine .carried (Application.taken_varied_iff _) (fun _ => ?_)
      (packCount_update ordered (mem_of_only only).1 _ _)
    have stage := current.status
    simp only [List.mem_cons, List.not_mem_nil, or_false] at stage
    rcases stage with stage | stage <;> rw [stage] <;> rfl
  | editLicence _ _ _ _ only =>
    exact .carried Iff.rfl (fun unsettled => unsettled)
      (packCount_update ordered (mem_of_only only).1 _ _)
  | submit _ editing =>
    refine .advance (Application.afterSubmission_varied_iff _ _ _) ?_ (by simp)
    have stage := editing.status_mem
    simp only [List.mem_cons, List.not_mem_nil, or_false] at stage
    rcases stage with stage | stage | stage | stage <;> rw [stage] <;> rfl
  | refuseVariation | refuse | issueDocuments | revoke | revokeAtChief | approveLicence =>
    exact .settled rfl
  | approve _ current =>
    exact .advance (Application.authorising_varied_iff _) (unsettled_of_processing current.status)
      rfl
  | authoriseDocuments | sendDocuments | failSigning | retrySigning | addUpdateRequest
  | withdrawUpdateRequest | resendLicence | revertLicence => exact .carry rfl rfl
  | approveRevocation => exact .carry rfl (answer_packs _ _)
  | acceptWithdrawal _ stage _ only =>
    by_cases varied : file.application.status = .variationRequested
    · refine .settled ?_
      simp [Application.withdraw, Application.answerWithdrawal, varied, CaseStatus.isSettled]
    · refine .carried ?_ (fun _ => unsettled_of_open stage)
        ((packCount_congr rfl _).trans (packCount_archived ordered only))
      simp [Application.withdraw, Application.answerWithdrawal, varied]
  | rejectWithdrawal => exact .carry rfl (by simp)
  | stop _ current only =>
    exact .stopped ⟨_, rfl⟩ (unsettled_of_open current.status) rfl
      ((packCount_congr rfl _).trans (packCount_archived ordered only))
  | reopen _ stage =>
    simp only [List.mem_cons, List.not_mem_nil, or_false] at stage
    refine .carried ?_ (fun _ => ?_) ?_
    · rcases stage with stage | stage <;> simp [stage]
    · rcases stage with stage | stage <;> rw [stage] <;> rfl
    · exact packCount_newDraft rfl
  | requestVariation _ _ opened _ initial =>
    subst opened
    refine .varied rfl fun imported live => ?_
    have idle : file.packCount .active = 0 := (packCount_newDraft rfl).symm.trans live
    rw [initial.in_force imported] at idle
    cases idle
  | rejectLicence => exact .carry (by rw [answer_application]; rfl) (answer_packs _ _)

end CaseFile

structure System.StopsVariation (system : System) (step : Step) (id : Nat) : Prop where
  takes : system.Takes step
  asked : ∃ caseType, step.operation = .stop caseType id
  varied : ∃ application, system.store.applications.find? id = some application ∧
    application.status = .variationRequested

def System.Completes (system : System) (step : Step) (id : Nat) : Prop :=
  ∃ application, (system.after step).store.applications.find? id = some application ∧
    application.status = .completed

/-- The case has lost a variation that was stopped, and has not been completed since. -/
def LosesVariation (steps : List Step) (id : Nat) : Prop :=
  Since steps (System.StopsVariation · · id) (System.Completes · · id)

theorem losesVariation_append_iff {steps : List Step} {step : Step} {id : Nat} {file : CaseFile}
    (found : (System.initial.follow (steps ++ [step])).store.fileOf id = some file)
    (unsettled : file.application.status.isSettled = false) :
    LosesVariation (steps ++ [step]) id ↔
      (System.initial.follow steps).StopsVariation step id ∨ LosesVariation steps id := by
  have uncompleted : ¬ (System.initial.follow steps).Completes step id := by
    rintro ⟨application, stored, completed⟩
    rw [← System.follow_append, (Store.fileOf_eq_some_iff.1 found).1] at stored
    cases stored
    rw [completed] at unsettled
    cases unsettled
  rw [LosesVariation, since_append_iff, and_iff_left uncompleted, LosesVariation]

theorem System.StopsVariation.moves {system : System} {step : Step} {id : Nat}
    (sound : system.store.Sound) (stops : system.StopsVariation step id) :
    ∃ before after, system.Moves step id before after := by
  obtain ⟨caseType, asked⟩ := stops.asked
  exact stops.takes.moves sound (by rw [asked]; rfl)

theorem LosesVariation.stored {steps : List Step} {id : Nat} (loses : LosesVariation steps id) :
    ∃ file, (System.initial.follow steps).store.fileOf id = some file := by
  obtain ⟨before, step, rest, rfl, stops, -⟩ := loses
  obtain ⟨file, after, moves⟩ := stops.moves (System.sound_follow before)
  obtain ⟨application, stored, varied⟩ := stops.varied
  cases stored.symm.trans moves.stored
  exact CaseFile.exists_later before (step :: rest) moves.found (by rw [varied]; decide)

-- While a variation is requested a licence is in force. Before a case is complete there is one just
-- when a variation was stopped.
structure CaseFile.LiveFit (steps : List Step) (id : Nat) (file : CaseFile) : Prop where
  varied : file.application.status = .variationRequested → file.packCount .active ≠ 0
  unsettled : file.application.status ≠ .variationRequested →
    file.application.status.isSettled = false →
      (file.packCount .active ≠ 0 ↔ LosesVariation steps id)

namespace CaseFile

variable {file after : CaseFile} {steps : List Step} {step : Step} {id : Nat}

theorem not_stopsVariation (found : (System.initial.follow steps).store.fileOf id = some file)
    (unvaried : file.application.status ≠ .variationRequested) :
    ¬ (System.initial.follow steps).StopsVariation step id := by
  rintro ⟨-, -, application, stored, varied⟩
  rw [(Store.fileOf_eq_some_iff.1 found).1] at stored
  cases stored
  exact unvaried varied

theorem LiveFit.started {application : Application} {task pack : Nat} {now : Instant}
    (new : application.status = .inProgress)
    (missing : (System.initial.follow steps).store.fileOf id = none)
    (created : (System.initial.follow (steps ++ [step])).store.fileOf id =
      some (.started application task pack now)) :
    (CaseFile.started application task pack now).LiveFit (steps ++ [step]) id := by
  refine ⟨fun varied => ?_, fun _ unsettled => ?_⟩
  · cases new.symm.trans varied
  · rw [losesVariation_append_iff created unsettled]
    refine iff_of_false (fun live => live rfl) ?_
    rintro (stops | loses)
    · obtain ⟨application, stored, -⟩ := stops.varied
      obtain ⟨file, found, -⟩ := Store.exists_fileOf stored
      cases missing.symm.trans found
    · obtain ⟨file, found⟩ := loses.stored
      cases missing.symm.trans found

theorem LiveFit.kept (fit : file.LiveFit steps id)
    (before : (System.initial.follow steps).store.fileOf id = some file)
    (last : (System.initial.follow (steps ++ [step])).store.fileOf id = some file) :
    file.LiveFit (steps ++ [step]) id := by
  refine ⟨fit.varied, fun unvaried unsettled => ?_⟩
  rw [losesVariation_append_iff last unsettled,
    or_iff_right (not_stopsVariation before unvaried)]
  exact fit.unsettled unvaried unsettled

theorem LiveFit.moved (fit : file.LiveFit steps id)
    (moves : (System.initial.follow steps).Moves step id file after)
    (imported : file.application.isImport = true) : after.LiveFit (steps ++ [step]) id := by
  have last : (System.initial.follow (steps ++ [step])).store.fileOf id = some after := by
    rw [System.follow_append]
    exact moves.becomes
  cases Course.of_move moves.ordered moves.move with
  | carried varied unsettled live =>
    refine ⟨fun status => live ▸ fit.varied (varied.1 status), fun unvaried standing => ?_⟩
    have before := mt varied.2 unvaried
    rw [losesVariation_append_iff last standing, live,
      or_iff_right (not_stopsVariation moves.found before)]
    exact fit.unsettled before (unsettled standing)
  | varied status live => exact ⟨fun _ => live imported, fun unvaried => absurd status unvaried⟩
  | stopped named before status live =>
    refine ⟨fun varied => ?_, fun _ standing => ?_⟩
    · cases status.symm.trans varied
    · rw [losesVariation_append_iff last standing, live]
      by_cases varied : file.application.status = .variationRequested
      · refine iff_of_true (fit.varied varied) (.inl ⟨moves.takes, named, ?_⟩)
        exact ⟨file.application, moves.stored, varied⟩
      · rw [or_iff_right (not_stopsVariation moves.found varied)]
        exact fit.unsettled varied before
  | settled status =>
    refine ⟨fun varied => ?_, fun _ standing => ?_⟩
    · rw [varied] at status
      cases status
    · cases status.symm.trans standing

theorem live_fit (steps : List Step) {id : Nat} {file : CaseFile}
    (found : (System.initial.follow steps).store.fileOf id = some file)
    (imported : file.application.isImport = true) : file.LiveFit steps id := by
  refine file_history (fun steps id file => file.application.isImport = true →
    file.LiveFit steps id) ?_ ?_ ?_ steps found imported
  · exact fun _ _ _ _ _ _ missing created _ => .started rfl missing created
  · exact fun _ _ _ _ before last fit imported => (fit imported).kept before last
  · intro steps step id before after moves fit imported
    rw [Application.isImport_congr moves.move.processType_eq] at imported
    exact (fit imported).moved moves imported

end CaseFile

def Store.isLive (store : Store) (id : Nat) : Bool := (store.packsOf id).any (Pack.isIn .active)

theorem Store.isLive_iff {store : Store} {id : Nat} {file : CaseFile}
    (found : store.fileOf id = some file) :
    store.isLive id = true ↔ file.packCount .active ≠ 0 := by
  rw [isLive, (fileOf_eq_some_iff.1 found).2.2.1, List.any_eq_true, ← Nat.pos_iff_ne_zero,
    CaseFile.packCount, List.countP_pos_iff]

/-- Whenever the register takes a licence to be replaced there is one in force. When it takes one to
be inserted there is one in force just when the case has lost a variation that was stopped. The
packs of the case do not change while it is sent. -/
theorem inserted_live_iff (steps : List Step) (step : Step) {payload : LicencePayload}
    (taken : payload ∈ (System.initial.follow (steps ++ [step])).accepted.drop
      (System.initial.follow steps).accepted.length) :
    ∃ id application, step.operation.role id = .sending ∧
      (System.initial.follow steps).store.applications.find? id = some application ∧
      payload.caseReference = application.shownReference ∧
      (payload.action = .insert →
        ((System.initial.follow steps).store.isLive id = true ↔ LosesVariation steps id)) ∧
      (payload.action = .replace → (System.initial.follow steps).store.isLive id = true) ∧
      (payload.action ≠ .cancel → (System.initial.follow (steps ++ [step])).store.packsOf id =
        (System.initial.follow steps).store.packsOf id) := by
  rw [System.follow_append] at taken ⊢
  obtain ⟨id, file, role, found, sends, packs⟩ :=
    System.sent_after (System.sound_follow steps) taken
  have fit := CaseFile.live_fit steps found sends.imported
  refine ⟨id, file.application, role, (Store.fileOf_eq_some_iff.1 found).1, sends.reference,
    fun inserted => ?_, fun replaced => ?_, packs⟩
  · rcases sends.action with cancelled | ⟨stage, action⟩
    · cases inserted.symm.trans cancelled
    · rw [Store.isLive_iff found]
      refine fit.unsettled (fun varied => ?_) (CaseFile.unsettled_of_processing stage)
      rw [if_pos varied] at action
      cases inserted.symm.trans action
  · rcases sends.action with cancelled | ⟨-, action⟩
    · cases replaced.symm.trans cancelled
    · refine (Store.isLive_iff found).2 (fit.varied ?_)
      by_contra unvaried
      rw [if_neg unvaried] at action
      cases replaced.symm.trans action

namespace Sample

-- A licence in force is varied, the variation is stopped, and the reopened case is authorised.
def reopened : List Step :=
  let varied : List Operation :=
    [.approveLicence 1, .requestVariation .importing 1 user "end date", .stop .importing 1]
  let worked : List Operation :=
    [.reopen .importing 1, .takeOwnership .importing 1 user,
      .editLicence .importing 1 ⟨none, some ⟨2025, 9, 30, by decide⟩, some false⟩,
      .startAuthorisation .importing 1 user, .authoriseDocuments .importing 1 user]
  (handedOver ++ varied ++ worked).map (step true)

theorem reopened_inserted :
    ∃ payload ∈ (System.initial.follow (reopened ++ [signedAgain])).accepted.drop
        (System.initial.follow reopened).accepted.length,
      payload.action = .insert ∧
        (System.initial.follow reopened).store.isLive 1 = true ∧
        ∃ application ∈ (System.initial.follow reopened).store.applications.rows,
          application.id = 1 ∧ payload.caseReference = application.shownReference := by
  decide +kernel

end Sample

theorem reopened_loses_variation : LosesVariation Sample.reopened 1 := by
  obtain ⟨payload, taken, inserted, live, -⟩ := Sample.reopened_inserted
  obtain ⟨id, -, role, -, -, insert, -⟩ :=
    inserted_live_iff Sample.reopened Sample.signedAgain taken
  obtain ⟨rfl, -⟩ := ite_ne_right_iff.1 (ne_of_eq_of_ne role (by decide))
  exact (insert inserted).1 live

/-- Not every licence is inserted while none is in force: a case whose variation was stopped and
that is reopened has its licence inserted a second time. -/
theorem reopened_inserted_again :
    ¬ ∀ system, Reachable system → ∀ setting operation payload,
      payload ∈ (system.perform setting operation).2.accepted.drop system.accepted.length →
      payload.action = .insert → ∀ application ∈ system.store.applications.rows,
        payload.caseReference = application.shownReference →
          system.store.isLive application.id = false := by
  intro fresh
  obtain ⟨payload, taken, inserted, live, application, stored, number, reference⟩ :=
    Sample.reopened_inserted
  rw [System.follow_append, System.after] at taken
  have idle := fresh _ (reachable_iff.2 ⟨Sample.reopened, rfl⟩) _ _ payload taken inserted
    application stored reference
  rw [number, live] at idle
  cases idle

end Casework
