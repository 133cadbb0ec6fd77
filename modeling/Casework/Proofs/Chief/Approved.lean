import Casework.Proofs.Chief.Sent

set_option autoImplicit false

namespace Casework

open Calendar
open Numbered (number)

namespace CaseFile

variable {file : CaseFile}

structure Describes (file : CaseFile) (draft : Pack) (payload : LicencePayload) : Prop where
  only : file.packs.filter (Pack.isIn .draft) = [draft]
  starts : draft.startDate = payload.startDate
  ends : draft.endDate = payload.endDate
  licence : (file.licenceOf draft.id).bind (·.reference) = some payload.licenceReference
  named : file.application.reference = some payload.caseReference

def Agrees (file : CaseFile) (payload : LicencePayload) : Prop :=
  ∃ draft, file.Describes draft payload

theorem Agrees.carry {payload : LicencePayload} {after : CaseFile} (agrees : file.Agrees payload)
    (packs : after.packs = file.packs) (documents : after.documents = file.documents)
    (reference : ∀ given, file.application.reference = some given →
      after.application.reference = some given) : after.Agrees payload := by
  obtain ⟨draft, describes⟩ := agrees
  refine ⟨draft, ?_, describes.starts, describes.ends, ?_, reference _ describes.named⟩
  · rw [packs]
    exact describes.only
  · rw [licenceOf_congr documents]
    exact describes.licence

theorem awaited_congr {other : CaseFile} (same : file.requests = other.requests) :
    file.awaited = other.awaited := by
  rw [awaited, awaited, same]

section Send

variable {context : Context} {application : Application} {revoke : Bool} {requestId taskId : Nat}
  {previous : Option Nat}

theorem awaited_send_error {error : ChiefError}
    (failed : file.outcome context application revoke = .error error) :
    (file.send context application revoke requestId taskId previous).awaited = file.awaited := by
  rw [awaited, send_requests, failed, List.filter_append]
  simp [awaited, Work.requestOf]

theorem awaited_send_ok {sent : Option LicencePayload}
    (succeeded : file.outcome context application revoke = .ok sent) :
    (file.send context application revoke requestId taskId previous).awaited =
      some (Work.requestOf requestId application context.now (.ok sent)) := by
  rw [awaited, send_requests, succeeded, List.filter_append]
  simp [Work.requestOf]

theorem payload_of_outcome {payload : LicencePayload}
    (succeeded : file.outcome context application revoke = .ok (some payload)) :
    file.payload application revoke = .ok payload := by
  unfold outcome at succeeded
  split at succeeded
  · cases built : file.payload application revoke with
    | error error =>
      rw [built] at succeeded
      cases succeeded
    | ok found =>
      rw [built] at succeeded
      cases refused : context.transport found with
      | some reason =>
        simp only [refused] at succeeded
        cases succeeded
      | none =>
        simp only [refused] at succeeded
        cases succeeded
        rfl
  · cases succeeded

theorem payload_eq_ok {payload : LicencePayload}
    (built : file.payload application revoke = .ok payload) :
    ∃ licenceType pack licenceReference,
      ChiefLicenceType.of? application.processType = some licenceType ∧
      file.packs.filter (Pack.isIn (if revoke then .revoked else .draft)) = [pack] ∧
      (file.licenceOf pack.id).bind (·.reference) = some licenceReference ∧
      payload =
        { action :=
            if revoke then .cancel
            else if application.status = .variationRequested then .replace
            else .insert
          licenceType, licenceReference
          caseReference := application.shownReference
          organisation := application.organisation
          startDate := pack.startDate
          endDate := pack.endDate } := by
  unfold CaseFile.payload at built
  cases kind : ChiefLicenceType.of? application.processType with
  | none =>
    rw [kind] at built
    cases built
  | some licenceType =>
    rw [kind] at built
    cases single : file.singlePack (if revoke then .revoked else .draft) with
    | error missing =>
      simp only [single] at built
      cases built
    | ok pack =>
      simp only [single, mapError_ok, bind, Except.bind] at built
      cases licence : (file.licenceOf pack.id).bind (·.reference) with
      | none =>
        rw [licence] at built
        cases built
      | some reference =>
        rw [licence] at built
        cases built
        exact ⟨licenceType, pack, reference, rfl, singlePack_eq_ok_iff.1 single, licence, rfl⟩

theorem describes_of_payload {payload : LicencePayload}
    (built : file.payload application false = .ok payload)
    (named : application.reference.isSome = true)
    (same : file.application.reference = application.reference) : file.Agrees payload := by
  obtain ⟨licenceType, draft, reference, -, only, licence, rfl⟩ := payload_eq_ok built
  refine ⟨draft, only, rfl, rfl, licence, ?_⟩
  obtain ⟨given, assigned⟩ := Option.isSome_iff_exists.1 named
  simp [same, Application.shownReference, assigned]

end Send

structure Awaits (file : CaseFile) (request : ChiefRequest) : Prop where
  standing : file.application.status ≠ .revoked
  one : file.load .chiefWait = 1
  request : file.awaited = some request

inductive Flight (file after : CaseFile) (id : Nat) (request : ChiefRequest)
    (payload : LicencePayload) : Operation → Prop where
  | kept {operation : Operation} (before : file.Awaits request)
      (agrees : file.Agrees payload → after.Agrees payload) :
      Flight file after id request payload operation
  | edited {caseType : CaseType} {changes : LicenceUpdate} (before : file.Awaits request) :
      Flight file after id request payload (.editLicence caseType id changes)
  | authorised {caseType : CaseType} {user : User} (before : file.Awaits request) :
      Flight file after id request payload (.startAuthorisation caseType id user)
  | sent {operation : Operation} (agrees : after.Agrees payload) :
      Flight file after id request payload operation

theorem Awaits.of_same {after : CaseFile} {request : ChiefRequest} (awaits : after.Awaits request)
    (standing : file.application.status ≠ .revoked)
    (loads : after.load .chiefWait = file.load .chiefWait)
    (requests : after.requests = file.requests) :
    file.Awaits request :=
  ⟨standing, loads ▸ awaits.one, awaited_congr requests ▸ awaits.request⟩

namespace Flight

variable {after : CaseFile} {id : Nat} {request : ChiefRequest} {payload : LicencePayload}
  {operation : Operation}

theorem carry (awaits : after.Awaits request) (standing : file.application.status ≠ .revoked)
    (loads : after.load .chiefWait = file.load .chiefWait)
    (requests : after.requests = file.requests)
    (packs : after.packs = file.packs) (documents : after.documents = file.documents)
    (reference : ∀ given, file.application.reference = some given →
      after.application.reference = some given) :
    file.Flight after id request payload operation :=
  .kept (awaits.of_same standing loads requests) fun agrees =>
    agrees.carry packs documents reference

theorem send {base : CaseFile} {context : Context} {requestId taskId : Nat} {previous : Option Nat}
    (awaits : (base.send context file.application false requestId taskId previous).Awaits request)
    (carries : request.payload = some payload) (named : file.application.reference.isSome = true)
    (application : base.application = file.application)
    (loads : base.load .chiefWait = file.load .chiefWait) (requests : base.requests = file.requests)
    (packs : base.packs = file.packs) (documents : base.documents = file.documents) :
    file.Flight (base.send context file.application false requestId taskId previous)
      id request payload
      operation := by
  have standing : file.application.status ≠ .revoked := by
    rw [← application]
    exact awaits.standing
  cases result : base.outcome context file.application false with
  -- A sending that fails opens no wait, so the request that waits is an earlier one.
  | error error =>
    have one := awaits.one
    have waiting := awaits.request
    rw [load_send, result, Work.followingTask, if_neg (by decide), Nat.add_zero, loads] at one
    rw [awaited_send_error result, awaited_congr requests] at waiting
    refine .kept ⟨standing, one, waiting⟩ fun agrees => agrees.carry ?_ ?_ fun given assigned => ?_
    · rw [send_packs, packs]
    · rw [send_documents, documents]
    · rw [send_application, application]
      exact assigned
  | ok sent =>
    have waiting := awaits.request
    rw [awaited_send_ok result, Option.some.injEq] at waiting
    subst waiting
    cases carries
    refine .sent ((describes_of_payload (payload_of_outcome result) named (by
      rw [application])).carry
      rfl rfl fun given assigned => assigned)

end Flight

structure Settled (file : CaseFile) : Prop where
  ordered : file.Ordered
  packs : file.PacksFit
  tasks : file.TasksFit
  named : file.application.status ≠ .inProgress → file.application.reference.isSome = true
  goes : file.load .chiefWait ≠ 0 → file.application.goesToChief = true
  dated : file.Dated

theorem settled (steps : List Step) {id : Nat} {file : CaseFile}
    (found : (System.initial.follow steps).store.fileOf id = some file) : file.Settled :=
  ⟨Store.ordered_of_fileOf found, packs_fit steps found, tasks_fit steps found, named steps found,
    goes steps found rfl, dated steps found⟩

theorem Agrees.start_set {payload : LicencePayload} (agrees : file.Agrees payload)
    (dated : file.Dated) (imported : file.application.isImport = true) {draft : Pack}
    (only : file.packs.filter (Pack.isIn .draft) = [draft]) : draft.startDate.isSome = true := by
  obtain ⟨sent, describes⟩ := agrees
  have same : sent = draft := by simpa [describes.only] using only
  obtain ⟨member, isDraft⟩ := mem_of_only describes.only
  have licensed : (file.licenceOf sent.id).isSome = true := by
    have licence := describes.licence
    cases found : file.licenceOf sent.id with
    | none =>
      rw [found] at licence
      cases licence
    | some document => rfl
  exact same ▸ dated imported sent member isDraft licensed

theorem not_agrees {payload : LicencePayload} (packs : file.PacksFit)
    (idle : file.application.status.hasDraft = false) : ¬ file.Agrees payload := by
  rintro ⟨draft, describes⟩
  have counted := packCount_of_only describes.only
  rw [packs.draft, idle] at counted
  cases counted

theorem Flight.of_move (settled : file.Settled) {context : Context} {id : Nat}
    {operation : Operation} {after : CaseFile} (move : Move context id operation file after)
    {request : ChiefRequest} {payload : LicencePayload} (awaits : after.Awaits request)
    (carries : request.payload = some payload) :
    file.Flight after id request payload operation := by
  have ordered := settled.ordered
  have one := awaits.one
  have standing := awaits.standing
  cases move with
  | edit edit =>
    refine .carry awaits ?_ rfl rfl rfl rfl fun given assigned => edit.reference_eq.trans assigned
    rcases edit.status_cases with same | ⟨before, -⟩
    · rw [← same]
      exact standing
    · exact (not_givenUp_of_open before).2.2
  | startLicence _ current imported only unset =>
    have stage := current.status
    refine .kept (awaits.of_same ?_ rfl rfl) fun agrees => ?_
    · rintro revoked
      simp [revoked] at stage
    -- A licence that was sent has its document, and so its start date.
    · have start_set := agrees.start_set settled.dated imported only
      rw [unset] at start_set
      cases start_set
  | editLicence => exact .edited (awaits.of_same standing rfl rfl)
  | submit _ editing _ only _ kept =>
    refine .carry awaits (not_givenUp_of_editing editing).2 ?_ ?_ ?_ ?_ fun given assigned => ?_
    · simp [load_finish ordered only]
    · simp
    · simp
    · simp
    · exact congrArg some (kept given assigned)
  | refuseVariation _ current =>
    refine .authorised (awaits.of_same (not_givenUp_of_processing current.status).2.2 ?_ rfl)
    simp [load_finish ordered current.only]
  | refuse _ current =>
    refine .authorised (awaits.of_same (not_givenUp_of_processing current.status).2.2 ?_ rfl)
    simp [load_finish ordered current.only]
  | approve _ current =>
    refine .authorised (awaits.of_same (not_givenUp_of_processing current.status).2.2 ?_ rfl)
    simp [load_finish ordered current.only]
  | authoriseDocuments _ current =>
    refine .carry awaits standing ?_ rfl rfl rfl fun _ assigned => assigned
    simp [load_finish ordered current.only]
  | sendDocuments _ current =>
    have stage := not_givenUp_of_processing current.status
    refine .send awaits carries (settled.named stage.2.1) rfl ?_ rfl rfl rfl
    simp [load_finish ordered current.only]
  | issueDocuments _ current kept =>
    simp only [load_put, load_issue, load_finish ordered current.only, reduceCtorEq, if_false]
      at one
    -- A case that waits at the register is not issued past it.
    have goes := settled.goes (by omega)
    rw [kept] at goes
    cases goes
  | failSigning _ current =>
    refine .carry awaits standing ?_ rfl rfl rfl fun _ assigned => assigned
    simp [load_finish ordered current.only]
  | retrySigning _ current =>
    refine .carry awaits standing ?_ rfl rfl rfl fun _ assigned => assigned
    simp [load_finish ordered current.only]
  | acceptWithdrawal => simp at one
  | rejectWithdrawal _ stage =>
    refine .carry awaits (not_givenUp_of_open stage).2.2 ?_ ?_ ?_ ?_ fun _ assigned => ?_
    · simp
    · simp
    · simp
    · simp
    · exact assigned
  | stop => simp at one
  | reopen _ stage =>
    have idle := settled.tasks.givenUp (isGivenUp_of_reopenable stage) .chiefWait
    simp [idle] at one
  | revoke => exact absurd rfl standing
  | revokeAtChief => exact absurd rfl standing
  | requestVariation _ stage =>
    refine .kept (awaits.of_same ?_ ?_ rfl) fun agrees => ?_
    · rw [stage]
      decide
    · simp
    -- A completed case has no draft that a payload could describe.
    · refine absurd agrees (not_agrees settled.packs ?_)
      rw [stage]
      rfl
  | addUpdateRequest =>
    refine .carry awaits standing ?_ rfl rfl rfl fun _ assigned => assigned
    simp
  | withdrawUpdateRequest _ _ _ _ only =>
    refine .carry awaits standing ?_ rfl rfl rfl fun _ assigned => assigned
    simp [load_finish ordered only]
  | approveLicence current => simp [load_finish ordered current.only] at one
  | approveRevocation current => exact absurd (List.mem_singleton.1 current.status) standing
  | rejectLicence current =>
    rw [answer_application, addTask_application, finish_application] at standing
    have waited : (awaitedReply file.application.status).2 = .chiefWait := by
      rw [awaitedReply, if_neg standing]
    simp [load_finish ordered current.only, waited] at one
  | resendLicence current =>
    rw [send_application, finish_application] at standing
    have unrevoked : (file.application.status == .revoked) = false := beq_eq_false_iff_ne.2 standing
    have stage := current.status
    rw [if_neg standing] at stage
    rw [unrevoked] at awaits ⊢
    refine .send awaits carries (settled.named (not_givenUp_of_processing stage).2.1)
      rfl ?_ rfl rfl rfl
    simp [load_finish ordered current.only]
  | revertLicence current =>
    refine .carry awaits standing ?_ rfl rfl rfl fun _ assigned => assigned
    simp [load_finish ordered current.only]

end CaseFile

structure Store.Drafts (store : Store) (id : Nat) (payload : LicencePayload) : Prop where
  draft : ∃ draft, store.draftPack id = .ok draft ∧ draft.startDate = payload.startDate ∧
    draft.endDate = payload.endDate ∧
    (store.licenceOf draft.id).bind (·.reference) = some payload.licenceReference
  named : (store.applications.find? id).bind (·.reference) = some payload.caseReference

theorem Store.Drafts.agrees {store : Store} {id : Nat} {file : CaseFile} {payload : LicencePayload}
    (drafts : store.Drafts id payload) (found : store.fileOf id = some file) :
    file.Agrees payload := by
  obtain ⟨⟨draft, looked, starts, ends, licence⟩, named⟩ := drafts
  rw [draftPack, singlePack_eq found] at looked
  have only := CaseFile.singlePack_eq_ok_iff.1 looked
  rw [licenceOf_eq found (CaseFile.mem_of_only only).1] at licence
  rw [(fileOf_eq_some_iff.1 found).1] at named
  exact ⟨draft, only, starts, ends, licence, named⟩

/-- While a request waits for its reply, the step changes the licence of the draft or starts to
authorise it, and leaves a draft that is not what the request sent. -/
structure System.Disturbs (system : System) (step : Step) (id requestId : Nat)
    (payload : LicencePayload) : Prop where
  asked : (∃ caseType changes, step.operation = .editLicence caseType id changes) ∨
    ∃ caseType user, step.operation = .startAuthorisation caseType id user
  takes : system.Takes step
  waiting : ∃ request, system.store.awaitedRequest id = some request ∧ request.id = requestId
  differs : ¬ (system.after step).store.Drafts id payload

theorem CaseFile.sent_or_disturbed (steps : List Step) {id : Nat} {file : CaseFile}
    (found : (System.initial.follow steps).store.fileOf id = some file) {request : ChiefRequest}
    (awaits : file.Awaits request) {payload : LicencePayload}
    (carries : request.payload = some payload) :
    file.Agrees payload ∨
      Earlier steps fun system step => system.Disturbs step id request.id payload := by
  refine file_invariant (fun steps id file => file.Awaits request →
    file.Agrees payload ∨
      Earlier steps fun system step => system.Disturbs step id request.id payload)
    ?_ ?_ ?_ steps found
    awaits
  · intro _ _ _ _ _ _ awaits
    have one := awaits.one
    rw [load_started] at one
    cases one
  · exact fun _ step _ _ accounted awaits => (accounted awaits).imp_right (·.more [step])
  · intro steps step id before after moves accounted awaits
    have flight := Flight.of_move (settled steps moves.found) moves.move awaits carries
    -- A step that works on the draft may still leave it as it was sent.
    have worked_on : before.Awaits request →
        ((∃ caseType changes, step.operation = .editLicence caseType id changes) ∨
          ∃ caseType user, step.operation = .startAuthorisation caseType id user) →
        after.Agrees payload ∨ Earlier (steps ++ [step]) fun system step =>
          system.Disturbs step id request.id payload := by
      intro awaits asked
      by_cases agrees : after.Agrees payload
      · exact .inl agrees
      · have waiting := (Store.awaitedRequest_eq moves.found).trans awaits.request
        exact .inr (earlier_last ⟨asked, moves.takes, ⟨request, waiting, rfl⟩, fun drafts =>
          agrees (drafts.agrees moves.becomes)⟩)
    generalize asked : step.operation = operation at flight
    cases flight with
    | kept before agrees =>
      rcases accounted before with same | disturbed
      · exact .inl (agrees same)
      · exact .inr (disturbed.more [step])
    | edited before => exact worked_on before (.inl ⟨_, _, asked⟩)
    | authorised before => exact worked_on before (.inr ⟨_, _, asked⟩)
    | sent agrees => exact .inl agrees

namespace CaseFile

variable {file : CaseFile}

theorem mem_answer
    (ordered : file.requests.Pairwise fun earlier later => number earlier < number later)
    {change : ChiefRequest → ChiefRequest}
    {request : ChiefRequest} (member : request ∈ (file.answer change).requests) :
    request ∈ file.requests ∨
      ∃ waiting, file.awaited = some waiting ∧ request = change waiting := by
  unfold answer at member
  cases looked : file.awaited with
  | none =>
    rw [looked] at member
    exact .inl member
  | some waiting =>
    rw [looked] at member
    obtain ⟨row, row_mem, rfl⟩ := Table.mem_changeAt.1 member
    have waiting_mem : waiting ∈ file.requests :=
      (List.mem_filter.1 (List.mem_of_getLast? looked)).1
    split
    next same =>
      let table : Table ChiefRequest := ⟨file.requests, ordered⟩
      rw [table.eq_of_number_eq row_mem waiting_mem same]
      exact .inr ⟨waiting, rfl, rfl⟩
    next => exact .inl row_mem

structure Approval (file after : CaseFile) (draft : Pack) (now : Instant) : Prop where
  task : ∃ task, file.Current processingStates .chiefWait task
  only : file.packs.filter (Pack.isIn .draft) = [draft]
  issued : after.packs.filter (Pack.isIn .active) =
    [draft.issued file.application.reference now]
  documents : after.documents = file.documents
  requests : ∀ request ∈ after.requests, request ∈ file.requests ∨
    ∃ waiting, file.awaited = some waiting ∧ request = waiting.completed now

theorem Approval.of_move (ordered : file.Ordered) (standing : file.application.status ≠ .revoked)
    {context : Context} {id : Nat} {after : CaseFile}
    (move : Move context id (.approveLicence id) file after) :
    ∃ draft, file.Approval after draft context.now := by
  cases move with
  | edit edit => cases edit
  | @approveLicence _ task draft earlier current only before =>
    refine ⟨draft, ⟨task, current⟩, only, ?_, ?_, fun request member => ?_⟩
    · rw [put_packs, answer_packs, finish_issue_packs]
      exact active_of_issue ordered only before file.application.reference context.now
    · rw [put_documents, answer_documents, issue_documents, finish_documents]
    · have kept : (((file.finish task.id none context.now).issue draft earlier
          file.application.reference context.now)).requests = file.requests := by
        rw [issue_requests, finish_requests]
      rw [put_requests] at member
      have answered := mem_answer ?_ member
      · rwa [awaited_congr kept, kept] at answered
      · rw [kept]
        exact ordered.requests
  | approveRevocation current => exact absurd (List.mem_singleton.1 current.status) standing

end CaseFile

structure Store.Licenses (store : Store) (pack : Pack) (payload : LicencePayload) : Prop where
  starts : pack.startDate = payload.startDate
  ends : pack.endDate = payload.endDate
  licence : ∃ document, store.licenceOf pack.id = some document ∧
    document.reference = some payload.licenceReference
  named : pack.caseReference = some payload.caseReference

theorem CaseFile.Approval.licenses {store : Store} {id : Nat} {file after : CaseFile} {draft : Pack}
    {now : Instant} (approval : file.Approval after draft now)
    (found : store.fileOf id = some after)
    {payload : LicencePayload} (agrees : file.Agrees payload) :
    store.Licenses (draft.issued file.application.reference now) payload := by
  obtain ⟨sent, describes⟩ := agrees
  have same : sent = draft := by simpa [describes.only] using approval.only
  subst same
  refine ⟨describes.starts, describes.ends, ?_, describes.named⟩
  have member := (CaseFile.mem_of_only approval.issued).1
  obtain ⟨document, licence, reference⟩ := Option.bind_eq_some_iff.1 describes.licence
  refine ⟨document, ?_, reference⟩
  rw [Store.licenceOf_eq found member, CaseFile.licenceOf_congr approval.documents]
  exact licence

/-- An approval of a case that is not revoked issues its draft. If the request that it answers
carries a payload, the pack is the licence that the payload describes, unless the draft was made
unlike it while the request was waiting. -/
theorem approved_or_disturbed (steps : List Step) (setting : Setting) (id : Nat)
    {application : Application} {answered : ChiefRequest} {payload : LicencePayload}
    (taken : (System.initial.follow steps).Takes ⟨setting, .approveLicence id⟩)
    (stored : (System.initial.follow steps).store.applications.find? id = some application)
    (standing : application.status ≠ .revoked)
    (marked : answered ∈
      ((System.initial.follow steps).after ⟨setting, .approveLicence id⟩).store.requestsOf id)
    (succeeded : answered.status = .success)
    (unmarked : ∀ request ∈ (System.initial.follow steps).store.requestsOf id,
      request.id = answered.id → request.status ≠ .success)
    (carries : answered.payload = some payload) :
    ∃ draft pack, (System.initial.follow steps).store.draftPack id = .ok draft ∧
      ((System.initial.follow steps).after ⟨setting, .approveLicence id⟩).store.activePack id =
        .ok pack ∧ pack.id = draft.id ∧
      (((System.initial.follow steps).after ⟨setting, .approveLicence id⟩).store.Licenses pack
          payload ∨
        Earlier steps fun system step => system.Disturbs step id answered.id payload) := by
  have sound := System.sound_follow steps
  obtain ⟨file, found, rfl⟩ := Store.exists_fileOf stored
  have ordered := Store.ordered_of_fileOf found
  rcases System.after_cases sound ⟨setting, .approveLicence id⟩ with ⟨refused, -⟩ | ⟨-, changes⟩
  · exact absurd taken refused
  · have change := changes.files id
    rw [found] at change
    generalize final : ((System.initial.follow steps).after
      ⟨setting, .approveLicence id⟩).store.fileOf id = last at change
    cases change with
    -- Some request was marked, so the file has changed.
    | same =>
      rw [(Store.fileOf_eq_some_iff.1 final).2.2.2.2,
        ← (Store.fileOf_eq_some_iff.1 found).2.2.2.2] at marked
      exact absurd succeeded (unmarked answered marked rfl)
    | removed named => cases named
    | @moved _ after move =>
      obtain ⟨draft, approval⟩ := CaseFile.Approval.of_move ordered standing move
      rw [(Store.fileOf_eq_some_iff.1 final).2.2.2.2] at marked
      refine ⟨draft, draft.issued file.application.reference _,
        Store.draftPack_of_only found approval.only,
        Store.activePack_of_only final approval.issued, rfl, ?_⟩
      rcases approval.requests answered marked with old | ⟨waiting, awaited, rfl⟩
      · rw [(Store.fileOf_eq_some_iff.1 found).2.2.2.2] at unmarked
        exact absurd succeeded (unmarked answered old rfl)
      · obtain ⟨task, current⟩ := approval.task
        have awaits : file.Awaits waiting := ⟨standing, CaseFile.load_of_only current.only, awaited⟩
        have accounted := CaseFile.sent_or_disturbed steps found awaits carries
        exact accounted.imp_left (approval.licenses final)

namespace Sample

def december (year : Int) (isDay : IsDay year 12 31) : Option Date := some ⟨year, 12, 31, isDay⟩

-- The licence of a case is sent, and while the request is waiting the end of the licence is put
-- off: a withdrawal that is refused gives the task back that this needs.
def lateEdit : List Step :=
  let started : List Operation :=
    [.create user ⟨.deactivatedFirearms, user, "Acme Ltd", none, none,
        some (.firearms ⟨some "Norway", some "Belgium", some .chapter93⟩)⟩,
      .submit .importing 1 user,
      .takeOwnership .importing 1 user,
      .editLicence .importing 1 ⟨none, december 2024 (by decide), some false⟩]
  let sent : List Operation :=
    [.authoriseDocuments .importing 1 user, .documentsSigned .importing 1]
  let edited : List Operation := [.editLicence .importing 1 ⟨none, december 2030 (by decide), none⟩]
  (started ++ approval .importing ++ sent ++ refusedWithdrawal .importing ++ edited).map (step true)

def approved : Step := step true (.approveLicence 1)

theorem lateEdit_answered :
    ∃ application ∈ (System.initial.follow lateEdit).store.applications.rows,
      application.id = 1 ∧ application.status ≠ .revoked ∧
      ∃ answered ∈ ((System.initial.follow lateEdit).after approved).store.requestsOf 1,
        answered.status = .success ∧
        (∀ request ∈ (System.initial.follow lateEdit).store.requestsOf 1,
          request.id = answered.id → request.status ≠ .success) ∧
        answered.payload.map (·.endDate) = some (december 2024 (by decide)) := by
  decide +kernel

theorem lateEdit_taken : (System.initial.follow lateEdit).Takes approved :=
  System.takes_of_isOk (by decide +kernel)

theorem lateEdit_issued :
    (((System.initial.follow lateEdit).after approved).store.activePack 1).toOption.map
      (·.endDate) =
      some (december 2030 (by decide)) := by
  decide +kernel

end Sample

theorem lateEdit_accounted :
    ∃ answered payload draft pack, ChiefRequest.payload answered = some payload ∧
      (System.initial.follow Sample.lateEdit).store.draftPack 1 = .ok draft ∧
      ((System.initial.follow Sample.lateEdit).after Sample.approved).store.activePack 1 =
        .ok pack ∧
      pack.id = draft.id ∧
      (((System.initial.follow Sample.lateEdit).after Sample.approved).store.Licenses pack payload ∨
        Earlier Sample.lateEdit fun system step => system.Disturbs step 1 answered.id payload) := by
  obtain ⟨application, stored, number, standing, answered, marked, succeeded, unmarked, carries⟩ :=
    Sample.lateEdit_answered
  obtain ⟨payload, sent, -⟩ := Option.map_eq_some_iff.1 carries
  obtain ⟨draft, pack, drafted, active, same, accounted⟩ :=
    approved_or_disturbed Sample.lateEdit Sample.approved.setting 1 Sample.lateEdit_taken
      (Table.find?_eq_some_iff.2 ⟨stored, number⟩) standing marked succeeded unmarked sent
  exact ⟨answered, payload, draft, pack, sent, drafted, active, same, accounted⟩

theorem approved_unlike_sent :
    ¬ ∀ (steps : List Step) (setting : Setting) (id : Nat) (application : Application)
        (answered : ChiefRequest) (payload : LicencePayload),
      (System.initial.follow steps).Takes ⟨setting, .approveLicence id⟩ →
      (System.initial.follow steps).store.applications.find? id = some application →
      application.status ≠ .revoked →
      answered ∈
        ((System.initial.follow steps).after ⟨setting, .approveLicence id⟩).store.requestsOf id →
      answered.status = .success →
      (∀ request ∈ (System.initial.follow steps).store.requestsOf id,
        request.id = answered.id → request.status ≠ .success) →
      answered.payload = some payload →
      ∃ pack,
        ((System.initial.follow steps).after ⟨setting, .approveLicence id⟩).store.activePack id =
          .ok pack ∧
        ((System.initial.follow steps).after ⟨setting, .approveLicence id⟩).store.Licenses pack
          payload := by
  intro issues
  obtain ⟨application, stored, number, standing, answered, marked, succeeded, unmarked, carries⟩ :=
    Sample.lateEdit_answered
  obtain ⟨payload, sent, ends⟩ := Option.map_eq_some_iff.1 carries
  obtain ⟨pack, active, licenses⟩ := issues Sample.lateEdit Sample.approved.setting 1 application
    answered payload Sample.lateEdit_taken (Table.find?_eq_some_iff.2 ⟨stored, number⟩)
    standing marked succeeded unmarked sent
  have issued := Sample.lateEdit_issued
  have looked : ((System.initial.follow Sample.lateEdit).after Sample.approved).store.activePack 1 =
      .ok pack := active
  rw [looked] at issued
  have apart := (Option.some.inj issued).symm.trans (licenses.ends.trans ends)
  exact absurd apart (by decide)

end Casework
