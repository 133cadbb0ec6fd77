import Casework.Proofs.CaseFile.Run
import Casework.Proofs.Work.Plain

set_option autoImplicit false

namespace Casework

open Calendar
open Numbered (number)

def Store.sent (store : Store) : List (Nat × Option LicencePayload) :=
  store.requests.rows.map fun request => (request.id, request.payload)

namespace Desk

structure SameOutbox (desk after : Desk) : Prop where
  accepted : after.accepted = desk.accepted
  sent : after.store.sent = desk.store.sent
  lastRequest : after.store.lastRequest = desk.store.lastRequest

def Numbered (desk : Desk) : Prop := ∀ entry ∈ desk.store.sent, entry.1 ≤ desk.store.lastRequest

variable {first second third : Desk}

theorem SameOutbox.trans (before : first.SameOutbox second) (rest : second.SameOutbox third) :
    first.SameOutbox third where
  accepted := rest.accepted.trans before.accepted
  sent := rest.sent.trans before.sent
  lastRequest := rest.lastRequest.trans before.lastRequest

theorem SameOutbox.numbered (same : first.SameOutbox second) (numbered : first.Numbered) :
    second.Numbered := by
  unfold Numbered
  rw [same.sent, same.lastRequest]
  exact numbered

theorem Undisturbed.sameOutbox (undisturbed : first.Undisturbed second) :
    first.SameOutbox second where
  accepted := undisturbed.accepted
  sent := by rw [Store.sent, undisturbed.requests, Store.sent]
  lastRequest := undisturbed.lastRequest

end Desk

namespace Work

variable {α β : Type}

def Silent (work : Work α) : Prop := Within Desk.SameOutbox (fun _ => True) work

theorem Plain.silent {work : Work α} (plain : Plain work) : Silent work :=
  Within.mono plain (·.sameOutbox) fun _ => trivial

theorem Touches.silent {parts : List Part} {work : Work α} (touches : Touches parts work)
    (apart : Part.outbox ∉ parts ∧ Part.requests ∉ parts) : Silent work := by
  refine Within.mono touches (fun kept => ⟨kept .outbox apart.1, ?_, (kept .requests apart.2).2⟩)
    fun allowed => allowed
  rw [Store.sent, (kept .requests apart.2).1, Store.sent]

theorem Silent.bind {first : Work α} {next : α → Work β} (before : Silent first)
    (rest : ∀ value, Silent (next value)) : Silent (first >>= next) :=
  Within.bind .trans before rest

theorem Silent.map {work : Work α} (silent : Silent work) (change : α → β) :
    Silent (change <$> work) :=
  Within.map silent change

section Silent

variable (application : Application) (id : Nat)

theorem silent_revokeActive (reason : Option String) (emailSent : Bool) :
    Silent (revokeActive id reason emailSent) :=
  (touches_revokeActive id (List.mem_singleton_self _) reason emailSent).silent (by decide)

theorem silent_issueDraft : Silent (issueDraft application) :=
  (touches_issueDraft (List.mem_singleton_self _) application).silent (by decide)

theorem silent_answer {change : ChiefRequest → ChiefRequest}
    (kept : ∀ request, (change request).id = request.id ∧
      (change request).payload = request.payload) :
    Silent (write fun store => { store with requests := store.requests.modify id change }) := by
  refine fun context desk => ⟨⟨rfl, ?_, rfl⟩, fun _ _ => trivial⟩
  simp only [write_run, Store.sent]
  rw [desk.store.requests.rows_modify id fun request => (kept request).1, Table.changeAt,
    List.map_map]
  refine List.map_congr_left fun request _ => ?_
  simp only [Function.comp]
  split
  · rw [(kept request).1, (kept request).2]
  · rfl

theorem silent_answerRequest {answer : Nat → Work Unit}
    (silent : ∀ number, Silent (answer number)) : Silent (answerRequest id answer) := by
  refine .bind (plain_read _).silent fun request => ?_
  cases request with
  | some request => exact silent request.id
  | none => exact (plain_pure ()).silent

theorem silent_completeRequest : Silent (completeRequest id) :=
  .bind plain_now.silent fun _ => silent_answer id fun _ => ⟨rfl, rfl⟩

theorem silent_failRequest (errors : List ChiefResponseError) : Silent (failRequest id errors) :=
  .bind plain_now.silent fun _ => silent_answer id fun _ => ⟨rfl, rfl⟩

end Silent

def Accounted (work : Work α) (context : Context) (desk : Desk) : Prop :=
  match work context desk with
  | (.error _, after) => after.accepted = desk.accepted
  | (.ok _, after) => ∃ new, after.store.sent = desk.store.sent ++ new ∧
      after.accepted = desk.accepted ++ new.filterMap (·.2)

section Accounted

variable {context : Context} {desk : Desk}

theorem Silent.accounted {work : Work α} (silent : Silent work) : Accounted work context desk := by
  have kept := (silent context desk).1
  unfold Accounted
  rcases ran : work context desk with ⟨error | value, after⟩
  · rw [ran] at kept
    exact kept.accepted
  · rw [ran] at kept
    exact ⟨[], by simpa using kept.sent, by simpa using kept.accepted⟩

theorem Accounted.bind {first : Work α} {next : α → Work β} (before : Silent first)
    (numbered : desk.Numbered)
    (rest : ∀ value between, first context desk = (.ok value, between) → between.Numbered →
      Accounted (next value) context between) :
    Accounted (first >>= next) context desk := by
  have kept := (before context desk).1
  unfold Accounted
  rw [bind_def, andThen]
  rcases ran : first context desk with ⟨failure | value, between⟩
  · rw [ran] at kept
    exact kept.accepted
  · rw [ran] at kept
    have last := rest value between ran (kept.numbered numbered)
    unfold Accounted at last
    rw [kept.accepted, kept.sent] at last
    exact last

theorem Accounted.map {work : Work α} (accounted : Accounted work context desk) (change : α → β) :
    Accounted (change <$> work) context desk := by
  unfold Accounted at accounted ⊢
  rw [← bind_pure_comp, bind_def, andThen]
  rcases ran : work context desk with ⟨error | value, after⟩
  · rw [ran] at accounted
    exact accounted
  · rw [ran] at accounted
    exact accounted

def delivered : Except ChiefError (Option LicencePayload) → Option LicencePayload
  | .ok payload => payload
  | .error _ => none

theorem deliverLicence_run (context : Context) (desk : Desk) (application : Application)
    (revoke sends : Bool) :
    ∃ outcome, deliverLicence application revoke sends context desk =
      (.ok outcome, { desk with accepted := desk.accepted ++ (delivered outcome).toList }) := by
  unfold deliverLicence
  cases sends with
  | false => exact ⟨.ok none, by simp [delivered]⟩
  | true =>
    rw [if_pos rfl, bind_def, andThen, read_run]
    cases built : LicencePayload.build desk.store application revoke with
    | error error => exact ⟨.error error, by simp [delivered]⟩
    | ok payload =>
      simp only [bind_def, andThen, deliver]
      cases context.transport payload with
      | some reason => exact ⟨.error (.transport reason), by simp [delivered]⟩
      | none => exact ⟨.ok (some payload), by simp [delivered]⟩

theorem sendToChief_run (context : Context) (numbered : desk.Numbered) (application : Application)
    (previous : Option Nat) (revoke sends : Bool) :
    ∃ taskType after entry,
      sendToChief application previous revoke sends context desk = (.ok taskType, after) ∧
        after.store.sent = desk.store.sent ++ [entry] ∧
        after.accepted = desk.accepted ++ entry.2.toList ∧
        after.store.applications = desk.store.applications := by
  obtain ⟨outcome, ran⟩ := deliverLicence_run context desk application revoke sends
  -- The request takes the next number, and comes last.
  let request := requestOf (desk.store.lastRequest + 1) application context.now outcome
  have identified : request.id = desk.store.lastRequest + 1 ∧
      request.payload = delivered outcome := by
    cases outcome <;> exact ⟨rfl, rfl⟩
  have newest : ∀ found ∈ desk.store.requests.rows, number found < number request := by
    intro found member
    have bound := numbered (found.id, found.payload) (List.mem_map_of_mem member)
    have below : found.id < request.id := by omega
    exact below
  have rows := Table.rows_insert_newest newest
  rw [sendToChief, bind_def, andThen, ran]
  refine ⟨_, _, (request.id, request.payload), rfl, ?_, ?_, rfl⟩
  · change (desk.store.requests.insert request).rows.map _ = _
    rw [rows, List.map_append]
    rfl
  · rw [identified.2]

theorem accounted_sendToChief (numbered : desk.Numbered) (application : Application)
    (previous : Option Nat) (revoke sends : Bool) {next : TaskType → Work α}
    (kept : ∀ taskType (after : Desk), after.store.applications = desk.store.applications →
      ∃ value last, next taskType context after = (.ok value, last) ∧ after.SameOutbox last) :
    Accounted (sendToChief application previous revoke sends >>= next) context desk := by
  obtain ⟨taskType, after, entry, ran, sent, accepted, stored⟩ :=
    sendToChief_run context numbered application previous revoke sends
  obtain ⟨value, last, finished, same⟩ := kept taskType after stored
  unfold Accounted
  rw [bind_def, andThen, ran]
  simp only [finished]
  refine ⟨[entry], same.sent.trans sent, same.accepted.trans (accepted.trans ?_)⟩
  cases payload : entry.2 <;> simp [payload]

theorem accounted_sendAndSave (numbered : desk.Numbered) (application : Application)
    (stored : desk.store.applications.contains application.id = true) (previous : Option Nat)
    (revoke : Bool) :
    Accounted (do
      let context ← Work.context
      let _ ← sendToChief application previous revoke context.sendsLicences
      saved application) context desk := by
  refine .bind plain_context.silent numbered fun _ _ ran numbered => ?_
  cases ran
  refine accounted_sendToChief numbered _ _ _ _ fun taskType after kept => ?_
  -- The application is still stored, so that it can be saved.
  rw [← kept] at stored
  exact ⟨application, _, saved_eq_ok_iff.2 ⟨rfl, save_eq_ok_iff.2 ⟨stored, rfl⟩⟩, rfl, rfl, rfl⟩

theorem contains_of_load {caseType : CaseType} {id : Nat} {application : Application} {after : Desk}
    (ran : load caseType id context desk = (.ok application, after)) :
    after.store.applications.contains application.id = true := by
  obtain ⟨-, found, -, rfl⟩ := load_eq_ok_iff.1 ran
  obtain ⟨member, -⟩ := Table.find?_eq_some_iff.1 found
  exact Table.contains_iff.2 ⟨application, member, rfl⟩

end Accounted

section Operations

variable {context : Context} {desk : Desk} (caseType : CaseType) (id : Nat)

theorem silent_approveLicence : Silent (approveLicence id) := by
  refine .bind plain_enter.silent fun _ => .bind (plain_findApplication id).silent
    fun application => .bind (plain_finishWait _).silent fun _ => ?_
  split
  · exact .bind (silent_answerRequest id silent_completeRequest) fun _ => (plain_save _).silent
  · exact .bind plain_now.silent fun _ => .bind (silent_issueDraft _) fun _ =>
      .bind (silent_answerRequest id silent_completeRequest) fun _ => (plain_save _).silent

theorem silent_rejectLicence (errors : List ChiefResponseError) :
    Silent (rejectLicence id errors) :=
  .bind plain_enter.silent fun _ => .bind (plain_findApplication id).silent fun _ =>
    .bind (plain_finishWait _).silent fun _ => .bind (plain_createTask _ _ _).silent fun _ =>
      silent_answerRequest id fun number => silent_failRequest number errors

theorem accounted_resendLicence (numbered : desk.Numbered) :
    Accounted (resendLicence id) context desk := by
  refine .bind plain_enter.silent numbered fun _ _ _ numbered => ?_
  refine .bind (plain_findApplication id).silent numbered fun application _ _ numbered => ?_
  refine .bind (plain_currentTask id _ _).silent numbered fun task _ _ numbered => ?_
  refine .bind (plain_finishTask _ _).silent numbered fun _ _ _ numbered => ?_
  refine .bind plain_context.silent numbered fun _ _ ran numbered => ?_
  cases ran
  rw [← bind_pure (sendToChief _ _ _ _)]
  exact accounted_sendToChief numbered _ _ _ _ fun taskType after _ =>
    ⟨taskType, after, rfl, rfl, rfl, rfl⟩

theorem accounted_documentsSigned (numbered : desk.Numbered) :
    Accounted (documentsSigned caseType id) context desk := by
  refine .bind (plain_loadWithTask id caseType _ _).silent numbered
    fun (application, task) between ran numbered => ?_
  have stored : between.store.applications.contains application.id = true := by
    simp only [loadWithTask, bind_eq_ok_iff, currentTask_eq_ok_iff, pure_run, Prod.mk.injEq,
      Except.ok.injEq] at ran
    obtain ⟨_, _, loaded, _, _, ⟨-, rfl⟩, ⟨rfl, -⟩, rfl⟩ := ran
    exact contains_of_load loaded
  refine .bind (plain_finishTask _ _).silent numbered fun _ _ ran numbered => ?_
  cases ran
  split
  · exact accounted_sendAndSave numbered application stored _ _
  · exact Silent.accounted (.bind plain_now.silent fun _ => .bind (silent_issueDraft _) fun _ =>
      (plain_saved _).silent)

theorem accounted_revoke (numbered : desk.Numbered) (input : RevokeInput) :
    Accounted (revoke caseType id input) context desk := by
  refine .bind (plain_load id caseType).silent numbered fun application between loaded
    numbered => ?_
  have stored := contains_of_load loaded
  refine .bind (plain_checkFlow _).silent numbered fun _ _ checked numbered => ?_
  obtain ⟨-, rfl⟩ := checkFlow_eq_ok_iff.1 checked
  refine .bind (silent_revokeActive id _ _) numbered fun _ after ran numbered => ?_
  simp only [revokeActive, bind_eq_ok_iff, findActive_eq_ok_iff, changePack_run, pure_run,
    Prod.mk.injEq] at ran
  obtain ⟨_, _, ⟨-, rfl⟩, _, _, ⟨-, rfl⟩, -, rfl⟩ := ran
  dsimp only
  split
  · exact accounted_sendAndSave numbered { application with status := .revoked } stored _ _
  · exact (plain_saved _).silent.accounted

end Operations

end Work

namespace Operation

def sends : Operation → Bool
  | .documentsSigned _ _ | .revoke _ _ _ | .resendLicence _ => true
  | _ => false

theorem silent_work {operation : Operation} (quiet : operation.sends = false) :
    Work.Silent operation.work := by
  by_cases replies : Part.requests ∈ operation.parts
  · cases operation
    case approveLicence => exact .map (Work.silent_approveLicence _) _
    case rejectLicence => exact .map (Work.silent_rejectLicence _ _) _
    case documentsSigned | revoke | resendLicence => cases quiet
    all_goals simp [parts] at replies
  -- Nothing is handed over without a request.
  · have unsent : Part.outbox ∉ operation.parts := by
      cases operation <;> simp_all [parts]
    exact operation.touches_work.silent ⟨unsent, replies⟩

theorem accounted_work (operation : Operation) (context : Context) {desk : Desk}
    (numbered : desk.Numbered) : Work.Accounted operation.work context desk := by
  by_cases sends : operation.sends = true
  · cases operation
    case documentsSigned => exact .map (Work.accounted_documentsSigned _ _ numbered) _
    case revoke => exact .map (Work.accounted_revoke _ _ numbered _) _
    case resendLicence => exact .map (Work.accounted_resendLicence _ numbered) _
    all_goals cases sends
  · exact (silent_work (eq_false_of_ne_true sends)).accounted

end Operation

theorem Store.filterMap_sent (store : Store) :
    store.sent.filterMap (·.2) = store.requests.rows.filterMap (·.payload) := by
  rw [sent, List.filterMap_map]
  rfl

theorem Store.Sound.numbered {store : Store} (sound : store.Sound)
    (accepted : List LicencePayload) : Desk.Numbered ⟨store, accepted⟩ := by
  intro entry member
  obtain ⟨request, stored, rfl⟩ := List.mem_map.1 member
  exact (sound.requests request stored).1

namespace System

variable {system : System}

theorem unchanged_of_error (sound : system.store.Sound) {setting : Setting} {operation : Operation}
    {error : CaseError} (failed : (system.perform setting operation).1 = .error error) :
    (system.perform setting operation).2 = system := by
  have accounted := operation.accounted_work (setting.around system)
    (sound.numbered system.accepted)
  unfold Work.Accounted at accounted
  rcases ran : operation.work (setting.around system) ⟨system.store, system.accepted⟩ with
    ⟨_ | value, desk⟩
  · rw [ran] at accounted
    rw [perform_of_error ran, accounted]
  · rw [perform_of_ok ran] at failed
    cases failed

theorem outbox_after (sound : system.store.Sound) (step : Step) :
    ∃ new, (system.after step).store.sent = system.store.sent ++ new ∧
      (system.after step).accepted = system.accepted ++ new.filterMap (·.2) := by
  have accounted := step.operation.accounted_work (step.setting.around system)
    (sound.numbered system.accepted)
  unfold Work.Accounted at accounted
  rcases ran : step.operation.work (step.setting.around system) ⟨system.store, system.accepted⟩ with
    ⟨error | value, desk⟩
  · have failed : (system.perform step.setting step.operation).1 = .error error := by
      rw [perform_of_error ran]
    rw [after, unchanged_of_error sound failed]
    exact ⟨[], by simp, by simp⟩
  · rw [ran] at accounted
    rw [after, perform_of_ok ran]
    exact accounted

theorem sent_prefix (steps later : List Step) :
    (initial.follow steps).store.sent <+: (initial.follow (steps ++ later)).store.sent := by
  induction later using List.reverseRecOn with
  | nil => simp
  | append_singleton later step ih =>
    rw [← List.append_assoc, follow_append]
    obtain ⟨new, sent, -⟩ := outbox_after (sound_follow (steps ++ later)) step
    rw [sent]
    exact ih.trans (List.prefix_append _ _)

theorem accepted_eq (steps : List Step) :
    (initial.follow steps).accepted = (initial.follow steps).store.sent.filterMap (·.2) := by
  induction steps using List.reverseRecOn with
  | nil => rfl
  | append_singleton steps step ih =>
    obtain ⟨new, sent, accepted⟩ := outbox_after (sound_follow steps) step
    rw [follow_append, sent, accepted, ih, List.filterMap_append]

end System

/-- The payloads that the register has taken are those on record, in the order of the requests. An
operation that fails has delivered nothing, and what is on record stays there unchanged. -/
theorem accepted_on_record (steps : List Step) :
    (System.initial.follow steps).accepted =
        (System.initial.follow steps).store.requests.rows.filterMap (·.payload) ∧
      (∀ setting operation error,
        ((System.initial.follow steps).perform setting operation).1 = .error error →
          ((System.initial.follow steps).perform setting operation).2.accepted =
            (System.initial.follow steps).accepted) ∧
      ∀ later, (System.initial.follow steps).store.sent <+:
        (System.initial.follow (steps ++ later)).store.sent := by
  refine ⟨?_, fun setting operation error failed => ?_, System.sent_prefix steps⟩
  · rw [System.accepted_eq, Store.filterMap_sent]
  · rw [System.unchanged_of_error (System.sound_follow steps) failed]

namespace Sample

def unreached (operation : Operation) : Step :=
  { operation
    setting := { (step true operation).setting with transport := fun _ => some "offline" } }

def resent : List Step :=
  let dated : List Operation :=
    [.editLicence .importing 1 ⟨none, some ⟨2025, 6, 30, by decide⟩, some false⟩]
  let sent : List Operation :=
    [.authoriseDocuments .importing 1 user, .documentsSigned .importing 1, .rejectLicence 1 []]
  (licence ++ dated ++ approval .importing ++ sent).map (step true) ++
    [unreached (.resendLicence 1), step true (.resendLicence 1)]

def signedAgain : Step := step true (.documentsSigned .importing 1)

theorem resent_delivered :
    (System.initial.follow resent).accepted.length = 2 ∧
      (System.initial.follow resent).store.requests.rows.map (·.payload.isSome) =
        [true, false, true] ∧
      ((System.initial.follow resent).perform signedAgain.setting signedAgain.operation).1.isOk =
        false := by
  decide +kernel

end Sample

theorem resent_on_record :
    (System.initial.follow Sample.resent).accepted.length = 2 ∧
      (System.initial.follow Sample.resent).accepted =
        (System.initial.follow Sample.resent).store.requests.rows.filterMap (·.payload) ∧
      (∃ error, ((System.initial.follow Sample.resent).perform Sample.signedAgain.setting
          Sample.signedAgain.operation).1 = .error error) ∧
      ((System.initial.follow Sample.resent).perform Sample.signedAgain.setting
        Sample.signedAgain.operation).2.accepted =
          (System.initial.follow Sample.resent).accepted ∧
      (System.initial.follow Sample.resent).store.sent <+:
        (System.initial.follow
          (Sample.resent ++ [Sample.step true (.approveLicence 1)])).store.sent := by
  obtain ⟨recorded, kept, later⟩ := accepted_on_record Sample.resent
  obtain ⟨count, -, refused⟩ := Sample.resent_delivered
  cases failed : ((System.initial.follow Sample.resent).perform Sample.signedAgain.setting
      Sample.signedAgain.operation).1 with
  | ok answer =>
    rw [failed] at refused
    cases refused
  | error error => exact ⟨count, recorded, ⟨error, rfl⟩, kept _ _ error failed, later _⟩

end Casework
