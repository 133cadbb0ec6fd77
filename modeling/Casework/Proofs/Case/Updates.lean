import Casework.Proofs.Chief.Waits

set_option autoImplicit false

namespace Casework

open Calendar

theorem countP_changeFirst {α : Type} {wanted asked : α → Bool} {change : α → α} {entries : List α}
    {entry : α} (found : entries.find? wanted = some entry) :
    (changeFirst wanted change entries).countP asked + (if asked entry then 1 else 0) =
      entries.countP asked + if asked (change entry) then 1 else 0 := by
  obtain ⟨earlier, later, rfl, changed⟩ := changeFirst_of_find? change found
  rw [changed]
  simp only [List.countP_append, List.countP_cons]
  omega

namespace Application

variable {application : Application}

def outstanding (application : Application) : Nat :=
  application.updateRequests.countP UpdateRequest.isOutstanding

def unstarted (application : Application) : Nat :=
  application.updateRequests.countP UpdateRequest.isOpen

theorem isUpdating_iff : application.isUpdating = true ↔ application.outstanding ≠ 0 := by
  rw [isUpdating, outstanding, ← Nat.pos_iff_ne_zero, List.countP_pos_iff, List.any_eq_true]

theorem hasOpenUpdateRequests_iff :
    application.hasOpenUpdateRequests = true ↔ application.unstarted ≠ 0 := by
  rw [hasOpenUpdateRequests, unstarted, ← Nat.pos_iff_ne_zero, List.countP_pos_iff,
    List.any_eq_true]

theorem outstanding_of_current (free : application.currentUpdateRequests = []) :
    application.outstanding = 0 := by
  have idle := CaseFile.isUpdating_of_current free
  by_contra asked
  rw [isUpdating_iff.2 asked] at idle
  cases idle

theorem outstanding_changed {entry : Nat} {request : UpdateRequest}
    (found : application.updateRequests.find? (·.id == entry) = some request)
    (status : UpdateStatus) :
    ({ application with
        updateRequests := changeFirst (·.id == entry) ({ · with status })
          application.updateRequests } : Application).outstanding +
        (if request.isOutstanding then 1 else 0) =
      application.outstanding +
        if ({ request with status } : UpdateRequest).isOutstanding then 1 else 0 :=
  countP_changeFirst found

theorem unstarted_le_outstanding : application.unstarted ≤ application.outstanding := by
  refine List.countP_mono_left fun request _ opened => ?_
  rw [UpdateRequest.isOutstanding, Bool.or_eq_true]
  exact .inl opened

theorem outstanding_afterSubmission (user : User) (reference : String) (now : Instant) :
    (application.afterSubmission user reference now).outstanding = application.unstarted := by
  rw [outstanding, unstarted, afterSubmission, List.countP_map]
  refine List.countP_congr fun request _ => ?_
  simp only [Function.comp, UpdateRequest.isOutstanding, UpdateRequest.isOpen]
  split
  next started => simp [started]
  next idle => simp [idle]

theorem outstanding_withdraw (now : Instant) :
    (application.withdraw now).outstanding = application.outstanding := by
  unfold withdraw
  split <;> rfl

end Application

theorem Edit.outstanding {context : Context} {id : Nat} {operation : Operation} {file : CaseFile}
    {application : Application} (edit : Edit context id operation file application) :
    application.outstanding = file.application.outstanding := by
  cases edit with
  | startUpdate _ _ found opened =>
    simpa [UpdateRequest.isOutstanding, opened] using
      Application.outstanding_changed found .inProgress
  | closeUpdate _ _ found responded =>
    simpa [UpdateRequest.isOutstanding, responded] using
      Application.outstanding_changed found .closed
  | decision =>
    unfold Application.withDecision
    split <;> rfl
  | _ => rfl

def Operation.Strands (id : Nat) (operation : Operation) (application : Application) : Prop :=
  ((∃ caseType user, operation = .submit caseType id user) ∧
      application.hasOpenUpdateRequests = true) ∨
    (operation.role id = .givingUp ∧ application.isUpdating = true)

namespace CaseFile

variable {file after : CaseFile}

inductive Asking (id : Nat) (file : CaseFile) (operation : Operation) (after : CaseFile) :
    Prop where
  | quiet (task : after.load .prepare = file.load .prepare)
      (requests : after.application.outstanding = file.application.outstanding)
  | asked (free : file.application.outstanding = 0)
      (task : after.load .prepare = file.load .prepare + 1)
      (requests : after.application.outstanding = 1)
  | takenBack (held : file.load .prepare ≠ 0)
      (requests : after.application.outstanding + 1 = file.application.outstanding)
  | submitted (named : ∃ caseType user, operation = .submit caseType id user)
      (held : file.load .prepare ≠ 0) (task : after.load .prepare = 0)
      (requests : after.application.outstanding = file.application.unstarted)
  | givenUp (role : operation.role id = .givingUp) (task : after.load .prepare = 0)
      (requests : after.application.outstanding = file.application.outstanding)

theorem Asking.of_move (ordered : file.Ordered) {context : Context} {id : Nat}
    {operation : Operation} (move : Move context id operation file after) :
    Asking id file operation after := by
  cases move with
  | edit edit => exact .quiet rfl edit.outstanding
  | startLicence | editLicence | revoke => exact .quiet rfl rfl
  | submit _ editing _ only =>
    refine .submitted ⟨_, _, rfl⟩ editing.preparing ?_
      (Application.outstanding_afterSubmission _ _ _)
    simp [load_finish ordered only]
  | refuseVariation _ current | refuse _ current | approve _ current
  | authoriseDocuments _ current | issueDocuments _ current | failSigning _ current
  | retrySigning _ current | revertLicence current =>
    refine .quiet ?_ rfl
    simp [load_finish ordered current.only]
  | sendDocuments _ current =>
    refine .quiet ?_ rfl
    rw [load_send_kept (by decide) (by decide), load_finish ordered current.only]
    rfl
  | acceptWithdrawal =>
    exact .givenUp (if_pos rfl) (by simp) (Application.outstanding_withdraw _)
  | rejectWithdrawal => exact .quiet (by simp) rfl
  | stop => exact .givenUp (if_pos rfl) (by simp) rfl
  | reopen => exact .quiet (by simp) rfl
  | revokeAtChief =>
    refine .quiet ?_ rfl
    rw [load_put, load_send_kept (by decide) (by decide), load_changePack]
  | requestVariation _ _ opened =>
    subst opened
    exact .quiet (by simp) rfl
  | addUpdateRequest _ _ free =>
    have idle := Application.outstanding_of_current free
    refine .asked idle (by simp) ?_
    rw [Application.outstanding] at idle
    simp [Application.outstanding, UpdateRequest.isOutstanding, idle]
  | withdrawUpdateRequest _ _ found opened only =>
    refine .takenBack (by simp [load_of_only only]) ?_
    simpa [UpdateRequest.isOutstanding, opened] using
      Application.outstanding_changed found .draft
  | approveLicence current =>
    refine .quiet ?_ rfl
    simp [load_finish ordered current.only]
  | approveRevocation current =>
    refine .quiet ?_ rfl
    simp [load_finish ordered current.only]
  | rejectLicence current =>
    refine .quiet ?_ (by simp)
    have other : (awaitedReply file.application.status).2 ≠ .prepare := by
      unfold awaitedReply
      split <;> decide
    simp [load_finish ordered current.only, other]
  | resendLicence current =>
    refine .quiet ?_ rfl
    rw [load_send_kept (by decide) (by split <;> decide), load_finish ordered current.only]
    rfl

def Stranded (file : CaseFile) : Prop :=
  file.load .prepare = 0 ∧ file.application.outstanding ≠ 0

namespace Asking

variable {id : Nat} {operation : Operation}

theorem single (asking : Asking id file operation after)
    (single : file.application.outstanding ≤ 1) : after.application.outstanding ≤ 1 := by
  have fewer := file.application.unstarted_le_outstanding
  cases asking with
  | quiet _ requests | asked _ _ requests | takenBack _ requests | submitted _ _ _ requests
  | givenUp _ _ requests => omega

-- No operation gives the applicant the task again while a request is outstanding.
theorem stranded (asking : Asking id file operation after) (stranded : file.Stranded) :
    after.Stranded := by
  obtain ⟨idle, outstanding⟩ := stranded
  cases asking with
  | quiet task requests => exact ⟨task.trans idle, requests ▸ outstanding⟩
  | asked free => exact absurd free outstanding
  | takenBack held | submitted _ held => exact absurd idle held
  | givenUp _ task requests => exact ⟨task, requests ▸ outstanding⟩

theorem answerable (asking : Asking id file operation after)
    (single : file.application.outstanding ≤ 1) (answerable : ¬ file.Stranded)
    (kept : ¬ operation.Strands id file.application) : ¬ after.Stranded := by
  rintro ⟨idle, outstanding⟩
  cases asking with
  | quiet task requests => exact answerable ⟨task ▸ idle, requests ▸ outstanding⟩
  | asked _ task => omega
  | takenBack _ requests => omega
  | submitted named _ _ requests =>
    have opened := Application.hasOpenUpdateRequests_iff.2 (requests ▸ outstanding)
    exact kept (.inl ⟨named, opened⟩)
  | givenUp role _ requests =>
    exact kept (.inr ⟨role, Application.isUpdating_iff.2 (requests ▸ outstanding)⟩)

end Asking

theorem stranded_of_move (ordered : file.Ordered) {context : Context} {id : Nat}
    {operation : Operation} (move : Move context id operation file after)
    (strands : operation.Strands id file.application) : after.Stranded := by
  rcases strands with ⟨⟨caseType, user, rfl⟩, opened⟩ | ⟨role, updating⟩
  · rw [Application.hasOpenUpdateRequests_iff] at opened
    cases move with
    | edit edit => cases edit
    | submit _ _ _ only =>
      refine ⟨by simp [load_finish ordered only], ?_⟩
      rw [put_application, Application.outstanding_afterSubmission]
      exact opened
  · rw [Application.isUpdating_iff] at updating
    cases move with
    | edit edit =>
      rw [edit.bystander] at role
      cases role
    | acceptWithdrawal =>
      refine ⟨by simp, ?_⟩
      rw [put_application, Application.outstanding_withdraw]
      exact updating
    | stop => exact ⟨by simp, updating⟩
    | _ => simp [Operation.role] at role

theorem outstanding_le_one (steps : List Step) {id : Nat} {file : CaseFile}
    (found : (System.initial.follow steps).store.fileOf id = some file) :
    file.application.outstanding ≤ 1 := by
  refine file_invariant (fun _ _ file => file.application.outstanding ≤ 1) ?_ ?_ ?_ steps found
  · exact fun _ _ _ _ _ _ => Nat.zero_le 1
  · exact fun _ _ _ _ single => single
  · exact fun _ _ _ _ _ moves single => (Asking.of_move moves.ordered moves.move).single single

theorem stranded_follow (steps later : List Step) {id : Nat} {file : CaseFile}
    (found : (System.initial.follow steps).store.fileOf id = some file) (stranded : file.Stranded) :
    ∃ after, (System.initial.follow (steps ++ later)).store.fileOf id = some after ∧
      after.Stranded := by
  refine file_persists Stranded ?_ ?_ steps later found stranded
  · intro steps file found stranded new
    have held := ((staged steps found).new new).1 .prepare
    rw [stranded.1] at held
    cases held
  · exact fun _ _ _ _ moves stranded =>
      (Asking.of_move moves.ordered moves.move).stranded stranded

end CaseFile

/-- The step takes the applicant's task while a request is outstanding that it does not answer. -/
structure System.Strands (system : System) (step : Step) (id : Nat) : Prop where
  takes : system.Takes step
  strands : ∃ application, system.store.applications.find? id = some application ∧
    step.operation.Strands id application

namespace System

variable {system : System} {step : Step} {id : Nat}

theorem Strands.moves (sound : system.store.Sound) (strands : system.Strands step id) :
    ∃ before after, system.Moves step id before after := by
  obtain ⟨taken, application, -, ⟨⟨caseType, user, asked⟩, -⟩ | ⟨role, -⟩⟩ := strands
  · exact taken.moves sound (by rw [asked]; rfl)
  · exact taken.moves sound (Operation.subject_of_role (by simp [role]))

theorem Strands.stranded {steps : List Step} (strands : (initial.follow steps).Strands step id) :
    ∃ after, (initial.follow (steps ++ [step])).store.fileOf id = some after ∧
      after.Stranded := by
  obtain ⟨before, after, moves⟩ := strands.moves (sound_follow steps)
  obtain ⟨-, application, stored, strands⟩ := strands
  cases stored.symm.trans moves.stored
  rw [follow_append]
  exact ⟨after, moves.becomes, CaseFile.stranded_of_move moves.ordered moves.move strands⟩

end System

theorem CaseFile.stranded_iff (steps : List Step) {id : Nat} {file : CaseFile}
    (found : (System.initial.follow steps).store.fileOf id = some file) :
    file.Stranded ↔ Earlier steps (System.Strands · · id) := by
  constructor
  · intro stranded
    by_contra kept
    refine file_invariant (fun steps id file => ¬ Earlier steps (System.Strands · · id) →
      ¬ file.Stranded) ?_ ?_ ?_ steps found kept stranded
    · exact fun _ _ _ _ _ _ _ stranded => stranded.2 rfl
    · exact fun _ step _ _ fit kept => fit fun earlier => kept (earlier.more [step])
    · intro steps step id before after moves fit kept
      refine (Asking.of_move moves.ordered moves.move).answerable
        (outstanding_le_one steps moves.found) (fit fun earlier => kept (earlier.more [step])) ?_
      intro strands
      exact kept (earlier_last ⟨moves.takes, before.application, moves.stored, strands⟩)
  · rintro ⟨before, step, rest, rfl, strands⟩
    obtain ⟨between, kept, stranded⟩ := strands.stranded
    obtain ⟨after, last, stranded⟩ := stranded_follow (before ++ [step]) rest kept stranded
    rw [List.append_assoc, List.singleton_append] at last
    cases found.symm.trans last
    exact stranded

/-- While a case is open its applicant only has a task for an update request that is outstanding,
and has one for each such request until one is stranded: the case is handed in while the request
was not taken up, or given up. -/
theorem prepares_iff_updating (steps : List Step) {id : Nat} {application : Application}
    (stored : (System.initial.follow steps).store.applications.find? id = some application)
    (working : application.status ∈ openStates) :
    ((System.initial.follow steps).store.tasks.hasActive id .prepare = true →
      application.isUpdating = true) ∧
    (((System.initial.follow steps).store.tasks.hasActive id .prepare = true ↔
      application.isUpdating = true) ↔ ¬ Earlier steps (System.Strands · · id)) := by
  obtain ⟨file, found, rfl⟩ := Store.exists_fileOf stored
  have asked : file.load .prepare ≠ 0 → file.application.outstanding ≠ 0 := fun held => by
    rcases (CaseFile.tasks_fit steps found).asked held with new | updating
    · exact absurd new (CaseFile.not_givenUp_of_open working).2.1
    · exact Application.isUpdating_iff.1 updating
  rw [Store.hasActive_iff found, Application.isUpdating_iff, ← CaseFile.stranded_iff steps found]
  refine ⟨asked, ?_, fun answerable => ⟨asked, fun outstanding idle => ?_⟩⟩
  · rintro even ⟨idle, outstanding⟩
    exact even.2 outstanding idle
  · exact answerable ⟨idle, outstanding⟩

namespace Sample

def unanswered : List Step :=
  let asked : List Operation :=
    [.addUpdateRequest .importing 1 "address", .submit .importing 1 user]
  (licence ++ asked).map (step false)

theorem unanswered_left :
    ∃ application ∈ (System.initial.follow unanswered).store.applications.rows,
      application.id = 1 ∧ application.status = .processing ∧ application.isUpdating = true ∧
        (System.initial.follow unanswered).store.tasks.hasActive 1 .prepare = false := by
  decide +kernel

end Sample

theorem unanswered_strands : Earlier Sample.unanswered (System.Strands · · 1) := by
  obtain ⟨application, stored, number, processing, updating, idle⟩ := Sample.unanswered_left
  by_contra kept
  have even := (prepares_iff_updating Sample.unanswered
    (Table.find?_eq_some_iff.2 ⟨stored, number⟩) (by rw [processing]; decide)).2.2 kept
  rw [updating, idle] at even
  cases even.2 rfl

/-- Not every outstanding request of an open case has a task for its applicant: a case that is
handed in while its request was not taken up keeps the request and loses the task. -/
theorem unanswered_unprepared :
    ¬ ∀ system, Reachable system → ∀ application ∈ system.store.applications.rows,
      application.status ∈ openStates →
        (system.store.tasks.hasActive application.id .prepare = true ↔
          application.isUpdating = true) := by
  intro matched
  obtain ⟨application, stored, number, processing, updating, idle⟩ := Sample.unanswered_left
  have even := matched _ (reachable_iff.2 ⟨Sample.unanswered, rfl⟩) application stored
    (by rw [processing]; decide)
  rw [number, updating, idle] at even
  cases even.2 rfl

end Casework
