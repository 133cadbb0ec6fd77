import Casework.Proofs.Case.Stages
import Casework.Proofs.Chief.Approved
import Casework.Proofs.Tasks.Single

set_option autoImplicit false

namespace Casework

open Calendar

/-- What an operation is in the exchange of a case with the register. -/
inductive Role where
  | sending
  | reply
  | givingUp
  | bystander
deriving DecidableEq

def Operation.role (id : Nat) : Operation → Role
  | .documentsSigned _ case | .revoke _ case _ | .resendLicence case =>
    if case = id then .sending else .bystander
  | .approveLicence case | .rejectLicence case _ => if case = id then .reply else .bystander
  | .respondToWithdrawal _ case _ true _ | .stop _ case =>
    if case = id then .givingUp else .bystander
  | _ => .bystander

theorem Operation.subject_of_role {id : Nat} {operation : Operation}
    (involved : operation.role id ≠ .bystander) : operation.subject = some id := by
  -- An operation on another case is a bystander.
  have mine : ∀ {case : Nat} {own : Role}, (if case = id then own else .bystander) ≠ .bystander →
      some case = some id := fun other => congrArg some (ite_ne_right_iff.1 other).1
  cases operation with
  | documentsSigned | revoke | resendLicence | approveLicence | rejectLicence | stop =>
    exact mine involved
  | respondToWithdrawal _ _ _ accepted =>
    cases accepted with
    | false => exact absurd rfl involved
    | true => exact mine involved
  | _ => exact absurd rfl involved

theorem exists_last_of_countP {α : Type} {wanted : α → Bool} {rows : List α}
    (some_wanted : rows.countP wanted ≠ 0) : ∃ row, (rows.filter wanted).getLast? = some row := by
  rw [List.countP_eq_length_filter] at some_wanted
  apply Option.isSome_iff_exists.1
  rw [List.getLast?_isSome]
  intro none_wanted
  rw [none_wanted] at some_wanted
  exact some_wanted rfl

theorem Edit.bystander {context : Context} {id : Nat} {operation : Operation} {file : CaseFile}
    {application : Application} (edit : Edit context id operation file application) :
    operation.role id = .bystander := by
  cases edit <;> rfl

namespace CaseFile

def awaiting (file : CaseFile) : Nat := file.requests.countP (·.status == .processing)

def waits (file : CaseFile) : Nat := file.load .chiefWait + file.load .chiefRevokeWait

variable {file after : CaseFile}

theorem waits_congr (same : file.tasks = after.tasks) : file.waits = after.waits := by
  rw [waits, waits, load_congr same, load_congr same]

theorem awaiting_congr (same : file.requests = after.requests) :
    file.awaiting = after.awaiting := by
  rw [awaiting, awaiting, same]

theorem awaiting_answer (ordered : file.Ordered) (waiting : file.awaiting ≠ 0) {base : CaseFile}
    (requests : base.requests = file.requests) {change : ChiefRequest → ChiefRequest}
    (closes : ∀ request, (change request).status ≠ .processing) :
    (base.answer change).awaiting + 1 = file.awaiting := by
  obtain ⟨request, last⟩ := exists_last_of_countP waiting
  have awaited : file.awaited = some request := last
  obtain ⟨member, processing⟩ := List.mem_filter.1 (List.mem_of_getLast? last)
  have counted := Table.countP_changeAt change (·.status == .processing) ordered.requests member
  rw [if_pos processing, if_neg (by simp [closes]), Nat.add_zero] at counted
  rw [answer, awaited_congr requests, awaited, requests]
  exact counted

inductive Exchange (id : Nat) (file : CaseFile) (operation : Operation) (after : CaseFile) :
    Prop where
  | quiet (role : operation.role id = .bystander ∨ operation.role id = .sending)
      (awaiting : after.awaiting = file.awaiting) (waits : after.waits = file.waits)
  | sent (role : operation.role id = .sending) (awaiting : after.awaiting = file.awaiting + 1)
      (waits : after.waits = file.waits + 1)
  | answered (role : operation.role id = .reply) (awaiting : after.awaiting + 1 = file.awaiting)
      (waits : after.waits + 1 = file.waits)
  | givenUp (role : operation.role id = .givingUp) (awaiting : after.awaiting = file.awaiting)
      (waits : after.waits = 0)

namespace Exchange

variable {id : Nat} {operation : Operation}

theorem aside (role : operation.role id = .bystander) (requests : after.requests = file.requests)
    (waits : after.waits = file.waits) : Exchange id file operation after :=
  .quiet (.inl role) (awaiting_congr requests) waits

theorem send {base : CaseFile} {context : Context} {application : Application} {revoke : Bool}
    {requestId taskId : Nat} {previous : Option Nat} (role : operation.role id = .sending)
    (requests : base.requests = file.requests) (waits : base.waits = file.waits) :
    Exchange id file operation
      (base.send context application revoke requestId taskId previous) := by
  rw [CaseFile.waits, CaseFile.waits] at waits
  cases result : base.outcome context application revoke with
  | error error =>
    refine .quiet (.inr role) ?_ ?_
    · simp [awaiting, requests, result, Work.requestOf]
    · simp [CaseFile.waits, result, Work.followingTask, waits]
  | ok payload =>
    refine .sent role ?_ ?_
    · simp [awaiting, requests, result, Work.requestOf]
    · cases revoke <;> simp [CaseFile.waits, result, Work.followingTask] <;> omega

theorem answer {base : CaseFile} {change : ChiefRequest → ChiefRequest}
    (role : operation.role id = .reply) (ordered : file.Ordered)
    (covered : file.waits ≤ file.awaiting) (requests : base.requests = file.requests)
    (waits : base.waits + 1 = file.waits)
    (closes : ∀ request, (change request).status ≠ .processing) :
    Exchange id file operation (base.answer change) := by
  refine .answered role (awaiting_answer ordered (by omega) requests closes) ?_
  rw [← waits]
  exact congrArg (· + 1) (waits_congr (answer_tasks base change))

theorem put (exchange : Exchange id file operation after) (application : Application) :
    Exchange id file operation (after.put application) := by
  cases exchange with
  | quiet role awaiting waits => exact .quiet role awaiting waits
  | sent role awaiting waits => exact .sent role awaiting waits
  | answered role awaiting waits => exact .answered role awaiting waits
  | givenUp role awaiting waits => exact .givenUp role awaiting waits

end Exchange

theorem waits_finish (ordered : file.Ordered) {task : Task} {waited : TaskType}
    (only : file.tasks.filter (Task.isOpen waited) = [task])
    (wait : waited = .chiefWait ∨ waited = .chiefRevokeWait) (owner : Option Nat) (now : Instant) :
    (file.finish task.id owner now).waits + 1 = file.waits := by
  have one := load_of_only only
  rcases wait with rfl | rfl <;> simp [waits, load_finish ordered only, one, Nat.add_comm]

theorem Exchange.of_move (ordered : file.Ordered) (covered : file.waits ≤ file.awaiting)
    {context : Context} {id : Nat} {operation : Operation}
    (move : Move context id operation file after) : Exchange id file operation after := by
  cases move with
  | edit edit => exact .aside edit.bystander rfl rfl
  | startLicence | editLicence => exact .aside rfl rfl rfl
  | submit _ _ _ only =>
    refine .aside rfl (by simp) ?_
    simp [waits, load_finish ordered only]
  | refuseVariation _ current | refuse _ current | approve _ current
  | authoriseDocuments _ current | failSigning _ current | retrySigning _ current
  | revertLicence current =>
    refine .aside rfl rfl ?_
    simp [waits, load_finish ordered current.only]
  | sendDocuments _ current =>
    refine .send (if_pos rfl) rfl ?_
    simp [waits, load_finish ordered current.only]
  | issueDocuments _ current =>
    refine .quiet (.inr (if_pos rfl)) (awaiting_congr (by simp)) ?_
    simp [waits, load_finish ordered current.only]
  | acceptWithdrawal => exact .givenUp (if_pos rfl) rfl (by simp [waits])
  | rejectWithdrawal =>
    refine .aside rfl (by simp) ?_
    simp [waits]
  | stop => exact .givenUp (if_pos rfl) rfl (by simp [waits])
  | reopen | requestVariation | addUpdateRequest =>
    refine .aside rfl rfl ?_
    simp [waits]
  | revoke => exact .quiet (.inr (if_pos rfl)) rfl rfl
  | revokeAtChief =>
    refine .put ?_ _
    exact .send (if_pos rfl) rfl rfl
  | withdrawUpdateRequest _ _ _ _ only =>
    refine .aside rfl rfl ?_
    simp [waits, load_finish ordered only]
  | approveLicence current =>
    refine .put ?_ _
    refine .answer (if_pos rfl) ordered covered (by simp) ?_ fun _ => nofun
    rw [waits_congr (issue_tasks _ _ _ _ _)]
    exact waits_finish ordered current.only (.inl rfl) none context.now
  | approveRevocation current =>
    refine .put ?_ _
    refine .answer (if_pos rfl) ordered covered rfl ?_ fun _ => nofun
    exact waits_finish ordered current.only (.inr rfl) none context.now
  | rejectLicence current =>
    refine .answer (if_pos rfl) ordered covered rfl ?_ fun _ => nofun
    rw [← waits_finish ordered current.only ?_ none context.now]
    · simp [waits]
    · unfold awaitedReply
      split <;> simp
  | resendLicence current =>
    refine .send (if_pos rfl) rfl ?_
    simp [waits, load_finish ordered current.only]

namespace Exchange

variable {id : Nat} {operation : Operation}

theorem covered (exchange : Exchange id file operation after)
    (covered : file.waits ≤ file.awaiting) : after.waits ≤ after.awaiting := by
  cases exchange with
  | quiet _ awaiting waits | sent _ awaiting waits | answered _ awaiting waits
  | givenUp _ awaiting waits => omega

theorem lost (exchange : Exchange id file operation after) (lost : file.waits < file.awaiting) :
    after.waits < after.awaiting := by
  cases exchange with
  | quiet _ awaiting waits | sent _ awaiting waits | answered _ awaiting waits
  | givenUp _ awaiting waits => omega

theorem abandoned (exchange : Exchange id file operation after)
    (role : operation.role id = .givingUp) (covered : file.waits ≤ file.awaiting)
    (waiting : file.waits ≠ 0) : after.waits < after.awaiting := by
  cases exchange with
  | quiet other => simp [role] at other
  | sent other | answered other => simp [role] at other
  | givenUp _ awaiting waits => omega

theorem even (exchange : Exchange id file operation after) (even : file.awaiting = file.waits)
    (kept : operation.role id = .givingUp → file.waits = 0) : after.awaiting = after.waits := by
  cases exchange with
  | quiet _ awaiting waits | sent _ awaiting waits | answered _ awaiting waits => omega
  | givenUp role awaiting waits =>
    have idle := kept role
    omega

end Exchange

-- Every task that waits for a reply has a request that awaits one.
theorem covered (steps : List Step) {id : Nat} {file : CaseFile}
    (found : (System.initial.follow steps).store.fileOf id = some file) :
    file.waits ≤ file.awaiting := by
  refine file_invariant (fun _ _ file => file.waits ≤ file.awaiting) ?_ ?_ ?_ steps found
  · exact fun _ _ _ _ _ _ => Nat.zero_le _
  · exact fun _ _ _ _ covered => covered
  · intro _ _ _ _ _ moves covered
    exact (Exchange.of_move moves.ordered covered moves.move).covered covered

theorem Staged.unsent (staged : file.Staged) (new : file.application.status = .inProgress) :
    file.awaiting = 0 ∧ file.waits = 0 := by
  obtain ⟨loads, requests⟩ := staged.new new
  exact ⟨by rw [awaiting, requests]; rfl, by rw [waits, loads, loads]; rfl⟩

end CaseFile

namespace Store

def awaiting (store : Store) (id : Nat) : Nat :=
  (store.requestsOf id).countP (·.status == .processing)

def waits (store : Store) (id : Nat) : Nat :=
  (store.tasks.activeOf id .chiefWait).length + (store.tasks.activeOf id .chiefRevokeWait).length

variable {store : Store} {id : Nat} {file : CaseFile}

theorem awaiting_eq (found : store.fileOf id = some file) : store.awaiting id = file.awaiting := by
  rw [awaiting, (fileOf_eq_some_iff.1 found).2.2.2.2, CaseFile.awaiting]

theorem waits_eq (found : store.fileOf id = some file) : store.waits id = file.waits := by
  rw [waits, activeOf_length found, activeOf_length found, CaseFile.waits]

end Store

namespace System

variable {system : System} {step : Step} {id : Nat}

theorem Moves.exchange {steps : List Step} {before after : CaseFile}
    (moves : (initial.follow steps).Moves step id before after) :
    CaseFile.Exchange id before step.operation after :=
  .of_move moves.ordered (CaseFile.covered steps moves.found) moves.move

/-- The step gives a case up while a licence that was sent waits for its reply. -/
structure Abandons (system : System) (step : Step) (id : Nat) : Prop where
  takes : system.Takes step
  role : step.operation.role id = .givingUp
  waiting : system.store.waits id ≠ 0

theorem lost_follow (steps later : List Step) {file : CaseFile}
    (found : (initial.follow steps).store.fileOf id = some file)
    (lost : file.waits < file.awaiting) :
    ∃ after, (initial.follow (steps ++ later)).store.fileOf id = some after ∧
      after.waits < after.awaiting := by
  refine file_persists (fun file => file.waits < file.awaiting) ?_ ?_ steps later found lost
  · intro steps file found lost new
    have unsent := (CaseFile.staged steps found).unsent new
    omega
  · exact fun _ _ _ _ moves lost => moves.exchange.lost lost

theorem Abandons.lost {steps : List Step} (abandons : (initial.follow steps).Abandons step id) :
    ∃ after, (initial.follow (steps ++ [step])).store.fileOf id = some after ∧
      after.waits < after.awaiting := by
  obtain ⟨taken, role, waiting⟩ := abandons
  have involved : step.operation.role id ≠ .bystander := by simp [role]
  obtain ⟨before, after, moves⟩ :=
    taken.moves (sound_follow steps) (Operation.subject_of_role involved)
  have covered := CaseFile.covered steps moves.found
  rw [Store.waits_eq moves.found] at waiting
  rw [follow_append]
  exact ⟨after, moves.becomes, moves.exchange.abandoned role covered waiting⟩

end System

theorem CaseFile.awaiting_eq_waits (steps : List Step) {id : Nat} {file : CaseFile}
    (found : (System.initial.follow steps).store.fileOf id = some file)
    (kept : ¬ Earlier steps (System.Abandons · · id)) : file.awaiting = file.waits := by
  refine file_invariant (fun steps id file => ¬ Earlier steps (System.Abandons · · id) →
    file.awaiting = file.waits) ?_ ?_ ?_ steps found kept
  · exact fun _ _ _ _ _ _ _ => rfl
  · exact fun _ step _ _ same kept => same fun earlier => kept (earlier.more [step])
  · intro steps step id before after moves same kept
    have even := same fun earlier => kept (earlier.more [step])
    apply moves.exchange.even even
    -- The case is only given up while nothing waits at the register.
    intro role
    by_contra waiting
    rw [← Store.waits_eq moves.found] at waiting
    exact kept (earlier_last ⟨moves.takes, role, waiting⟩)

/-- As many requests of a case await a reply as tasks wait for one, unless the case was given up
at a time when a licence that was sent waited for its reply. -/
theorem awaiting_eq_waits_iff (steps : List Step) {id : Nat} {application : Application}
    (stored : (System.initial.follow steps).store.applications.find? id = some application) :
    (System.initial.follow steps).store.awaiting id = (System.initial.follow steps).store.waits id ↔
      ¬ Earlier steps (System.Abandons · · id) := by
  obtain ⟨file, found, -⟩ := Store.exists_fileOf stored
  rw [Store.awaiting_eq found, Store.waits_eq found]
  constructor
  · rintro even ⟨before, step, rest, rfl, abandons⟩
    obtain ⟨between, kept, lost⟩ := abandons.lost
    obtain ⟨after, last, lost⟩ := System.lost_follow (before ++ [step]) rest kept lost
    rw [List.append_assoc, List.singleton_append] at last
    cases found.symm.trans last
    omega
  · exact CaseFile.awaiting_eq_waits steps found

namespace Sample

def handedOver : List Operation :=
  let dated : List Operation :=
    [.editLicence .importing 1 ⟨none, some ⟨2025, 3, 31, by decide⟩, some false⟩]
  let signed : List Operation :=
    [.authoriseDocuments .importing 1 user, .documentsSigned .importing 1]
  licence ++ dated ++ approval .importing ++ signed

def withdrawn : List Step :=
  let accepted : List Operation :=
    [.requestWithdrawal .importing 1 user "changed plans",
      .respondToWithdrawal .importing 1 user true none]
  (handedOver ++ accepted).map (step false)

theorem withdrawn_left :
    ∃ application ∈ (System.initial.follow withdrawn).store.applications.rows,
      application.id = 1 ∧ application.status = .withdrawn ∧
        (System.initial.follow withdrawn).store.awaiting 1 = 1 ∧
        (System.initial.follow withdrawn).store.waits 1 = 0 := by
  decide +kernel

end Sample

theorem withdrawn_abandoned : Earlier Sample.withdrawn (System.Abandons · · 1) := by
  obtain ⟨application, stored, number, -, awaiting, waits⟩ := Sample.withdrawn_left
  by_contra kept
  have even := (awaiting_eq_waits_iff Sample.withdrawn
    (Table.find?_eq_some_iff.2 ⟨stored, number⟩)).2 kept
  rw [awaiting, waits] at even
  cases even

/-- Not every request that awaits a reply has a task that waits for it: an accepted withdrawal ends
the task and leaves the request as it is. -/
theorem withdrawn_unmatched :
    ¬ ∀ system, Reachable system → ∀ application ∈ system.store.applications.rows,
      system.store.awaiting application.id = system.store.waits application.id := by
  intro matched
  obtain ⟨application, stored, number, -, awaiting, waits⟩ := Sample.withdrawn_left
  have even := matched _ (reachable_iff.2 ⟨Sample.withdrawn, rfl⟩) application stored
  rw [number, awaiting, waits] at even
  cases even

end Casework
