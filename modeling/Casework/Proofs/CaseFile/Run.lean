import Mathlib.Data.List.Induction
import Casework.Proofs.CaseFile.Caseworker
import Casework.Proofs.CaseFile.ChiefReply
import Casework.Proofs.Work.Footprint

set_option autoImplicit false

namespace Casework

open Calendar

structure Changes (context : Context) (operation : Operation) (start after : Store) : Prop where
  sound : after.Sound
  files : ∀ id, Change context id operation (start.fileOf id) (after.fileOf id)
  numbers : start.Extends after
  -- Only for a stored case is anything sent to the register.
  requests : ∀ id, after.requestsOf id = start.requestsOf id ∨ (after.fileOf id).isSome = true

theorem Moved.changes {context : Context} {id : Nat} {operation : Operation} {start after : Store}
    (moved : Moved context id operation start after) : Changes context operation start after := by
  obtain ⟨before, file, found, move, held⟩ := moved
  refine ⟨held.sound, fun other => ?_, held.numbers, held.requests_or⟩
  by_cases mine : other = id
  -- Only the file of the case itself has moved.
  · subst mine
    rw [found, held.found]
    exact .moved move
  · rw [held.others other mine]
    exact .same

theorem Changes.refl {context : Context} {operation : Operation} {store : Store}
    (sound : store.Sound) : Changes context operation store store :=
  ⟨sound, fun _ => .same, .refl store, fun _ => .inl rfl⟩

def Operation.subject : Operation → Option Nat
  | .edit _ id _ | .submit _ id _ | .takeOwnership _ id _ | .releaseOwnership _ id
  | .completeChecklist _ id _ | .editLicence _ id _ | .decide _ id _ | .startAuthorisation _ id _
  | .authoriseDocuments _ id _ | .documentsSigned _ id | .documentsFailed _ id
  | .retrySigning _ id | .requestWithdrawal _ id _ _ | .respondToWithdrawal _ id _ _ _
  | .stop _ id | .reopen _ id | .revoke _ id _ | .requestVariation _ id _ _
  | .addInformationRequest _ id _ | .respondToInformationRequest _ id _
  | .closeInformationRequest _ id _ | .addUpdateRequest _ id _ | .startUpdate _ id _
  | .closeUpdateRequest _ id _ | .addEmail _ id _ | .closeEmail _ id _ | .approveLicence id
  | .rejectLicence id _ | .resendLicence id | .revertLicence id => some id
  | .create _ _ | .get _ _ | .view _ _ | .cancel _ _ | .reassign _ _ _ | .pendingLicences
  | .failedLicences | .search _ _ | .spreadsheet _ => none

namespace Work

variable {context : Context} {desk after : Desk}

theorem create_changes (sound : desk.store.Sound) {user : User} {draft : NewApplication}
    {answer : Application} (ran : create draft context desk = (.ok answer, after)) :
    Changes context (.create user draft) desk.store after.store := by
  simp only [create, bind_eq_ok_iff, require_eq_ok_iff, enter_eq_ok_iff, nextProcess,
    addApplication, now_run, write_run, read_run, pure_run, Prod.mk.injEq, Except.ok.injEq] at ran
  obtain ⟨_, _, ⟨suited, rfl⟩, _, _, ⟨-, rfl⟩, _, _, ⟨_, _, ⟨-, rfl⟩, rfl, rfl⟩, _, _,
    ⟨rfl, rfl⟩, _, _,
    ⟨_, _, ⟨-, rfl⟩, _, _, ⟨-, rfl⟩, -, rfl⟩, _, _, created, _, _, drafted, -, rfl⟩ := ran
  have opened := Store.open_file sound (draft.toApplication (_ + 1) context.now) rfl
  obtain ⟨task, -, created⟩ := opened.createTask created
  obtain ⟨pack, _, -, rfl, held⟩ := created.createDraft drafted rfl
  refine ⟨held.sound, fun id => ?_, held.numbers, held.requests_or⟩
  by_cases mine : id = desk.store.lastProcess + 1
  · subst mine
    -- The number has never been given out.
    have absent : desk.store.fileOf (desk.store.lastProcess + 1) = none := by
      refine Option.eq_none_iff_forall_ne_some.2 fun file found => ?_
      have bound := Store.id_le_of_fileOf sound found
      omega
    rw [absent, held.found]
    exact .started rfl suited
  · rw [held.others id mine]
    exact .same

theorem cancel_changes (sound : desk.store.Sound) {caseType : CaseType} {id : Nat} {answer : Unit}
    (ran : cancel caseType id context desk = (.ok answer, after)) :
    Changes context (.cancel caseType id) desk.store after.store := by
  simp only [cancel, removeApplication, bind_eq_ok_iff, findApplication_eq_ok_iff, write_run,
    pure_run, Prod.mk.injEq] at ran
  obtain ⟨_, _, loaded, task, _, checked, _, _, ⟨_, _, ⟨-, rfl⟩, _, _, ⟨-, rfl⟩, -, rfl⟩,
    -, rfl⟩ := ran
  obtain ⟨rfl, file, rfl, kind, held⟩ := Replaces.load sound loaded
  obtain ⟨rfl, current⟩ := held.current checked
  refine ⟨sound.removeApplication id, fun other => ?_, Store.extends_removeApplication _ id,
    fun _ => .inl rfl⟩
  rw [Store.fileOf_removeApplication]
  split
  next mine =>
    subst mine
    rw [held.found]
    exact .removed rfl kind current
  next => exact .same

theorem reassign_changes (sound : desk.store.Sound) {caseType : CaseType} {ids answer : List Nat}
    {owner : User} (ran : reassign caseType ids owner context desk = (.ok answer, after)) :
    Changes context (.reassign caseType ids owner) desk.store after.store := by
  simp only [reassign, bind_eq_ok_iff, enter_eq_ok_iff] at ran
  obtain ⟨_, _, ⟨-, rfl⟩, ran⟩ := ran
  obtain ⟨after_sound, files, numbers, requests⟩ := reassignEach_files sound ran
  refine ⟨after_sound, fun id => ?_, numbers, fun id => .inl (requests id)⟩
  rcases files id with same | ⟨file, found, kind, member, stage, same⟩
  · rw [same]
    exact .same
  · rw [same, found]
    exact .moved (.edit (.reassign kind member stage))

theorem search_keeps {terms : SearchTerms} {limit : Option Nat} {answer : SearchResults}
    (ran : search terms limit context desk = (.ok answer, after)) : desk = after := by
  simp only [search, bind_eq_ok_iff, enter_eq_ok_iff, context_run, ask_eq_ok_iff,
    Prod.mk.injEq] at ran
  obtain ⟨_, _, ⟨-, rfl⟩, _, _, ⟨-, rfl⟩, -, rfl⟩ := ran
  rfl

theorem work_moves (sound : desk.store.Sound) {operation : Operation} {id : Nat} {answer : Answer}
    (subject : operation.subject = some id)
    (ran : operation.work context desk = (.ok answer, after)) :
    Moved context id operation desk.store after.store := by
  cases operation <;> cases subject <;> obtain ⟨_, ran, -⟩ := map_eq_ok_iff.1 ran
  case edit => exact edit_moves sound ran
  case submit => exact submit_moves sound ran
  case takeOwnership => exact takeOwnership_moves sound ran
  case releaseOwnership => exact releaseOwnership_moves sound ran
  case completeChecklist => exact completeChecklist_moves sound ran
  case editLicence => exact editLicence_moves sound ran
  case decide => exact decide_moves sound ran
  case startAuthorisation => exact startAuthorisation_moves sound ran
  case authoriseDocuments => exact authoriseDocuments_moves sound ran
  case documentsSigned => exact documentsSigned_moves sound ran
  case documentsFailed => exact documentsFailed_moves sound ran
  case retrySigning => exact retrySigning_moves sound ran
  case requestWithdrawal => exact requestWithdrawal_moves sound ran
  case respondToWithdrawal => exact respondToWithdrawal_moves sound ran
  case stop => exact stop_moves sound ran
  case reopen => exact reopen_moves sound ran
  case revoke => exact revoke_moves sound ran
  case requestVariation => exact requestVariation_moves sound ran
  case addInformationRequest => exact addInformationRequest_moves sound ran
  case respondToInformationRequest => exact respondToInformationRequest_moves sound ran
  case closeInformationRequest => exact closeInformationRequest_moves sound ran
  case addUpdateRequest => exact addUpdateRequest_moves sound ran
  case startUpdate => exact startUpdate_moves sound ran
  case closeUpdateRequest => exact closeUpdateRequest_moves sound ran
  case addEmail => exact addEmail_moves sound ran
  case closeEmail => exact closeEmail_moves sound ran
  case approveLicence => exact approveLicence_moves sound ran
  case rejectLicence => exact rejectLicence_moves sound ran
  case resendLicence => exact resendLicence_moves sound ran
  case revertLicence => exact revertLicence_moves sound ran

theorem work_changes (sound : desk.store.Sound) {operation : Operation} {answer : Answer}
    (ran : operation.work context desk = (.ok answer, after)) :
    Changes context operation desk.store after.store := by
  cases subject : operation.subject with
  | some id => exact (work_moves sound subject ran).changes
  | none =>
    cases operation with
    | create =>
      obtain ⟨_, ran, -⟩ := map_eq_ok_iff.1 ran
      exact create_changes sound ran
    | cancel =>
      obtain ⟨_, ran, -⟩ := map_eq_ok_iff.1 ran
      exact cancel_changes sound ran
    | reassign =>
      obtain ⟨_, ran, -⟩ := map_eq_ok_iff.1 ran
      exact reassign_changes sound ran
    | get =>
      obtain ⟨_, ran, -⟩ := map_eq_ok_iff.1 ran
      obtain ⟨-, -, -, rfl⟩ := load_eq_ok_iff.1 ran
      exact .refl sound
    | view =>
      obtain ⟨_, ran, -⟩ := map_eq_ok_iff.1 ran
      simp only [view, bind_eq_ok_iff, load_eq_ok_iff, read_run, Prod.mk.injEq] at ran
      obtain ⟨_, _, ⟨-, -, -, rfl⟩, -, rfl⟩ := ran
      exact .refl sound
    | pendingLicences =>
      obtain ⟨_, ran, -⟩ := map_eq_ok_iff.1 ran
      simp only [pendingLicences, bind_eq_ok_iff, enter_eq_ok_iff, read_run, Prod.mk.injEq] at ran
      obtain ⟨_, _, ⟨-, rfl⟩, -, rfl⟩ := ran
      exact .refl sound
    | failedLicences =>
      obtain ⟨_, ran, -⟩ := map_eq_ok_iff.1 ran
      simp only [failedLicences, bind_eq_ok_iff, enter_eq_ok_iff, read_run, Prod.mk.injEq] at ran
      obtain ⟨_, _, ⟨-, rfl⟩, -, rfl⟩ := ran
      exact .refl sound
    | search =>
      obtain ⟨_, ran, -⟩ := map_eq_ok_iff.1 ran
      rw [← search_keeps ran]
      exact .refl sound
    | spreadsheet =>
      obtain ⟨_, ran, -⟩ := map_eq_ok_iff.1 ran
      simp only [spreadsheet, bind_eq_ok_iff, enter_eq_ok_iff, read_run, pure_run,
        Prod.mk.injEq] at ran
      obtain ⟨_, _, ⟨-, rfl⟩, _, _, ⟨-, rfl⟩, _, _, searched, -, rfl⟩ := ran
      rw [← search_keeps searched]
      exact .refl sound
    | _ => cases subject

end Work

def Setting.around (setting : Setting) (system : System) : Context :=
  { now := setting.now, clock := setting.clock, sendsLicences := setting.sendsLicences
    searchLimit := setting.searchLimit, transport := setting.transport
    available := !system.isPoisoned }

structure Step where
  setting : Setting
  operation : Operation

namespace System

variable {system : System} {step : Step}

def after (system : System) (step : Step) : System :=
  (system.perform step.setting step.operation).2

section Perform

variable {setting : Setting} {operation : Operation} {desk : Desk}

theorem perform_of_ok {answer : Answer}
    (ran : operation.work (setting.around system) ⟨system.store, system.accepted⟩ =
      (.ok answer, desk)) :
    system.perform setting operation =
      (.ok answer, { system with store := desk.store, accepted := desk.accepted }) := by
  simp only [Setting.around] at ran
  simp only [perform, run, ran]

theorem perform_of_error {error : CaseError}
    (ran : operation.work (setting.around system) ⟨system.store, system.accepted⟩ =
      (.error error, desk)) :
    system.perform setting operation =
      (.error error, { system with accepted := desk.accepted }) := by
  simp only [Setting.around] at ran
  simp only [perform, run, ran]

end Perform

theorem perform_fst (setting : Setting) (operation : Operation) :
    (system.perform setting operation).1 =
      (operation.work (setting.around system) ⟨system.store, system.accepted⟩).1 := by
  rcases ran : operation.work (setting.around system) ⟨system.store, system.accepted⟩ with
    ⟨error | answer, desk⟩
  · rw [perform_of_error ran]
  · rw [perform_of_ok ran]

def Takes (system : System) (step : Step) : Prop :=
  ∃ answer, (system.perform step.setting step.operation).1 = .ok answer

theorem takes_of_isOk (succeeded : (system.perform step.setting step.operation).1.isOk = true) :
    system.Takes step := by
  unfold Takes
  cases result : (system.perform step.setting step.operation).1 with
  | ok answer => exact ⟨answer, rfl⟩
  | error error =>
    rw [result] at succeeded
    cases succeeded

def follow (system : System) (steps : List Step) : System := steps.foldl after system

theorem follow_append (steps : List Step) (step : Step) :
    system.follow (steps ++ [step]) = (system.follow steps).after step := by
  rw [follow, List.foldl_append]
  rfl

theorem Takes.ran (taken : system.Takes step) : ∃ answer desk,
    step.operation.work (step.setting.around system) ⟨system.store, system.accepted⟩ =
      (.ok answer, desk) := by
  obtain ⟨answer, taken⟩ := taken
  rw [perform_fst] at taken
  exact ⟨answer, _, Prod.ext taken rfl⟩

theorem after_cases (sound : system.store.Sound) (step : Step) :
    (¬ system.Takes step ∧ (system.after step).store = system.store) ∨
      (system.Takes step ∧ Changes (step.setting.around system) step.operation system.store
        (system.after step).store) := by
  rcases ran : step.operation.work (step.setting.around system) ⟨system.store, system.accepted⟩ with
    ⟨error | value, desk⟩
  -- What the register has taken stays taken, but the tables are put back.
  · have performed := perform_of_error ran
    refine .inl ⟨?_, ?_⟩
    · rintro ⟨answer, taken⟩
      rw [performed] at taken
      cases taken
    · rw [after, performed]
  · have performed := perform_of_ok ran
    refine .inr ⟨⟨value, ?_⟩, ?_⟩
    · rw [performed]
    · rw [after, performed]
      exact Work.work_changes sound ran

theorem sound_after (sound : system.store.Sound) (step : Step) :
    (system.after step).store.Sound := by
  rcases after_cases sound step with ⟨-, same⟩ | ⟨-, changes⟩
  · rwa [same]
  · exact changes.sound

theorem sound_follow (steps : List Step) : (initial.follow steps).store.Sound := by
  induction steps using List.reverseRecOn with
  | nil => exact Store.sound_empty
  | append_singleton steps step ih =>
    rw [follow_append]
    exact sound_after ih step

-- No number is given out twice, even if the record that had it has been removed.
theorem extends_follow (steps later : List Step) :
    (initial.follow steps).store.Extends (initial.follow (steps ++ later)).store := by
  induction later using List.reverseRecOn with
  | nil =>
    rw [List.append_nil]
    exact .refl _
  | append_singleton later step ih =>
    rw [← List.append_assoc, follow_append]
    rcases after_cases (sound_follow (steps ++ later)) step with ⟨-, same⟩ | ⟨-, changes⟩
    · rwa [same]
    · exact ih.trans changes.numbers

def desk (system : System) : Desk := ⟨system.store, system.accepted⟩

theorem keeps_after (step : Step) {part : Part} (apart : part ∉ step.operation.parts) :
    system.desk.Keeps (system.after step).desk part := by
  have kept := (step.operation.touches_work (step.setting.around system) system.desk).1 part apart
  rcases ran : step.operation.work (step.setting.around system) system.desk with
    ⟨error | value, desk⟩
  -- Whatever has been done to the tables is put back.
  · rw [ran] at kept
    rw [after, perform_of_error ran]
    cases part with
    | outbox => exact kept
    | _ => simp [Desk.Keeps, System.desk]
  · rw [ran] at kept
    rw [after, perform_of_ok ran]
    exact kept

theorem sequences_le_after (step : Step) (series : String) (year : Option Int) :
    system.store.sequences series year ≤ (system.after step).store.sequences series year := by
  have untouched : Part.drawn ∉ step.operation.parts := by
    cases step.operation <;> simp [Operation.parts]
  exact keeps_after step untouched series year

end System

theorem reachable_iff {system : System} :
    Reachable system ↔ ∃ steps, System.initial.follow steps = system := by
  constructor
  · intro reached
    induction reached with
    | initial => exact ⟨[], rfl⟩
    | perform reached setting operation ih =>
      obtain ⟨steps, rfl⟩ := ih
      exact ⟨steps ++ [⟨setting, operation⟩], System.follow_append steps _⟩
  · rintro ⟨steps, rfl⟩
    induction steps using List.reverseRecOn with
    | nil => exact .initial
    | append_singleton steps step ih =>
      rw [System.follow_append]
      exact .perform ih step.setting step.operation

/-- Some step before the end of the run was such an event in the system that it found. -/
def Earlier (steps : List Step) (event : System → Step → Prop) : Prop :=
  ∃ before step rest, steps = before ++ step :: rest ∧ event (System.initial.follow before) step

theorem Earlier.more {steps : List Step} {event : System → Step → Prop}
    (earlier : Earlier steps event) (later : List Step) : Earlier (steps ++ later) event := by
  obtain ⟨before, found, rest, rfl, happened⟩ := earlier
  exact ⟨before, found, rest ++ later, by simp, happened⟩

theorem earlier_last {steps : List Step} {event : System → Step → Prop} {step : Step}
    (happened : event (System.initial.follow steps) step) : Earlier (steps ++ [step]) event :=
  ⟨steps, step, [], rfl, happened⟩

theorem Earlier.exists_index {steps : List Step} {event : System → Step → Prop}
    (earlier : Earlier steps event) :
    ∃ index : Fin steps.length, event (System.initial.follow (steps.take index)) steps[index] := by
  obtain ⟨before, step, rest, rfl, happened⟩ := earlier
  refine ⟨⟨before.length, by simp⟩, ?_⟩
  simpa using happened

/-- Some step of the run was such an event, and no step after it ended what it began. -/
def Since (steps : List Step) (event ended : System → Step → Prop) : Prop :=
  ∃ before step rest, steps = before ++ step :: rest ∧ event (System.initial.follow before) step ∧
    ∀ middle next later, rest = middle ++ next :: later →
      ¬ ended (System.initial.follow (before ++ step :: middle)) next

theorem since_append_iff {steps : List Step} {step : Step} {event ended : System → Step → Prop} :
    Since (steps ++ [step]) event ended ↔
      event (System.initial.follow steps) step ∨
        (Since steps event ended ∧ ¬ ended (System.initial.follow steps) step) := by
  constructor
  · rintro ⟨before, first, rest, same, happened, lasting⟩
    cases rest using List.reverseRecOn with
    | nil =>
      obtain ⟨rfl, rfl⟩ := List.append_inj' same rfl |>.imp id List.singleton_inj.1
      exact .inl happened
    | append_singleton rest last =>
      rw [← List.cons_append, ← List.append_assoc] at same
      obtain ⟨rfl, rfl⟩ := List.append_inj' same rfl |>.imp id List.singleton_inj.1
      refine .inr ⟨⟨before, first, rest, rfl, happened, fun middle next later shape => ?_⟩, ?_⟩
      · exact lasting middle next (later ++ [step]) (by simp [shape])
      · exact lasting rest step [] rfl
  · rintro (happened | ⟨⟨before, first, rest, rfl, happened, lasting⟩, unended⟩)
    · exact ⟨steps, step, [], rfl, happened, fun middle next later shape => by simp at shape⟩
    · refine ⟨before, first, rest ++ [step], by simp, happened, fun middle next later shape => ?_⟩
      cases later using List.reverseRecOn with
      | nil =>
        obtain ⟨rfl, rfl⟩ := List.append_inj' shape rfl |>.imp id List.singleton_inj.1
        exact unended
      | append_singleton later last =>
        rw [← List.cons_append, ← List.append_assoc] at shape
        exact lasting middle next later (List.append_inj' shape rfl).1

namespace System

variable {system : System}

structure Moves (system : System) (step : Step) (id : Nat) (before after : CaseFile) : Prop where
  found : system.store.fileOf id = some before
  takes : system.Takes step
  move : Move (step.setting.around system) id step.operation before after
  becomes : (system.after step).store.fileOf id = some after

theorem Moves.ordered {step : Step} {id : Nat} {before after : CaseFile}
    (moves : system.Moves step id before after) : before.Ordered :=
  Store.ordered_of_fileOf moves.found

theorem Moves.stored {step : Step} {id : Nat} {before after : CaseFile}
    (moves : system.Moves step id before after) :
    system.store.applications.find? id = some before.application :=
  (Store.fileOf_eq_some_iff.1 moves.found).1

theorem Moves.stored_after {step : Step} {id : Nat} {before after : CaseFile}
    (moves : system.Moves step id before after) :
    (system.after step).store.applications.find? id = some after.application :=
  (Store.fileOf_eq_some_iff.1 moves.becomes).1

theorem moves_of_moved {step : Step} {id : Nat} {answer : Answer} {desk : Desk}
    (ran : step.operation.work (step.setting.around system) ⟨system.store, system.accepted⟩ =
      (.ok answer, desk))
    (moved : Moved (step.setting.around system) id step.operation system.store desk.store) :
    ∃ before after, system.Moves step id before after := by
  obtain ⟨before, file, found, move, held⟩ := moved
  have performed := perform_of_ok ran
  exact ⟨before, file, found, ⟨answer, by rw [performed]⟩, move,
    by rw [after, performed, held.found]⟩

theorem Takes.moves {step : Step} {id : Nat} (sound : system.store.Sound)
    (taken : system.Takes step) (subject : step.operation.subject = some id) :
    ∃ before after, system.Moves step id before after := by
  obtain ⟨answer, desk, ran⟩ := taken.ran
  exact moves_of_moved ran (Work.work_moves sound subject ran)

theorem file_after (sound : system.store.Sound) (step : Step) (id : Nat) :
    (system.after step).store.fileOf id = system.store.fileOf id ∨
      (∃ user draft task pack, step.operation = .create user draft ∧
        draft.givenGoods.suits draft.processType = true ∧ system.store.fileOf id = none ∧
        (system.after step).store.fileOf id =
          some (.started (draft.toApplication id step.setting.now) task pack step.setting.now)) ∨
      (∃ file, system.store.fileOf id = some file ∧ file.application.status = .inProgress ∧
        (system.after step).store.fileOf id = none) ∨
      ∃ before after, system.Moves step id before after := by
  rcases after_cases sound step with ⟨-, same⟩ | ⟨takes, changes⟩
  · exact .inl (by rw [same])
  · have change := changes.files id
    generalize before_eq : system.store.fileOf id = start at change ⊢
    generalize after_eq : (system.after step).store.fileOf id = final at change ⊢
    cases change with
    | same => exact .inl rfl
    | started named suited => exact .inr (.inl ⟨_, _, _, _, named, suited, rfl, rfl⟩)
    | removed _ _ current =>
      exact .inr (.inr (.inl ⟨_, rfl, List.mem_singleton.1 current.status, rfl⟩))
    | moved move => exact .inr (.inr (.inr ⟨_, _, before_eq, takes, move, after_eq⟩))

theorem case_after (sound : system.store.Sound) (step : Step) {id : Nat} {file : CaseFile}
    (found : system.store.fileOf id = some file) :
    (system.after step).store.fileOf id = some file ∨
      (file.application.status = .inProgress ∧ (system.after step).store.fileOf id = none) ∨
      ∃ after, system.Moves step id file after := by
  rcases file_after sound step id with
    same | ⟨_, _, _, _, -, -, missing, -⟩ | ⟨_, stored, new, gone⟩ | ⟨before, after, moves⟩
  · exact .inl (same.trans found)
  · cases found.symm.trans missing
  · cases found.symm.trans stored
    exact .inr (.inl ⟨new, gone⟩)
  · cases found.symm.trans moves.found
    exact .inr (.inr ⟨after, moves⟩)

theorem case_before (sound : system.store.Sound) (step : Step) {id : Nat} {file : CaseFile}
    (left : (system.after step).store.fileOf id = some file) :
    system.store.fileOf id = some file ∨
      (∃ user draft task pack, step.operation = .create user draft ∧
        draft.givenGoods.suits draft.processType = true ∧ system.store.fileOf id = none ∧
        file = .started (draft.toApplication id step.setting.now) task pack step.setting.now) ∨
      ∃ before, system.Moves step id before file := by
  rcases file_after sound step id with
    same | ⟨user, draft, task, pack, named, suited, missing, created⟩ | ⟨_, -, -, removed⟩ |
      ⟨before, after, moves⟩
  · exact .inl (same.symm.trans left)
  · cases created.symm.trans left
    exact .inr (.inl ⟨user, draft, task, pack, named, suited, missing, rfl⟩)
  · cases removed.symm.trans left
  · cases moves.becomes.symm.trans left
    exact .inr (.inr ⟨before, moves⟩)

end System

-- An induction over runs for what relates a file to the history of its case.
theorem file_history (holds : List Step → Nat → CaseFile → Prop)
    (started : ∀ steps (step : Step) id draft task pack,
      (System.initial.follow steps).store.fileOf id = none →
      (System.initial.follow (steps ++ [step])).store.fileOf id =
        some (.started (NewApplication.toApplication draft id step.setting.now) task pack
          step.setting.now) →
      holds (steps ++ [step]) id
        (.started (NewApplication.toApplication draft id step.setting.now) task pack
          step.setting.now))
    (kept : ∀ steps (step : Step) id file,
      (System.initial.follow steps).store.fileOf id = some file →
      (System.initial.follow (steps ++ [step])).store.fileOf id = some file →
        holds steps id file → holds (steps ++ [step]) id file)
    (moved : ∀ steps (step : Step) id before after,
      (System.initial.follow steps).Moves step id before after → holds steps id before →
        holds (steps ++ [step]) id after)
    (steps : List Step) {id : Nat} {file : CaseFile}
    (found : (System.initial.follow steps).store.fileOf id = some file) : holds steps id file := by
  induction steps using List.reverseRecOn generalizing id file with
  | nil => cases found
  | append_singleton steps step ih =>
    have last := found
    rw [System.follow_append] at found
    rcases System.case_before (System.sound_follow steps) step found with
      same | ⟨_, draft, task, pack, -, -, missing, rfl⟩ | ⟨before, moves⟩
    -- A step that leaves the file alone still makes the run longer.
    · exact kept steps step id file same last (ih same)
    · exact started steps step id draft task pack missing last
    · exact moved steps step id before file moves (ih moves.found)

theorem file_invariant (holds : List Step → Nat → CaseFile → Prop)
    (started : ∀ steps (step : Step) id draft task pack,
      holds (steps ++ [step]) id
        (.started (NewApplication.toApplication draft id step.setting.now) task pack
          step.setting.now))
    (kept : ∀ steps (step : Step) id file, holds steps id file → holds (steps ++ [step]) id file)
    (moved : ∀ steps (step : Step) id before after,
      (System.initial.follow steps).Moves step id before after → holds steps id before →
        holds (steps ++ [step]) id after)
    (steps : List Step) {id : Nat} {file : CaseFile}
    (found : (System.initial.follow steps).store.fileOf id = some file) : holds steps id file :=
  file_history holds
    (fun steps step id draft task pack _ _ => started steps step id draft task pack)
    (fun steps step id file _ _ => kept steps step id file) moved steps found

-- What only files of handed-in cases satisfy and only such an event undoes stays true of a file
-- until there is one: no such file is ever removed.
theorem file_lasts (holds : CaseFile → Prop) (event : System → Step → Prop) {id : Nat}
    (old : ∀ steps file, (System.initial.follow steps).store.fileOf id = some file → holds file →
      file.application.status ≠ .inProgress)
    (moved : ∀ steps step before after, (System.initial.follow steps).Moves step id before after →
      holds before → event (System.initial.follow steps) step ∨ holds after)
    (steps later : List Step) {file : CaseFile}
    (found : (System.initial.follow steps).store.fileOf id = some file) (held : holds file) :
    (∃ first step rest, later = first ++ step :: rest ∧
      event (System.initial.follow (steps ++ first)) step) ∨
    ∃ after, (System.initial.follow (steps ++ later)).store.fileOf id = some after ∧
      holds after := by
  induction later using List.reverseRecOn with
  | nil => exact .inr ⟨file, by rwa [List.append_nil], held⟩
  | append_singleton later step ih =>
    rcases ih with ⟨first, earlier, rest, rfl, happened⟩ | ⟨between, stored, still⟩
    · exact .inl ⟨first, earlier, rest ++ [step], by simp, happened⟩
    rw [← List.append_assoc, System.follow_append]
    rcases System.case_after (System.sound_follow (steps ++ later)) step stored with
      same | ⟨new, -⟩ | ⟨after, moves⟩
    · exact .inr ⟨between, same, still⟩
    · exact absurd new (old _ _ stored still)
    · rcases moved _ step _ _ moves still with happened | kept
      · exact .inl ⟨later, step, [], rfl, happened⟩
      · exact .inr ⟨after, moves.becomes, kept⟩

theorem file_persists (holds : CaseFile → Prop) {id : Nat}
    (old : ∀ steps file, (System.initial.follow steps).store.fileOf id = some file → holds file →
      file.application.status ≠ .inProgress)
    (moved : ∀ steps step before after, (System.initial.follow steps).Moves step id before after →
      holds before → holds after)
    (steps later : List Step) {file : CaseFile}
    (found : (System.initial.follow steps).store.fileOf id = some file) (held : holds file) :
    ∃ after, (System.initial.follow (steps ++ later)).store.fileOf id = some after ∧
      holds after := by
  refine (file_lasts holds (fun _ _ => False) old (fun steps step before after moves still => ?_)
    steps later found held).resolve_left ?_
  · exact .inr (moved steps step before after moves still)
  · rintro ⟨_, _, _, -, never⟩
    exact never

namespace Sample

def user : User := ⟨1, "Ada", "Poe", "ada@example.com"⟩

def step (sendsLicences : Bool) (operation : Operation) : Step where
  setting :=
    { now := { date := { year := 2024, month := 2, day := 1 }, second := 43200, nano := 0 }
      sendsLicences
      searchLimit := 200
      transport := fun _ => none }
  operation

def approval (caseType : CaseType) : List Operation :=
  [.completeChecklist caseType 1 ⟨some .no, some .no, some .no, some .no, true, true⟩,
    .decide caseType 1 ⟨.approve, none⟩,
    .startAuthorisation caseType 1 user]

def refusedWithdrawal (caseType : CaseType) : List Operation :=
  [.requestWithdrawal caseType 1 user "changed plans",
    .respondToWithdrawal caseType 1 user false none]

def certificate : List Operation :=
  [.create user
    ⟨.manufacture, user, "Acme Ltd", none, none, some (.certified ⟨["France"], [], []⟩)⟩,
    .submit .exporting 1 user,
    .takeOwnership .exporting 1 user] ++ approval .exporting

def licence : List Operation :=
  [.create user ⟨.deactivatedFirearms, user, "Acme Ltd", none, none,
      some (.firearms ⟨some "Norway", some "Belgium", some .chapter93⟩)⟩,
    .submit .importing 1 user,
    .takeOwnership .importing 1 user]

end Sample

end Casework
