import Casework.Proofs.CaseFile.Counts
import Casework.Proofs.Reference.Numbering

set_option autoImplicit false

namespace Casework

open Calendar

def Application.entries (application : Application) : List Nat :=
  application.withdrawals.map (·.id) ++ application.variations.map (·.id)

def Operation.registers : Operation → Option Nat
  | .requestWithdrawal _ id _ _ | .requestVariation _ id _ _ => some id
  | _ => none

theorem map_changeFirst {α β : Type} {wanted : α → Bool} {change : α → α} {view : α → β}
    (same : ∀ entry, view (change entry) = view entry) (entries : List α) :
    (changeFirst wanted change entries).map view = entries.map view := by
  induction entries with
  | nil => rfl
  | cons head tail ih =>
    unfold changeFirst
    split
    · simp only [List.map_cons, same]
    · simp only [List.map_cons, ih]

namespace Application

variable (application : Application)

theorem entries_closeOpenVariation (status : VariationStatus) (now : Instant) :
    (application.closeOpenVariation status now).entries = application.entries := by
  simp only [entries, closeOpenVariation]
  rw [map_changeFirst]
  exact fun _ => rfl

theorem entries_rejectVariation (now : Instant) :
    (application.rejectVariation now).entries = application.entries := by
  simp only [entries, rejectVariation, closeOpenVariation]
  rw [map_changeFirst, map_changeFirst]
  · exact fun _ => rfl
  · exact fun _ => rfl

theorem entries_answerWithdrawal (user : User) (status : WithdrawalStatus)
    (answer : Option String) :
    (application.answerWithdrawal user status answer).entries = application.entries := by
  simp only [entries, answerWithdrawal]
  rw [map_changeFirst]
  exact fun _ => rfl

theorem entries_withdraw (now : Instant) :
    (application.withdraw now).entries = application.entries := by
  unfold withdraw
  split
  · exact application.entries_closeOpenVariation .withdrawn now
  · rfl

end Application

section Moves

open CaseFile

variable {context : Context} {id : Nat} {operation : Operation} {file after : CaseFile}

theorem Edit.entries_eq {application : Application}
    (edit : Edit context id operation file application) (silent : operation.registers = none) :
    application.entries = file.application.entries := by
  cases edit with
  | withdrawal => cases silent
  | decision => unfold Application.withDecision; split <;> rfl
  | _ => rfl

theorem Move.entries_eq (move : Move context id operation file after)
    (silent : operation.registers = none) :
    after.application.entries = file.application.entries := by
  cases move with
  | edit edit => exact edit.entries_eq silent
  | requestVariation => cases silent
  | refuseVariation => exact file.application.entries_rejectVariation context.now
  | issueDocuments | approveLicence | stop =>
    exact file.application.entries_closeOpenVariation _ context.now
  | acceptWithdrawal =>
    rw [put_application, Application.entries_withdraw]
    exact file.application.entries_answerWithdrawal _ _ _
  | rejectWithdrawal => exact file.application.entries_answerWithdrawal _ _ _
  | rejectLicence => rw [answer_application]; rfl
  | _ => rfl

end Moves

def Store.entriesOf (store : Store) (id : Nat) : List Nat :=
  match store.applications.find? id with
  | some application => application.entries
  | none => []

namespace Work

variable {context : Context} {desk after : Desk} {caseType : CaseType} {id : Nat} {user : User}
  {answer : Application}

structure Registers (id : Nat) (desk after : Desk) : Prop where
  counter : after.store.lastRecord = desk.store.lastRecord + 1
  entries : (after.store.entriesOf id).Perm
    ((desk.store.lastRecord + 1) :: desk.store.entriesOf id)

theorem Registers.origin (made : Registers id desk after)
    (others : ∀ other, other ≠ id → after.store.entriesOf other = desk.store.entriesOf other)
    {other entry : Nat} (member : entry ∈ after.store.entriesOf other) :
    entry ∈ desk.store.entriesOf other ∨ (other = id ∧ entry = desk.store.lastRecord + 1) := by
  by_cases mine : other = id
  · subst mine
    rcases List.mem_cons.1 (made.entries.mem_iff.1 member) with new | old
    · exact .inr ⟨rfl, new⟩
    · exact .inl old
  · rw [others other mine] at member
    exact .inl member

theorem saved_registers {application answer : Application}
    (ran : saved application context desk = (.ok answer, after)) (named : application.id = id) :
    after.store.lastRecord = desk.store.lastRecord ∧
      after.store.entriesOf id = application.entries := by
  obtain ⟨rfl, kept⟩ := saved_eq_ok_iff.1 ran
  obtain ⟨-, rfl⟩ := save_eq_ok_iff.1 kept
  refine ⟨rfl, ?_⟩
  rw [Store.entriesOf, Table.find?_insert, if_pos (show Numbered.number answer = id from named)]

theorem createDraft_records {application : Application} {isVariation : Bool} {pack : Nat}
    (ran : createDraft application isVariation context desk = (.ok pack, after)) :
    after.store.lastRecord = desk.store.lastRecord := by
  have touches : Touches [.packs] (createDraft application isVariation) :=
    touches_createDraft (by decide) application isVariation
  have kept := (touches context desk).1 .records (by decide)
  rwa [ran] at kept

theorem requestWithdrawal_registers {reason : String}
    (ran : requestWithdrawal caseType id user reason context desk = (.ok answer, after)) :
    Registers id desk after := by
  simp only [requestWithdrawal, nextRecord, bind_eq_ok_iff, require_eq_ok_iff, load_eq_ok_iff,
    checkFlow_eq_ok_iff, write_run, read_run, Prod.mk.injEq, Except.ok.injEq] at ran
  obtain ⟨_, _, ⟨-, rfl⟩, application, _, ⟨-, found, -, rfl⟩, _, _, ⟨-, rfl⟩, _, _, ⟨-, rfl⟩, _, _,
    ⟨_, _, ⟨-, rfl⟩, rfl, rfl⟩, ran⟩ := ran
  have named : application.id = id := (Table.find?_eq_some_iff.1 found).2
  obtain ⟨counter, entries⟩ := saved_registers ran named
  refine ⟨counter, ?_⟩
  rw [entries, Store.entriesOf, found]
  simp only [Application.entries, List.map_append, List.map_cons, List.map_nil, List.append_assoc]
  exact List.perm_middle

theorem requestVariation_registers {whatVaried : String}
    (ran : requestVariation caseType id user whatVaried context desk = (.ok answer, after)) :
    Registers id desk after := by
  simp only [requestVariation, nextRecord, bind_eq_ok_iff, require_eq_ok_iff, load_eq_ok_iff,
    checkFlow_eq_ok_iff, ofExcept_eq_ok_iff, now_run, write_run, read_run, createTask_run,
    Prod.mk.injEq, Except.ok.injEq] at ran
  obtain ⟨_, _, ⟨-, rfl⟩, application, _, ⟨-, found, -, rfl⟩, _, _, ⟨-, rfl⟩, _, _,
    ⟨_, _, ⟨-, rfl⟩, rfl, rfl⟩, _, _, ⟨rfl, rfl⟩, reference, _, ⟨-, rfl⟩, _, _, ⟨-, rfl⟩, _,
    between, drafted, ran⟩ := ran
  have named : application.id = id := (Table.find?_eq_some_iff.1 found).2
  obtain ⟨counter, entries⟩ := saved_registers ran named
  refine ⟨counter.trans (createDraft_records drafted), ?_⟩
  rw [entries, Store.entriesOf, found]
  simp only [Application.entries, List.map_append, List.map_cons, List.map_nil,
    ← List.append_assoc]
  exact List.perm_append_singleton _ _

end Work

namespace Store

structure EntriesFit (store : Store) : Prop where
  given : ∀ id, ∀ entry ∈ store.entriesOf id, entry ≤ store.lastRecord
  once : ∀ id, (store.entriesOf id).Nodup
  apart : ∀ first second entry, entry ∈ store.entriesOf first → entry ∈ store.entriesOf second →
    first = second

theorem entriesOf_stored {store : Store} {application : Application}
    (stored : application ∈ store.applications.rows) :
    store.entriesOf application.id = application.entries := by
  have found : store.applications.find? application.id = some application :=
    Table.find?_eq_some_iff.2 ⟨stored, rfl⟩
  rw [entriesOf, found]

theorem entriesOf_of_fileOf {store : Store} {id : Nat} {file : CaseFile}
    (found : store.fileOf id = some file) : store.entriesOf id = file.application.entries := by
  rw [entriesOf, (fileOf_eq_some_iff.1 found).1]

theorem entriesOf_unstored {store : Store} {id : Nat} (missing : store.fileOf id = none) :
    store.entriesOf id = [] := by
  rw [fileOf, Option.map_eq_none_iff] at missing
  rw [entriesOf, missing]

theorem entriesOf_congr {store later : Store} {id : Nat}
    (same : later.fileOf id = store.fileOf id) : later.entriesOf id = store.entriesOf id := by
  cases found : store.fileOf id with
  | none => rw [entriesOf_unstored found, entriesOf_unstored (same.trans found)]
  | some file => rw [entriesOf_of_fileOf found, entriesOf_of_fileOf (same.trans found)]

namespace EntriesFit

variable {store later : Store}

theorem shrink (fit : store.EntriesFit) (counter : later.lastRecord = store.lastRecord)
    (kept : ∀ id, later.entriesOf id = [] ∨ later.entriesOf id = store.entriesOf id) :
    later.EntriesFit := by
  have old : ∀ {id entry}, entry ∈ later.entriesOf id → entry ∈ store.entriesOf id := by
    intro id entry member
    rcases kept id with empty | same
    · rw [empty] at member
      cases member
    · rwa [same] at member
  refine ⟨fun id entry member => ?_, fun id => ?_, fun first second entry one other => ?_⟩
  · rw [counter]
    exact fit.given id entry (old member)
  · rcases kept id with empty | same
    · rw [empty]
      exact .nil
    · rw [same]
      exact fit.once id
  · exact fit.apart first second entry (old one) (old other)

theorem register {desk after : Desk} (fit : desk.store.EntriesFit) {id : Nat}
    (made : Work.Registers id desk after)
    (others : ∀ other, other ≠ id → after.store.entriesOf other = desk.store.entriesOf other) :
    after.store.EntriesFit := by
  refine ⟨fun other entry member => ?_, fun other => ?_, fun first second entry one two => ?_⟩
  · rw [made.counter]
    rcases made.origin others member with old | ⟨-, rfl⟩
    · exact Nat.le_succ_of_le (fit.given other entry old)
    · exact Nat.le_refl _
  · by_cases mine : other = id
    · subst mine
      refine made.entries.nodup_iff.2 (List.nodup_cons.2 ⟨fun taken => ?_, fit.once other⟩)
      have below := fit.given other _ taken
      omega
    · rw [others other mine]
      exact fit.once other
  -- The new number is above all that were given, so it is not shared with an old entry.
  · rcases made.origin others one with first_old | ⟨rfl, rfl⟩
    · rcases made.origin others two with second_old | ⟨rfl, rfl⟩
      · exact fit.apart first second entry first_old second_old
      · have below := fit.given first _ first_old
        omega
    · rcases made.origin others two with second_old | ⟨same, -⟩
      · have below := fit.given second _ second_old
        omega
      · exact same.symm

end EntriesFit

end Store

namespace System

variable {system : System}

theorem registers_of_takes (sound : system.store.Sound) {step : Step} (takes : system.Takes step)
    {id : Nat} (registers : step.operation.registers = some id) :
    Work.Registers id system.desk (system.after step).desk ∧
      ∀ other, other ≠ id → (system.after step).store.fileOf other = system.store.fileOf other := by
  obtain ⟨_, desk, ran⟩ := takes.ran
  have performed := perform_of_ok ran
  rw [System.desk, after, performed]
  cases named : step.operation with
  | requestWithdrawal =>
    rw [named] at ran registers
    cases registers
    obtain ⟨_, ran, -⟩ := Work.map_eq_ok_iff.1 ran
    obtain ⟨_, _, -, -, held⟩ := Work.requestWithdrawal_moves sound ran
    exact ⟨Work.requestWithdrawal_registers ran, held.others⟩
  | requestVariation =>
    rw [named] at ran registers
    cases registers
    obtain ⟨_, ran, -⟩ := Work.map_eq_ok_iff.1 ran
    obtain ⟨_, _, -, -, held⟩ := Work.requestVariation_moves sound ran
    exact ⟨Work.requestVariation_registers ran, held.others⟩
  | _ =>
    rw [named] at registers
    cases registers

theorem entries_after (sound : system.store.Sound) (step : Step) :
    ((system.after step).store.lastRecord = system.store.lastRecord ∧
      ∀ id, (system.after step).store.entriesOf id = [] ∨
        (system.after step).store.entriesOf id = system.store.entriesOf id) ∨
    ∃ id, Work.Registers id system.desk (system.after step).desk ∧
      ∀ other, other ≠ id →
        (system.after step).store.entriesOf other = system.store.entriesOf other := by
  rcases after_cases sound step with ⟨-, same⟩ | ⟨takes, -⟩
  · rw [same]
    exact .inl ⟨rfl, fun _ => .inr rfl⟩
  · cases registers : step.operation.registers with
    | some id =>
      obtain ⟨made, others⟩ := registers_of_takes sound takes registers
      exact .inr ⟨id, made, fun other apart => Store.entriesOf_congr (others other apart)⟩
    | none =>
      have uncounted : Part.records ∉ step.operation.parts := by
        cases named : step.operation <;> simp_all [Operation.parts, Operation.registers]
      refine .inl ⟨keeps_after step uncounted, fun id => ?_⟩
      rcases file_after sound step id with
        same | ⟨_, _, _, _, -, -, -, created⟩ | ⟨_, -, -, gone⟩ | ⟨_, _, moves⟩
      · exact .inr (Store.entriesOf_congr same)
      · exact .inl (Store.entriesOf_of_fileOf created)
      · exact .inl (Store.entriesOf_unstored gone)
      · rw [Store.entriesOf_of_fileOf moves.becomes, Store.entriesOf_of_fileOf moves.found]
        exact .inr (moves.move.entries_eq registers)

theorem entries_follow (steps later : List Step) :
    (initial.follow steps).store.lastRecord ≤ (initial.follow (steps ++ later)).store.lastRecord ∧
      ∀ id, ∀ entry ∈ (initial.follow (steps ++ later)).store.entriesOf id,
        entry ≤ (initial.follow steps).store.lastRecord →
          entry ∈ (initial.follow steps).store.entriesOf id := by
  induction later using List.reverseRecOn with
  | nil =>
    rw [List.append_nil]
    exact ⟨Nat.le_refl _, fun _ _ member _ => member⟩
  | append_singleton later step ih =>
    obtain ⟨counted, kept⟩ := ih
    rw [← List.append_assoc, follow_append]
    rcases entries_after (sound_follow (steps ++ later)) step with
      ⟨counter, same⟩ | ⟨made, registers, others⟩
    · rw [counter]
      refine ⟨counted, fun id entry member below => ?_⟩
      rcases same id with empty | same
      · rw [empty] at member
        cases member
      · rw [same] at member
        exact kept id entry member below
    · have counter : ((initial.follow (steps ++ later)).after step).store.lastRecord =
          (initial.follow (steps ++ later)).store.lastRecord + 1 := registers.counter
      refine ⟨by omega, fun id entry member below => ?_⟩
      rcases registers.origin others member with old | ⟨-, new⟩
      · exact kept id entry old below
      · have above : entry = (initial.follow (steps ++ later)).store.lastRecord + 1 := new
        omega

theorem entries_fit (steps : List Step) : (initial.follow steps).store.EntriesFit := by
  induction steps using List.reverseRecOn with
  | nil =>
    have free : ∀ id, (initial.follow []).store.entriesOf id = [] := fun _ => rfl
    exact ⟨by simp [free], by simp [free], by simp [free]⟩
  | append_singleton steps step ih =>
    rw [follow_append]
    rcases entries_after (sound_follow steps) step with ⟨counter, kept⟩ | ⟨id, made, others⟩
    · exact ih.shrink counter kept
    · exact ih.register made others

end System

end Casework
