import Casework.Proofs.CaseFile.Steps
import Casework.Proofs.CaseFile.Move

set_option autoImplicit false

namespace Casework

open Calendar

def Moved (context : Context) (id : Nat) (operation : Operation) (start after : Store) : Prop :=
  ∃ before file, start.fileOf id = some before ∧ Move context id operation before file ∧
    Replaces start id file after

namespace Work

variable {id : Nat} {caseType : CaseType} {context : Context} {desk after : Desk}

@[simp] theorem findEntry_eq_ok_iff {α : Type} {entries : List α} {wanted : α → Bool}
    {unknown : InvalidRequest} {entry : α} :
    findEntry entries wanted unknown context desk = (.ok entry, after) ↔
      entries.find? wanted = some entry ∧ desk = after := by
  rw [findEntry]
  cases entries.find? wanted <;> simp

theorem edit_moves (sound : desk.store.Sound) {goods : Goods} {answer : Application}
    (ran : edit caseType id goods context desk = (.ok answer, after)) :
    Moved context id (.edit caseType id goods) desk.store after.store := by
  simp only [edit, bind_eq_ok_iff, checkFlow_eq_ok_iff, require_eq_ok_iff] at ran
  obtain ⟨_, _, loaded, _, _, ⟨editing, rfl⟩, _, _, ⟨suited, rfl⟩, ran⟩ := ran
  obtain ⟨rfl, file, rfl, kind, held⟩ := Replaces.load sound loaded
  have editing := Store.editing_of_checkEditing held.found editing
  exact ⟨file, _, held.found, .edit (.goods kind editing suited), (held.saved ran held.id_eq).2⟩

theorem submit_moves_of_reference {start : Store} {file : CaseFile} {user : User} {task : Task}
    {reference : String} {answer : Application} (found : start.fileOf id = some file)
    (kind : file.application.caseType = caseType) (editing : file.Editing)
    (active : file.application.isActive = true)
    (only : file.tasks.filter (Task.isOpen .prepare) = [task])
    (complete : file.application.submissionErrors.isEmpty = true)
    (kept : ∀ given, file.application.reference = some given → reference = given)
    (held : Replaces start id file desk.store)
    (ran : handIn file.application id user task reference context desk = (.ok answer, after)) :
    Moved context id (.submit caseType id user) start after.store := by
  obtain ⟨_, _, read_now, ran⟩ := bind_eq_ok_iff.1 ran
  cases read_now
  obtain ⟨_, _, ended, ran⟩ := bind_eq_ok_iff.1 ran
  have ended := held.finishTask (CaseFile.mem_of_only only).1 ended
  obtain ⟨new, _, fresh, ensured, ran⟩ := ended.ensureTask ran
  have fresh := CaseFile.below_of_finish fresh
  exact ⟨file, _, found, .submit kind editing active only complete kept fresh,
    (ensured.saved ran held.id_eq).2⟩

theorem submit_moves (sound : desk.store.Sound) {user : User} {answer : Application}
    (ran : submit caseType id user context desk = (.ok answer, after)) :
    Moved context id (.submit caseType id user) desk.store after.store := by
  simp only [submit, bind_eq_ok_iff, checkFlow_eq_ok_iff, require_eq_ok_iff] at ran
  obtain ⟨_, _, loaded, _, _, ⟨editing, rfl⟩, task, _, ⟨expected, rfl⟩, _, _, ⟨complete, rfl⟩,
    ran⟩ :=
    ran
  obtain ⟨rfl, file, rfl, kind, held⟩ := Replaces.load sound loaded
  have editing := Store.editing_of_checkEditing held.found editing
  obtain ⟨active, only⟩ := (Store.expectedTask_eq_ok_iff held.found).1 expected
  cases given : file.application.reference with
  | some reference =>
    rw [given] at ran
    obtain ⟨_, _, named, ran⟩ := bind_eq_ok_iff.1 ran
    cases named
    have kept : ∀ other, file.application.reference = some other → reference = other :=
      fun other same => Option.some.inj (given.symm.trans same)
    exact submit_moves_of_reference held.found kind editing active only complete kept held ran
  | none =>
    rw [given] at ran
    obtain ⟨reference, _, drawn, ran⟩ := bind_eq_ok_iff.1 ran
    have kept : ∀ other, file.application.reference = some other → reference = other := by
      simp [given]
    exact submit_moves_of_reference held.found kind editing active only complete kept
      (held.drawYearly drawn) ran

theorem requestWithdrawal_moves (sound : desk.store.Sound) {user : User} {reason : String}
    {answer : Application}
    (ran : requestWithdrawal caseType id user reason context desk = (.ok answer, after)) :
    Moved context id (.requestWithdrawal caseType id user reason) desk.store after.store := by
  simp only [requestWithdrawal, bind_eq_ok_iff, checkFlow_eq_ok_iff, require_eq_ok_iff,
    Standing.checkStatus_eq_ok_iff, Bool.not_eq_true'] at ran
  obtain ⟨_, _, ⟨_, rfl⟩, _, _, loaded, _, _, ⟨stage, rfl⟩, _, _, ⟨free, rfl⟩, _, _, counted,
    ran⟩ :=
    ran
  obtain ⟨rfl, file, rfl, kind, held⟩ := Replaces.load sound loaded
  have saved := ((held.nextRecord counted).saved ran held.id_eq).2
  exact ⟨file, _, held.found, .edit (.withdrawal kind stage free), saved⟩

theorem respondToInformationRequest_moves (sound : desk.store.Sound) {entry : Nat}
    {answer : InformationRequest}
    (ran : respondToInformationRequest caseType id entry context desk = (.ok answer, after)) :
    Moved context id (.respondToInformationRequest caseType id entry) desk.store after.store := by
  simp only [respondToInformationRequest, bind_eq_ok_iff, checkFlow_eq_ok_iff, require_eq_ok_iff,
    findEntry_eq_ok_iff, Standing.checkStatus_eq_ok_iff, pure_run, beq_iff_eq, Prod.mk.injEq] at ran
  obtain ⟨_, _, loaded, _, _, ⟨stage, rfl⟩, _, _, ⟨found, rfl⟩, _, _, ⟨opened, rfl⟩, _, _, ran, -,
    rfl⟩ := ran
  obtain ⟨rfl, file, rfl, kind, held⟩ := Replaces.load sound loaded
  exact ⟨file, _, held.found, .edit (.informationResponse kind stage found opened),
    held.save ran held.id_eq⟩

theorem startUpdate_moves (sound : desk.store.Sound) {entry : Nat} {answer : UpdateRequest}
    (ran : startUpdate caseType id entry context desk = (.ok answer, after)) :
    Moved context id (.startUpdate caseType id entry) desk.store after.store := by
  simp only [startUpdate, bind_eq_ok_iff, checkFlow_eq_ok_iff, require_eq_ok_iff,
    findEntry_eq_ok_iff, Standing.checkStatus_eq_ok_iff, pure_run, beq_iff_eq, Prod.mk.injEq] at ran
  obtain ⟨_, _, loaded, _, _, ⟨stage, rfl⟩, _, _, ⟨found, rfl⟩, _, _, ⟨opened, rfl⟩, _, _, ran, -,
    rfl⟩ := ran
  obtain ⟨rfl, file, rfl, kind, held⟩ := Replaces.load sound loaded
  exact ⟨file, _, held.found, .edit (.startUpdate kind stage found opened),
    held.save ran held.id_eq⟩

end Work

end Casework
