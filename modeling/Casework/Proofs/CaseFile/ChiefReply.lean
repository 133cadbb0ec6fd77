import Casework.Proofs.CaseFile.Applicant

set_option autoImplicit false

namespace Casework

open Calendar

namespace Replaces

variable {id : Nat} {context : Context} {desk after : Desk}

theorem findApplication (sound : desk.store.Sound) {application : Application}
    (ran : Work.findApplication id context desk = (.ok application, after)) :
    after = desk ∧ ∃ file, file.application = application ∧
      Replaces desk.store id file desk.store := by
  obtain ⟨found, rfl⟩ := Work.findApplication_eq_ok_iff.1 ran
  obtain ⟨file, filed, rfl⟩ := Store.exists_fileOf found
  exact ⟨rfl, file, rfl, refl sound filed⟩

end Replaces

namespace Work

variable {id : Nat} {context : Context} {desk after : Desk}

theorem approveLicence_moves (sound : desk.store.Sound) {answer : Unit}
    (ran : approveLicence id context desk = (.ok answer, after)) :
    Moved context id (.approveLicence id) desk.store after.store := by
  simp only [approveLicence, bind_eq_ok_iff, enter_eq_ok_iff] at ran
  obtain ⟨_, _, ⟨-, rfl⟩, _, _, looked, task, _, waited, ran⟩ := ran
  obtain ⟨rfl, file, rfl, held⟩ := Replaces.findApplication sound looked
  obtain ⟨current, ended⟩ := held.finishWait waited
  by_cases revoked : file.application.status = .revoked
  · simp only [revoked, if_pos, bind_eq_ok_iff] at ran
    obtain ⟨_, _, answered, ran⟩ := ran
    have answered := ended.answerRequest answered (fun _ => rfl) (fun _ => rfl) fun _ => rfl
    simp only [awaitedReply, revoked, if_pos] at current
    exact ⟨file, _, held.found, .approveRevocation current, answered.save ran held.id_eq⟩
  · simp only [revoked, if_false, bind_eq_ok_iff, now_run, Prod.mk.injEq, Except.ok.injEq] at ran
    obtain ⟨_, _, ⟨rfl, rfl⟩, _, _, issued, _, _, answered, ran⟩ := ran
    obtain ⟨draft, earlier, only, before, issued⟩ := ended.issueDraft issued held.id_eq
    have answered := issued.answerRequest answered (fun _ => rfl) (fun _ => rfl) fun _ => rfl
    simp only [awaitedReply, revoked, if_false] at current
    exact ⟨file, _, held.found, .approveLicence current only before,
      answered.save ran held.id_eq⟩

theorem rejectLicence_moves (sound : desk.store.Sound) {errors : List ChiefResponseError}
    {answer : Unit} (ran : rejectLicence id errors context desk = (.ok answer, after)) :
    Moved context id (.rejectLicence id errors) desk.store after.store := by
  simp only [rejectLicence, bind_eq_ok_iff, enter_eq_ok_iff] at ran
  obtain ⟨_, _, ⟨-, rfl⟩, _, _, looked, task, _, waited, _, _, created, answered⟩ := ran
  obtain ⟨rfl, file, rfl, held⟩ := Replaces.findApplication sound looked
  obtain ⟨current, ended⟩ := held.finishWait waited
  obtain ⟨new, fresh, created⟩ := ended.createTask created
  have answered := created.answerRequest answered (fun _ => rfl) (fun _ => rfl) fun _ => rfl
  exact ⟨file, _, held.found, .rejectLicence current (CaseFile.below_of_finish fresh), answered⟩

theorem resendLicence_ran (sound : desk.store.Sound) {answer : TaskType}
    (ran : resendLicence id context desk = (.ok answer, after)) :
    ∃ file task between, desk.store.fileOf id = some file ∧
      file.Current (if file.application.status = .revoked then [.revoked] else processingStates)
        .chiefError task ∧
      finishTask task.id none context desk = (.ok (), between) ∧
      sendToChief file.application (some task.id) (file.application.status == .revoked)
        context.sendsLicences context between = (.ok answer, after) := by
  simp only [resendLicence, bind_eq_ok_iff, enter_eq_ok_iff, context_run, Prod.mk.injEq,
    Except.ok.injEq, beq_iff_eq] at ran
  obtain ⟨_, _, ⟨-, rfl⟩, _, _, looked, task, _, checked, _, between, ended, _, _, ⟨rfl, rfl⟩,
    sent⟩ := ran
  obtain ⟨rfl, file, rfl, held⟩ := Replaces.findApplication sound looked
  obtain ⟨rfl, current⟩ := held.current checked
  exact ⟨file, task, between, held.found, current, ended, sent⟩

theorem resendLicence_moves (sound : desk.store.Sound) {answer : TaskType}
    (ran : resendLicence id context desk = (.ok answer, after)) :
    Moved context id (.resendLicence id) desk.store after.store := by
  obtain ⟨file, task, _, found, current, ended, sent⟩ := resendLicence_ran sound ran
  have held := Replaces.refl sound found
  have ended := held.finishTask (CaseFile.mem_of_only current.only).1 ended
  obtain ⟨requestId, new, freshRequest, fresh, -, sent⟩ := ended.sendToChief sent held.id_eq
  exact ⟨file, _, found,
    .resendLicence current freshRequest (CaseFile.below_of_finish fresh), sent⟩

theorem revertLicence_moves (sound : desk.store.Sound) {answer : Unit}
    (ran : revertLicence id context desk = (.ok answer, after)) :
    Moved context id (.revertLicence id) desk.store after.store := by
  simp only [revertLicence, bind_eq_ok_iff, enter_eq_ok_iff] at ran
  obtain ⟨_, _, ⟨-, rfl⟩, task, _, checked, _, _, ended, created⟩ := ran
  obtain ⟨⟨_, looked, _⟩, -⟩ := currentTask_eq_ok_iff.1 checked
  obtain ⟨file, found, rfl⟩ := Store.exists_fileOf looked
  have held := Replaces.refl sound found
  obtain ⟨rfl, current⟩ := held.current checked
  have ended := held.finishTask (CaseFile.mem_of_only current.only).1 ended
  obtain ⟨new, fresh, created⟩ := ended.createTask created
  exact ⟨file, _, found, .revertLicence current (CaseFile.below_of_finish fresh), created⟩

end Work

end Casework
