import Casework.Proofs.Document.Created
import Casework.Proofs.Packs.Authorised
import Casework.Proofs.Packs.Life

set_option autoImplicit false

namespace Casework

namespace CaseFile

def HasLicence (file : CaseFile) (packId : Nat) : Prop :=
  ((file.licenceOf packId).bind (·.reference)).isSome = true

-- The case has been handed in and, if it is an import, the pack has its licence.
structure Licensed (file : CaseFile) (packId : Nat) : Prop where
  old : file.application.status ≠ .inProgress
  licence : file.application.isImport = true → file.HasLicence packId

variable {file after : CaseFile} {packId : Nat}

theorem hasLicence_congr
    (same : after.documents.filter (·.packId == packId) =
      file.documents.filter (·.packId == packId)) :
    after.HasLicence packId ↔ file.HasLicence packId := by
  rw [HasLicence, HasLicence, licenceOf, licenceOf, same]

theorem not_hasLicence_started (application : Application) (task pack : Nat)
    (now : Calendar.Instant) : ¬ (started application task pack now).HasLicence packId := by
  intro licensed
  cases licensed

end CaseFile

namespace System

variable {system : System} {step : Step} {id : Nat}

theorem Refills.exists_licence {application answer : Application} {draft : Pack}
    {new : List Document} (refills : system.Refills step id application answer draft new)
    (imported : application.isImport = true) :
    ∃ document reference, (system.after step).store.licenceOf draft.id = some document ∧
      document.reference = some reference := by
  have fills := refills.fills
  generalize (system.after step).store.sequences = later at fills
  cases fills with
  | certificates exported => exact absurd (imported.symm.trans exported) (by decide)
  | @licence number reference =>
    refine ⟨.filed (system.store.lastDocument + 2) draft.id .licence (some reference) none none,
      reference, ?_, rfl⟩
    have cleared : (system.store.documents.rows.filter (·.packId != draft.id)).filter
        (·.packId == draft.id) = [] := by
      simp
    rw [Store.licenceOf, Store.documentsOf, refills.rows, List.filter_append, cleared]
    simp [Document.filed]

namespace Moves

variable {before after : CaseFile}

theorem hasLicence (moves : system.Moves step id before after) (sound : system.store.Sound)
    {caseType : CaseType} {user : User}
    (asked : step.operation = .startAuthorisation caseType id user)
    (approved : before.application.currentDecision = some .approve)
    (imported : before.application.isImport = true) {draft : Pack}
    (only : before.packs.filter (Pack.isIn .draft) = [draft]) : after.HasLicence draft.id := by
  obtain ⟨application, answer, found, -, rest⟩ := refills_of_starts sound moves.takes asked
  cases found.symm.trans moves.stored
  rcases rest with ⟨refused, -⟩ | ⟨filled, new, refills⟩
  · rw [approved] at refused
    cases refused
  · have single := refills.only
    rw [Store.singlePack_eq moves.found] at single
    have same := CaseFile.singlePack_eq_ok_iff.1 single
    rw [only] at same
    cases same
    obtain ⟨document, reference, licence, numbered⟩ := refills.exists_licence imported
    -- The draft is still a pack of the case, so its documents are in the file.
    obtain ⟨next, member, next_of⟩ :=
      (moves.move.continues moves.ordered).exists_next (CaseFile.status_of_only only).1
    rw [← next_of.id_eq, Store.licenceOf_eq moves.becomes member, next_of.id_eq] at licence
    rw [CaseFile.HasLicence, licence, Option.bind_some, numbered]
    rfl

theorem licensed (moves : system.Moves step id before after) (sound : system.store.Sound)
    {packId : Nat} (licensed : before.Licensed packId) : after.Licensed packId := by
  refine ⟨fun new => licensed.old (moves.move.of_inProgress new).1, fun imported => ?_⟩
  rw [Application.isImport_congr moves.move.processType_eq] at imported
  rcases moves.move.documents_cases packId with same | ⟨_, _, draft, asked, approved, only, rfl⟩
  · exact (CaseFile.hasLicence_congr same).2 (licensed.licence imported)
  -- A second authorisation of the draft puts a new licence in the place of the old one.
  · exact moves.hasLicence sound asked approved imported only

end Moves

theorem Authorises.licensed {packId : Nat} (authorises : system.Authorises step id packId)
    (sound : system.store.Sound) :
    ∃ after, (system.after step).store.fileOf id = some after ∧ after.Licensed packId := by
  obtain ⟨⟨caseType, user, asked⟩, takes, ⟨application, stored, approved⟩, draft, looked, rfl⟩ :=
    authorises
  obtain ⟨before, after, moves⟩ := takes.moves sound (by rw [asked]; rfl)
  cases stored.symm.trans moves.stored
  rw [Store.draftPack, Store.singlePack_eq moves.found] at looked
  have only := CaseFile.singlePack_eq_ok_iff.1 looked
  refine ⟨after, moves.becomes, fun new => ?_, fun imported => ?_⟩
  · have move := moves.move
    rw [asked] at move
    exact absurd (move.of_inProgress new).1
      (CaseFile.not_givenUp_of_processing move.processing_of_starts).2.1
  · rw [Application.isImport_congr moves.move.processType_eq] at imported
    exact moves.hasLicence sound asked approved imported only

end System

namespace CaseFile

variable (steps : List Step) {id packId : Nat} {file : CaseFile}

theorem authorised_of_licence
    (found : (System.initial.follow steps).store.fileOf id = some file)
    (licensed : file.HasLicence packId) : Earlier steps (System.Authorises · · id packId) := by
  refine file_invariant (fun steps id file => file.HasLicence packId →
    Earlier steps (System.Authorises · · id packId)) ?_ ?_ ?_ steps found licensed
  · exact fun _ _ _ _ _ _ licensed => absurd licensed (not_hasLicence_started _ _ _ _)
  · exact fun _ step _ _ authorised licensed => (authorised licensed).more [step]
  · intro steps step id before after moves authorised licensed
    rcases moves.move.documents_cases packId with same | ⟨_, _, draft, asked, approved, only, rfl⟩
    · exact (authorised ((hasLicence_congr same).1 licensed)).more [step]
    · exact earlier_last (moves.authorises asked approved only)

theorem licence_of_authorised
    (found : (System.initial.follow steps).store.fileOf id = some file)
    (imported : file.application.isImport = true)
    (authorised : Earlier steps (System.Authorises · · id packId)) : file.HasLicence packId := by
  obtain ⟨first, step, rest, rfl, authorises⟩ := authorised
  obtain ⟨after, stored, licensed⟩ := authorises.licensed (System.sound_follow first)
  rw [← System.follow_append] at stored
  obtain ⟨last, final, kept⟩ := file_persists (·.Licensed packId)
    (fun _ _ _ licensed => licensed.old)
    (fun steps _ _ _ moves licensed => moves.licensed (System.sound_follow steps) licensed)
    (first ++ [step]) rest stored licensed
  rw [List.append_assoc, List.singleton_append] at final
  cases found.symm.trans final
  exact kept.licence imported

theorem hasLicence_iff (found : (System.initial.follow steps).store.fileOf id = some file)
    (imported : file.application.isImport = true) :
    file.HasLicence packId ↔ Earlier steps (System.Authorises · · id packId) :=
  ⟨authorised_of_licence steps found, licence_of_authorised steps found imported⟩

end CaseFile

end Casework
