import Casework.Proofs.Case.Stages
import Casework.Proofs.Chief.Waits
import Casework.Proofs.Document.Created
import Casework.Proofs.Packs.Life

set_option autoImplicit false

namespace Casework

open Calendar
open Reference (yearly licenceSeries)

section Moves

open CaseFile

variable {context : Context} {id : Nat} {operation : Operation} {file after : CaseFile}

-- Only an authorisation gives a case its licence number.
theorem Move.licenceNumber_eq (move : Move context id operation file after) :
    after.application.licenceNumber = file.application.licenceNumber ∨
      ∃ caseType user, operation = .startAuthorisation caseType id user := by
  cases move with
  | edit edit =>
    refine .inl ?_
    cases edit with
    | decision =>
      simp only [put_application, Application.withDecision]
      split <;> rfl
    | _ => rfl
  | approve => exact .inr ⟨_, _, rfl⟩
  | acceptWithdrawal =>
    refine .inl ?_
    simp only [put_application, Application.withdraw]
    split <;> rfl
  | requestVariation _ _ opened =>
    subst opened
    exact .inl rfl
  | rejectLicence =>
    rw [answer_application]
    exact .inl rfl
  | _ => exact .inl rfl

end Moves

namespace System

variable {system : System} {step : Step} {id : Nat} {before after : CaseFile}

theorem Moves.licenceNumber_after (sound : system.store.Sound)
    (moves : system.Moves step id before after) :
    after.application.licenceNumber = before.application.licenceNumber ∨
      (before.application.licenceNumber = none ∧
        (∃ caseType user, step.operation = .startAuthorisation caseType id user) ∧
        after.application.licenceNumber = some (system.store.sequences licenceSeries none + 1) ∧
        (system.after step).store.sequences =
          system.store.sequences.advance licenceSeries none) := by
  rcases moves.move.licenceNumber_eq with same | ⟨caseType, user, starts⟩
  · exact .inl same
  · obtain ⟨application, answer, found, becomes, rest⟩ :=
      refills_of_starts sound moves.takes starts
    cases found.symm.trans moves.stored
    cases becomes.symm.trans moves.stored_after
    rcases rest with ⟨-, -, same⟩ | ⟨draft, new, refills⟩
    · exact .inl same
    · have fills := refills.fills
      generalize answer_eq : after.application = answer at fills
      generalize later_eq : (system.after step).store.sequences = later at fills ⊢
      cases fills with
      | licence _ numbers =>
        cases numbers with
        | kept had => exact .inl had.symm
        | drawn unnumbered => exact .inr ⟨unnumbered, ⟨caseType, user, starts⟩, rfl, rfl⟩
      | certificates => exact .inl rfl

theorem Moves.licenceNumber_kept (sound : system.store.Sound)
    (moves : system.Moves step id before after) {number : Nat}
    (numbered : before.application.licenceNumber = some number) :
    after.application.licenceNumber = some number := by
  rcases moves.licenceNumber_after sound with same | ⟨unnumbered, -⟩
  · exact same.trans numbered
  · cases numbered.symm.trans unnumbered

end System

def Store.Licensed (store : Store) : Bearing := fun id series year number =>
  series = licenceSeries ∧ year = none ∧ ∃ application,
    store.applications.find? id = some application ∧ application.licenceNumber = some number

theorem System.licensed_after (steps : List Step) (step : Step) {id : Nat} {series : String}
    {year : Option Int} {number : Nat}
    (licensed : ((initial.follow steps).after step).store.Licensed id series year number)
    (new : ¬ (initial.follow steps).store.Licensed id series year number) :
    (∃ caseType user, step.operation = .startAuthorisation caseType id user) ∧
      number = (initial.follow steps).store.sequences series year + 1 ∧
      ((initial.follow steps).after step).store.sequences series year = number := by
  obtain ⟨rfl, rfl, application, found, numbered⟩ := licensed
  obtain ⟨file, filed, rfl⟩ := Store.exists_fileOf found
  have sound := sound_follow steps
  rcases case_before sound step filed with
    unmoved | ⟨_, _, _, _, -, -, -, rfl⟩ | ⟨before, moves⟩
  · have stored := (Store.fileOf_eq_some_iff.1 unmoved).1
    exact absurd ⟨rfl, rfl, _, stored, numbered⟩ new
  · cases numbered
  · rcases moves.licenceNumber_after sound with same | ⟨-, starts, drawn, advanced⟩
    · exact absurd ⟨rfl, rfl, _, moves.stored, same.symm.trans numbered⟩ new
    · cases drawn.symm.trans numbered
      refine ⟨starts, rfl, ?_⟩
      rw [advanced, Sequences.advance_self]

theorem licences_numbered (steps : List Step) :
    Numbering (System.initial.follow steps).store.sequences
      (System.initial.follow steps).store.Licensed := by
  refine numbering_follow Store.Licensed ?_ (fun steps step => .of_draw ?_ fun _ _ _ _ =>
    System.licensed_after steps step) steps
  · rintro _ _ _ _ ⟨-, -, _, found, -⟩
    cases found
  · rintro id other ⟨_, _, starts⟩ ⟨_, _, started⟩
    cases starts.symm.trans started
    rfl

def Store.Certifies (store : Store) : Bearing := fun id series year number =>
  ∃ document written, store.documents.find? id = some document ∧
    document.documentType = .certificate ∧ '/' ∉ series.toList ∧ year = some written ∧
    document.reference = some (yearly series written number)

theorem mem_certificates {packId : Nat} {series : String} {year : Nat → Int} {last : Nat}
    {sequences : Sequences} {subjects : List (String × Option String)} {document : Document}
    (member : document ∈ certificates packId series year last sequences subjects) :
    ∃ index < subjects.length, document.id = last + index + 1 ∧
      document.reference = some (yearly series (year index) (sequences.nth series year index)) := by
  obtain ⟨index, bound, rfl⟩ := List.mem_mapIdx.1 member
  exact ⟨index, bound, rfl, rfl⟩

namespace Work

variable {context : Context} {application answer : Application} {draft : Pack} {last : Nat}
  {sequences later : Sequences} {new : List Document} {document : Document}

theorem Fills.certificate (fills : Fills context application draft last sequences new answer later)
    (member : document ∈ new) (kind : document.documentType = .certificate) :
    ∃ series index, '/' ∉ series.toList ∧ document.id = last + index + 1 ∧
      document.reference = some (yearly series (context.year index)
        (sequences.nth series context.year index)) ∧
      sequences.nth series context.year index ≤ later series (some (context.year index)) := by
  cases fills with
  | licence =>
    rcases List.mem_cons.1 member with rfl | member
    · cases kind
    · rw [List.mem_singleton.1 member] at kind
      cases kind
  | @certificates series _ known =>
    obtain ⟨index, bound, named, written⟩ := mem_certificates member
    exact ⟨series, index, Reference.slash_not_mem_certificateSeries known, named, written,
      Sequences.nth_le_advanceOver sequences series context.year bound⟩

end Work

theorem System.certifies_after (steps : List Step) (step : Step) {id : Nat} {series : String}
    {year : Option Int} {number : Nat}
    (certifies : ((initial.follow steps).after step).store.Certifies id series year number)
    (new : ¬ (initial.follow steps).store.Certifies id series year number) :
    ∃ index, id = (initial.follow steps).store.lastDocument + index + 1 ∧
      year = some ((step.setting.around (initial.follow steps)).year index) ∧
      number = (initial.follow steps).store.sequences.nth series
        (step.setting.around (initial.follow steps)).year index ∧
      number ≤ ((initial.follow steps).after step).store.sequences series year := by
  obtain ⟨document, written, found, kind, free, rfl, reference⟩ := certifies
  obtain ⟨member, named⟩ := Table.find?_eq_some_iff.1 found
  have unknown : document ∉ (initial.follow steps).store.documents.rows := fun old =>
    new ⟨document, written, Table.find?_eq_some_iff.2 ⟨old, named⟩, kind, free, rfl, reference⟩
  rcases documents_after (sound_follow steps) step with kept | ⟨_, _, _, _, filled, refills⟩
  · exact absurd (kept document member) unknown
  · rw [refills.rows] at member
    rcases List.mem_append.1 member with old | member
    · exact absurd (List.mem_filter.1 old).1 unknown
    · obtain ⟨other, index, also, numbered, counted, drawn⟩ :=
        refills.fills.certificate member kind
      have same := congrArg Reference.stem (Option.some.inj (reference.symm.trans counted))
      obtain ⟨rfl, rfl, rfl⟩ := Reference.stem_yearly_injective free also same
      exact ⟨index, named.symm.trans numbered, rfl, rfl, drawn⟩

theorem certificates_numbered (steps : List Step) :
    Numbering (System.initial.follow steps).store.sequences
      (System.initial.follow steps).store.Certifies := by
  refine numbering_follow Store.Certifies ?_ (fun steps step => ⟨?_, ?_⟩) steps
  · rintro _ _ _ _ ⟨_, _, found, -⟩
    cases found
  · intro id series year number certifies new
    obtain ⟨index, -, rfl, rfl, bound⟩ := System.certifies_after steps step certifies new
    refine ⟨?_, bound⟩
    rw [Sequences.nth_eq]
    omega
  · intro id other series year number certifies new also another
    obtain ⟨first, rfl, rfl, rfl, -⟩ := System.certifies_after steps step certifies new
    obtain ⟨second, rfl, shown, counted, -⟩ := System.certifies_after steps step also another
    rw [Sequences.nth_inj _ series _ (Option.some.inj shown) counted]

theorem certificate_numbered (steps : List Step) {document : Document}
    (stored : document ∈ (System.initial.follow steps).store.documents.rows)
    (kind : document.documentType = .certificate) : ∃ series year number, '/' ∉ series.toList ∧
      document.reference = some (yearly series year number) := by
  refine document_invariant (fun document => document.documentType = .certificate →
    ∃ series year number, '/' ∉ series.toList ∧
      document.reference = some (yearly series year number)) ?_ steps document stored kind
  intro _ _ _ _ _ _ _ _ fills document member kind
  obtain ⟨series, _, free, -, written, -⟩ := fills.certificate member kind
  exact ⟨series, _, _, free, written⟩

theorem certificates_apart (steps : List Step) {first second : Document}
    (stored : first ∈ (System.initial.follow steps).store.documents.rows)
    (also : second ∈ (System.initial.follow steps).store.documents.rows)
    (kind : first.documentType = .certificate) (other : second.documentType = .certificate)
    (same : first.reference = second.reference) : first = second := by
  obtain ⟨series, year, number, free, written⟩ := certificate_numbered steps stored kind
  have mine := Table.find?_eq_some_iff.2 ⟨stored, rfl⟩
  have others := Table.find?_eq_some_iff.2 ⟨also, rfl⟩
  have numbered := (certificates_numbered steps).apart _ _ series (some year) number
    ⟨first, year, mine, kind, free, rfl, written⟩
    ⟨second, year, others, other, free, rfl, same.symm.trans written⟩
  exact Table.eq_of_number_eq stored also numbered

structure Store.Owns (store : Store) (pack : Pack) (document : Document) : Prop where
  stored : pack ∈ store.packs.rows
  named : document.packId = pack.id
  numbered : document.documentType = .licence → ∃ file number paperOnly reference,
    store.fileOf pack.processId = some file ∧ file.application.licenceNumber = some number ∧
      Reference.licence paperOnly file.application.processType number = .ok reference ∧
      document.reference = some reference

theorem Work.Fills.licence_numbered {context : Context} {application answer : Application}
    {draft : Pack} {last : Nat} {sequences later : Sequences} {new : List Document}
    {document : Document} (fills : Fills context application draft last sequences new answer later)
    (member : document ∈ new) (kind : document.documentType = .licence) :
    ∃ number paperOnly reference, answer.licenceNumber = some number ∧
      Reference.licence paperOnly answer.processType number = .ok reference ∧
      document.reference = some reference := by
  cases fills with
  | @licence number reference _ _ _ written =>
    rcases List.mem_cons.1 member with rfl | member
    · cases kind
    · rw [List.mem_singleton.1 member]
      exact ⟨number, _, reference, rfl, written, rfl⟩
  | certificates =>
    obtain ⟨_, _, rfl⟩ := List.mem_mapIdx.1 member
    cases kind

namespace System

variable (steps : List Step) (step : Step)

theorem pack_of_kept {pack : Pack} {document : Document}
    (stored : pack ∈ (initial.follow steps).store.packs.rows)
    (kept : document ∈ ((initial.follow steps).after step).store.documents.rows)
    (named : document.packId = pack.id) :
    ∃ next ∈ ((initial.follow steps).after step).store.packs.rows,
      next.id = pack.id ∧ next.processId = pack.processId := by
  rcases pack_after steps step stored with ⟨takes, ⟨_, cancels⟩, -, -⟩ | ⟨next, stays, goes_on, -⟩
  -- A case that is cancelled takes the documents of its packs with it.
  · rw [removes_of_cancels takes cancels] at kept
    have foreign := (List.mem_filter.1 kept).2
    rw [named, Store.packsOf_contains stored] at foreign
    simp at foreign
  · exact ⟨next, stays, goes_on.id_eq, goes_on.process_eq⟩

theorem owns_kept {pack : Pack} {document : Document}
    (owns : (initial.follow steps).store.Owns pack document)
    (kept : document ∈ ((initial.follow steps).after step).store.documents.rows) :
    ∃ next, ((initial.follow steps).after step).store.Owns next document := by
  have sound := sound_follow steps
  obtain ⟨next, stays, same, owner⟩ := pack_of_kept steps step owns.stored kept owns.named
  refine ⟨next, stays, owns.named.trans same.symm, fun kind => ?_⟩
  obtain ⟨file, number, paperOnly, reference, found, numbered, written, named⟩ :=
    owns.numbered kind
  rw [owner]
  rcases case_after sound step found with unmoved | ⟨-, gone⟩ | ⟨after, moves⟩
  · exact ⟨file, number, paperOnly, reference, unmoved, numbered, written, named⟩
  · obtain ⟨_, still, -⟩ := (sound_after sound step).exists_owner stays
    rw [owner, gone] at still
    cases still
  · refine ⟨after, number, paperOnly, reference, moves.becomes,
      moves.licenceNumber_kept sound numbered, ?_, named⟩
    rw [moves.move.processType_eq]
    exact written

theorem owns_filled {id : Nat} {application answer : Application} {draft : Pack}
    {new : List Document} {document : Document}
    (refills : (initial.follow steps).Refills step id application answer draft new)
    (added : document ∈ new) :
    ∃ next, ((initial.follow steps).after step).store.Owns next document := by
  obtain ⟨file, found, rfl⟩ := Store.exists_fileOf refills.found
  have only := refills.only
  rw [Store.singlePack_eq found, CaseFile.singlePack_eq_ok_iff] at only
  obtain ⟨stored, mine⟩ := (Store.mem_packs_iff found).1 (CaseFile.mem_of_only only).1
  have kept : document ∈ ((initial.follow steps).after step).store.documents.rows := by
    rw [refills.rows]
    exact List.mem_append_right _ added
  have named := (refills.fills.filed added).1
  obtain ⟨next, stays, same, owner⟩ := pack_of_kept steps step stored kept named
  refine ⟨next, stays, named.trans same.symm, fun kind => ?_⟩
  obtain ⟨number, paperOnly, reference, numbered, written, referred⟩ :=
    refills.fills.licence_numbered added kind
  obtain ⟨final, becomes, rfl⟩ := Store.exists_fileOf refills.becomes
  rw [owner, mine]
  exact ⟨final, number, paperOnly, reference, becomes, numbered, written, referred⟩

end System

theorem document_owned (steps : List Step) {document : Document}
    (stored : document ∈ (System.initial.follow steps).store.documents.rows) :
    ∃ pack, (System.initial.follow steps).store.Owns pack document := by
  induction steps using List.reverseRecOn with
  | nil => cases stored
  | append_singleton steps step ih =>
    rw [System.follow_append] at stored ⊢
    have before : document ∈ (System.initial.follow steps).store.documents.rows →
        ∃ pack, ((System.initial.follow steps).after step).store.Owns pack document := by
      intro old
      obtain ⟨_, owns⟩ := ih old
      exact System.owns_kept steps step owns stored
    rcases System.documents_after (System.sound_follow steps) step with
      kept | ⟨_, _, _, _, _, refills⟩
    · exact before (kept document stored)
    · rcases List.mem_append.1 (refills.rows ▸ stored) with old | added
      · exact before (List.mem_filter.1 old).1
      · exact System.owns_filled steps step refills added

theorem licences_of_case (steps : List Step) {first second : Document}
    (stored : first ∈ (System.initial.follow steps).store.documents.rows)
    (also : second ∈ (System.initial.follow steps).store.documents.rows)
    (kind : first.documentType = .licence) (other : second.documentType = .licence)
    (same : first.reference = second.reference) :
    ∃ pack ∈ (System.initial.follow steps).store.packs.rows,
      ∃ another ∈ (System.initial.follow steps).store.packs.rows,
        first.packId = pack.id ∧ second.packId = another.id ∧
          pack.processId = another.processId := by
  obtain ⟨pack, owns⟩ := document_owned steps stored
  obtain ⟨another, also_owns⟩ := document_owned steps also
  obtain ⟨file, number, _, reference, found, numbered, written, named⟩ := owns.numbered kind
  obtain ⟨_, count, _, _, others, counted, also_written, also_named⟩ := also_owns.numbered other
  cases (named.symm.trans same).trans also_named
  cases Reference.licence_injective written also_written
  refine ⟨pack, owns.stored, another, also_owns.stored, owns.named, also_owns.named, ?_⟩
  exact (licences_numbered steps).apart _ _ licenceSeries none number
    ⟨rfl, rfl, _, (Store.fileOf_eq_some_iff.1 found).1, numbered⟩
    ⟨rfl, rfl, _, (Store.fileOf_eq_some_iff.1 others).1, counted⟩

namespace CaseFile

theorem old_of_licensed (steps : List Step) {id : Nat} {file : CaseFile}
    (found : (System.initial.follow steps).store.fileOf id = some file) {number : Nat}
    (numbered : file.application.licenceNumber = some number) :
    file.application.status ≠ .inProgress := by
  intro new
  have unnumbered := file_invariant (fun _ _ file => file.application.status = .inProgress →
    file.application.licenceNumber = none) (fun _ _ _ _ _ _ _ => rfl) (fun _ _ _ _ kept => kept)
    ?_ steps found new
  · cases numbered.symm.trans unnumbered
  · intro steps step id before after moves kept new
    have started := (moves.move.new_kept new).1
    rcases moves.licenceNumber_after (System.sound_follow steps) with
      same | ⟨-, ⟨_, _, starts⟩, -, -⟩
    · exact same.trans (kept started)
    -- The authorisation of a new case does not begin.
    · have move := moves.move
      rw [starts] at move
      exact absurd started (not_givenUp_of_processing move.processing_of_starts).2.1

theorem licence_kept (steps later : List Step) {id : Nat} {file : CaseFile}
    (found : (System.initial.follow steps).store.fileOf id = some file) {number : Nat}
    (numbered : file.application.licenceNumber = some number) :
    ∃ after, (System.initial.follow (steps ++ later)).store.fileOf id = some after ∧
      after.application.licenceNumber = some number :=
  file_persists (fun file => file.application.licenceNumber = some number)
    (fun steps _ found numbered => old_of_licensed steps found numbered)
    (fun steps _ _ _ moves => moves.licenceNumber_kept (System.sound_follow steps))
    steps later found numbered

end CaseFile

/-- No two certificates have the same reference, two licences only if they belong to one case, and
beside a document stands the check code of its reference, or none if it has no reference. -/
structure Store.ReferencesApart (store : Store) : Prop where
  certificates : ∀ first ∈ store.documents.rows, ∀ second ∈ store.documents.rows,
    first.documentType = .certificate → second.documentType = .certificate →
      first.reference = second.reference → first = second
  licences : ∀ first ∈ store.documents.rows, ∀ second ∈ store.documents.rows,
    first.documentType = .licence → second.documentType = .licence →
      first.reference = second.reference →
        ∃ pack ∈ store.packs.rows, ∃ another ∈ store.packs.rows,
          first.packId = pack.id ∧ second.packId = another.id ∧
            pack.processId = another.processId
  codes : ∀ document ∈ store.documents.rows,
    document.checkCode = document.reference.map (Reference.checkCode document.packId)

/-- The references of documents are apart in every run, and a case that has been given a licence
number keeps it for good and shares it with no other. -/
theorem document_references_apart (steps : List Step) :
    (System.initial.follow steps).store.ReferencesApart ∧
      ∀ application ∈ (System.initial.follow steps).store.applications.rows,
        ∀ number, application.licenceNumber = some number → ∀ later,
          (∃ kept ∈ (System.initial.follow (steps ++ later)).store.applications.rows,
            kept.id = application.id ∧ kept.licenceNumber = some number) ∧
          ∀ other ∈ (System.initial.follow (steps ++ later)).store.applications.rows,
            other.licenceNumber = some number → other.id = application.id := by
  refine ⟨⟨?_, ?_, ?_⟩, ?_⟩
  · exact fun _ stored _ also kind other same =>
      certificates_apart steps stored also kind other same
  · exact fun _ stored _ also kind other same =>
      licences_of_case steps stored also kind other same
  · exact document_invariant _ (fun fills _ member => (fills.filed member).2) steps
  · intro application stored number numbered later
    have found := Table.find?_eq_some_iff.2 ⟨stored, rfl⟩
    obtain ⟨file, filed, rfl⟩ := Store.exists_fileOf found
    obtain ⟨after, becomes, still⟩ := CaseFile.licence_kept steps later filed numbered
    have final := (Store.fileOf_eq_some_iff.1 becomes).1
    obtain ⟨kept, known⟩ := Table.find?_eq_some_iff.1 final
    refine ⟨⟨_, kept, known, still⟩, fun other also counted => ?_⟩
    have others := Table.find?_eq_some_iff.2 ⟨also, rfl⟩
    exact (licences_numbered (steps ++ later)).apart _ _ licenceSeries none number
      ⟨rfl, rfl, _, others, counted⟩ ⟨rfl, rfl, _, final, still⟩

namespace Sample

def renewed : List Step :=
  let varied : List Operation :=
    [.approveLicence 1, .requestVariation .importing 1 user "end date",
      .takeOwnership .importing 1 user,
      .editLicence .importing 1 ⟨none, some ⟨2025, 12, 31, by decide⟩, some false⟩]
  (handedOver ++ varied ++ approval .importing).map (step true)

theorem renewed_written :
    ∃ first ∈ (System.initial.follow renewed).store.documents.rows,
      ∃ second ∈ (System.initial.follow renewed).store.documents.rows,
        first.packId = 1 ∧ second.packId = 2 ∧ first.documentType = .licence ∧
          second.documentType = .licence ∧ first.reference = some "GBSIL0000001B" ∧
          second.reference = some "GBSIL0000001B" := by
  decide +kernel

end Sample

theorem renewed_apart :
    ∃ pack ∈ (System.initial.follow Sample.renewed).store.packs.rows,
      ∃ another ∈ (System.initial.follow Sample.renewed).store.packs.rows,
        pack.id = 1 ∧ another.id = 2 ∧ pack.processId = another.processId := by
  obtain ⟨first, stored, second, also, former, latter, kind, other, written, rewritten⟩ :=
    Sample.renewed_written
  obtain ⟨pack, pack_stored, another, another_stored, mine, others, same⟩ :=
    (document_references_apart Sample.renewed).1.licences first stored second also kind other
      (written.trans rewritten.symm)
  exact ⟨pack, pack_stored, another, another_stored, mine.symm.trans former,
    others.symm.trans latter, same⟩

end Casework
