import Casework.Proofs.Case.Stages
import Casework.Proofs.Chief.Sent
import Casework.Proofs.Packs.Life
import Casework.Proofs.Reference.Numbering
import Casework.Proofs.Reference.Written

set_option autoImplicit false

namespace Casework

open Calendar
open Reference (stem yearly caseSeries)

namespace Reference

theorem stem_variation {application : Application} {given written : String}
    (before : application.reference = some given) (whole : (stem given).length = 3)
    (named : variation application = .ok written) : stem written = stem given := by
  rw [variation, before] at named
  have same := Except.ok.inj named
  split at same
  · rw [← same, stem_base]
  · rw [← same, stem_numbered whole]

theorem exists_of_variation {application : Application} {written : String}
    (named : variation application = .ok written) :
    ∃ given, application.reference = some given := by
  cases before : application.reference with
  | some given => exact ⟨given, rfl⟩
  | none =>
    rw [variation, before] at named
    cases named

end Reference

section Moves

open CaseFile

variable {context : Context} {id : Nat} {operation : Operation} {file after : CaseFile}

theorem Move.reference_step (move : Move context id operation file after) :
    after.application.reference = file.application.reference ∨
      (file.application.reference = none ∧ ∃ caseType user, operation = .submit caseType id user) ∨
      ∃ given written, file.application.reference = some given ∧
        after.application.reference = some written ∧
        ((stem given).length = 3 → stem written = stem given) := by
  cases move with
  | edit edit => exact .inl edit.reference_eq
  | submit _ _ _ _ _ kept =>
    cases before : file.application.reference with
    | none => exact .inr (.inl ⟨rfl, _, _, rfl⟩)
    | some given => exact .inl (congrArg some (kept given before))
  | acceptWithdrawal =>
    refine .inl ?_
    simp only [put_application, Application.withdraw]
    split <;> rfl
  | @requestVariation _ _ _ _ varied written _ _ _ _ _ _ opened named =>
    obtain ⟨given, before⟩ := Reference.exists_of_variation named
    have same : varied.reference = file.application.reference := by
      rw [opened]
      rfl
    exact .inr (.inr ⟨given, written, same.symm.trans before, rfl, fun whole =>
      Reference.stem_variation before whole named⟩)
  | rejectLicence =>
    rw [answer_application]
    exact .inl rfl
  | _ => exact .inl rfl

theorem Move.unnamed_of_new (move : Move context id operation file after)
    (unnamed : file.application.status = .inProgress → file.application.reference = none)
    (new : after.application.status = .inProgress) : after.application.reference = none := by
  have before := (move.new_kept new).1
  rcases move.reference_step with same | ⟨-, caseType, user, rfl⟩ | ⟨given, _, named, -⟩
  · exact same.trans (unnamed before)
  -- A case that has been submitted is no longer new.
  · cases move with
    | edit edit => cases edit
    | submit =>
      simp only [put_application, Application.afterSubmission, before] at new
      split at new
      next => cases new
      next => split at new <;> cases new
  · cases named.symm.trans (unnamed before)

end Moves

namespace Work

variable {context : Context} {desk after : Desk} {id : Nat} {user : User} {answer : Application}

theorem handIn_saves {application : Application} {task : Task} {reference : String}
    (named : application.id = id)
    (ran : handIn application id user task reference context desk = (.ok answer, after)) :
    answer = application.afterSubmission user reference context.now ∧
      after.store.applications.find? id = some answer ∧
      after.store.sequences = desk.store.sequences := by
  simp only [handIn, bind_eq_ok_iff, now_run, finishTask_run, read_run, Prod.mk.injEq,
    Except.ok.injEq] at ran
  obtain ⟨_, _, ⟨rfl, rfl⟩, _, _, ⟨-, rfl⟩, _, _, ⟨-, rfl⟩, last⟩ := ran
  split at last
  · obtain ⟨same, final, -, sequences⟩ := saved_stores last named
    exact ⟨same, final, sequences⟩
  · obtain ⟨_, _, created, last⟩ := bind_eq_ok_iff.1 last
    cases created
    obtain ⟨same, final, -, sequences⟩ := saved_stores last named
    exact ⟨same, final, sequences⟩

theorem submit_named {caseType : CaseType} {application : Application}
    (ran : submit caseType id user context desk = (.ok answer, after))
    (found : desk.store.applications.find? id = some application)
    (unnamed : application.reference = none) :
    after.store.applications.find? id = some answer ∧
      answer.reference = some (yearly (caseSeries application.processType) (context.year 0)
        (desk.store.sequences (caseSeries application.processType)
          (some (context.year 0)) + 1)) ∧
      after.store.sequences = desk.store.sequences.advance (caseSeries application.processType)
        (some (context.year 0)) := by
  simp only [submit, bind_eq_ok_iff, load_eq_ok_iff, checkFlow_eq_ok_iff, require_eq_ok_iff] at ran
  obtain ⟨_, _, ⟨-, stored, -, rfl⟩, _, _, ⟨-, rfl⟩, _, _, ⟨-, rfl⟩, _, _, ⟨-, rfl⟩, ran⟩ := ran
  cases found.symm.trans stored
  rw [unnamed] at ran
  obtain ⟨reference, between, drawn, rest⟩ := bind_eq_ok_iff.1 ran
  rw [drawCaseReference, drawYearly_run] at drawn
  cases drawn
  obtain ⟨rfl, final, sequences⟩ := handIn_saves (Table.find?_eq_some_iff.1 found).2 rest
  exact ⟨final, rfl, sequences⟩

end Work

namespace System

variable {system : System} {step : Step} {id : Nat}

theorem Moves.reference_after {before after : CaseFile} (moves : system.Moves step id before after)
    {reference : String} (named : after.application.reference = some reference) :
    (∃ given, before.application.reference = some given ∧
        ((stem given).length = 3 → stem reference = stem given)) ∨
      ∃ series year, series = caseSeries after.application.processType ∧
        (∃ caseType user, step.operation = .submit caseType id user) ∧
        reference = yearly series year (system.store.sequences series (some year) + 1) ∧
        (system.after step).store.sequences =
          system.store.sequences.advance series (some year) := by
  rcases moves.move.reference_step with same | ⟨unnamed, caseType, user, submits⟩ |
      ⟨given, written, before_eq, after_eq, kept⟩
  · exact .inl ⟨reference, same.symm.trans named, fun _ => rfl⟩
  · obtain ⟨answer, desk, ran⟩ := moves.takes.ran
    have performed := perform_of_ok ran
    rw [submits] at ran
    obtain ⟨application, ran, -⟩ := Work.map_eq_ok_iff.1 ran
    obtain ⟨stored, written, sequences⟩ := Work.submit_named ran moves.stored unnamed
    have final := moves.stored_after
    rw [System.after, performed] at final
    cases stored.symm.trans final
    rw [moves.move.processType_eq]
    refine .inr ⟨_, (step.setting.around system).year 0, rfl, ⟨caseType, user, submits⟩,
      Option.some.inj (named.symm.trans written), ?_⟩
    rw [System.after, performed]
    exact sequences
  · cases after_eq.symm.trans named
    exact .inl ⟨given, before_eq, kept⟩

end System

namespace CaseFile

theorem referenced (steps : List Step) {id : Nat} {file : CaseFile}
    (found : (System.initial.follow steps).store.fileOf id = some file) {reference : String}
    (named : file.application.reference = some reference) : ∃ year number,
      stem reference = stem (yearly (caseSeries file.application.processType) year number) := by
  refine file_invariant (fun _ _ file => ∀ reference, file.application.reference = some reference →
    ∃ year number, stem reference =
      stem (yearly (caseSeries file.application.processType) year number)) ?_ ?_ ?_
    steps found reference named
  · intro _ _ _ _ _ _ _ named
    cases named
  · exact fun _ _ _ _ kept => kept
  · intro _ _ _ before after moves kept reference named
    rcases moves.reference_after named with ⟨given, old, same⟩ | ⟨_, year, rfl, -, rfl, -⟩
    · obtain ⟨year, number, first⟩ := kept given old
      have whole : (stem given).length = 3 := by
        rw [first, Reference.stem_yearly_length (Reference.slash_not_mem_caseSeries _)]
      rw [same whole, moves.move.processType_eq]
      exact ⟨year, number, first⟩
    · exact ⟨year, _, rfl⟩

theorem stem_whole (steps : List Step) {id : Nat} {file : CaseFile}
    (found : (System.initial.follow steps).store.fileOf id = some file) {reference : String}
    (named : file.application.reference = some reference) : (stem reference).length = 3 := by
  obtain ⟨year, number, same⟩ := referenced steps found named
  rw [same, Reference.stem_yearly_length (Reference.slash_not_mem_caseSeries _)]

theorem old_of_named (steps : List Step) {id : Nat} {file : CaseFile}
    (found : (System.initial.follow steps).store.fileOf id = some file) {reference : String}
    (named : file.application.reference = some reference) :
    file.application.status ≠ .inProgress := by
  intro new
  have unnamed := file_invariant (fun _ _ file => file.application.status = .inProgress →
    file.application.reference = none) (fun _ _ _ _ _ _ _ => rfl) (fun _ _ _ _ kept => kept)
    (fun _ _ _ _ _ moves kept => moves.move.unnamed_of_new kept) steps found new
  cases named.symm.trans unnamed

theorem reference_kept (steps later : List Step) {id : Nat} {file : CaseFile}
    (found : (System.initial.follow steps).store.fileOf id = some file) {reference : String}
    (named : file.application.reference = some reference) :
    ∃ after, (System.initial.follow (steps ++ later)).store.fileOf id = some after ∧
      ∃ current, after.application.reference = some current ∧ stem current = stem reference := by
  have whole := stem_whole steps found named
  refine file_persists (fun file => ∃ current, file.application.reference = some current ∧
    stem current = stem reference) ?_ ?_ steps later found ⟨reference, named, rfl⟩
  · exact fun steps file found ⟨_, written, _⟩ => old_of_named steps found written
  · rintro steps step before after moves ⟨current, written, same⟩
    rcases moves.move.reference_step with kept | ⟨unnamed, -⟩ | ⟨given, last, old, new, kept⟩
    · exact ⟨current, kept.trans written, same⟩
    · cases written.symm.trans unnamed
    · cases written.symm.trans old
      -- What a variation writes behind depends on the stem being whole, which the first one is.
      exact ⟨last, new, (kept (by rw [same, whole])).trans same⟩

end CaseFile

def Store.Refers (store : Store) : Bearing := fun id series year number =>
  ∃ application reference written, store.applications.find? id = some application ∧
    application.reference = some reference ∧ series = caseSeries application.processType ∧
    year = some written ∧ stem reference = stem (yearly series written number)

theorem System.refers_after (steps : List Step) (step : Step) {id : Nat} {series : String}
    {year : Option Int} {number : Nat}
    (refers : ((initial.follow steps).after step).store.Refers id series year number)
    (new : ¬ (initial.follow steps).store.Refers id series year number) :
    (∃ caseType user, step.operation = .submit caseType id user) ∧
      number = (initial.follow steps).store.sequences series year + 1 ∧
      ((initial.follow steps).after step).store.sequences series year = number := by
  obtain ⟨application, reference, written, found, named, rfl, rfl, same⟩ := refers
  obtain ⟨file, filed, rfl⟩ := Store.exists_fileOf found
  rcases case_before (sound_follow steps) step filed with
    unmoved | ⟨_, _, _, _, -, -, -, rfl⟩ | ⟨before, moves⟩
  · have stored := (Store.fileOf_eq_some_iff.1 unmoved).1
    exact absurd ⟨_, reference, written, stored, named, rfl, rfl, same⟩ new
  -- A case that has just been started has no reference.
  · cases named
  · rcases moves.reference_after named with ⟨given, old, kept⟩ | ⟨_, year, rfl, submits, rfl, drawn⟩
    · have first := kept (CaseFile.stem_whole steps moves.found old)
      rw [moves.move.processType_eq] at same new
      exact absurd ⟨_, given, written, moves.stored, old, rfl, rfl, first.symm.trans same⟩ new
    · have free := Reference.slash_not_mem_caseSeries file.application.processType
      obtain ⟨-, rfl, rfl⟩ := Reference.stem_yearly_injective free free same
      refine ⟨submits, rfl, ?_⟩
      rw [drawn, Sequences.advance_self]

theorem cases_numbered (steps : List Step) :
    Numbering (System.initial.follow steps).store.sequences
      (System.initial.follow steps).store.Refers := by
  refine numbering_follow Store.Refers ?_ (fun steps step => .of_draw ?_ fun _ _ _ _ =>
    System.refers_after steps step) steps
  · rintro _ _ _ _ ⟨_, _, _, found, -⟩
    cases found
  · rintro id other ⟨_, _, submits⟩ ⟨_, _, submitted⟩
    cases submits.symm.trans submitted
    rfl

theorem System.eq_of_stem_eq (steps : List Step) {application other : Application}
    (stored : application ∈ (initial.follow steps).store.applications.rows)
    (also : other ∈ (initial.follow steps).store.applications.rows) {reference current : String}
    (named : application.reference = some reference) (written : other.reference = some current)
    (same : stem current = stem reference) : other.id = application.id := by
  have refers : ∀ application ∈ (initial.follow steps).store.applications.rows, ∀ reference,
      application.reference = some reference → ∃ year number,
        stem reference = stem (yearly (caseSeries application.processType) year number) ∧
        (initial.follow steps).store.Refers application.id (caseSeries application.processType)
          (some year) number := by
    intro application stored reference named
    have found := Table.find?_eq_some_iff.2 ⟨stored, rfl⟩
    obtain ⟨file, filed, rfl⟩ := Store.exists_fileOf found
    obtain ⟨year, number, first⟩ := CaseFile.referenced steps filed named
    exact ⟨year, number, first, _, reference, year, found, named, rfl, rfl, first⟩
  obtain ⟨year, number, first, mine⟩ := refers application stored reference named
  obtain ⟨_, _, second, others⟩ := refers other also current written
  have free := Reference.slash_not_mem_caseSeries
  obtain ⟨series, rfl, rfl⟩ := Reference.stem_yearly_injective (free _) (free _)
    (second.symm.trans (same.trans first))
  rw [series] at others
  exact (cases_numbered steps).apart _ _ _ _ _ others mine

/-- Once a case has a reference it is stored for good, under references that share its first three
sections, and no other case has a reference with the same three. -/
theorem references_stand (steps later : List Step) {application : Application} {reference : String}
    (stored : application ∈ (System.initial.follow steps).store.applications.rows)
    (named : application.reference = some reference) :
    (∃ kept ∈ (System.initial.follow (steps ++ later)).store.applications.rows,
      kept.id = application.id ∧
        ∃ current, kept.reference = some current ∧ stem current = stem reference) ∧
      ∀ other ∈ (System.initial.follow (steps ++ later)).store.applications.rows,
        ∀ current, other.reference = some current → stem current = stem reference →
          other.id = application.id := by
  have found := Table.find?_eq_some_iff.2 ⟨stored, rfl⟩
  obtain ⟨file, filed, rfl⟩ := Store.exists_fileOf found
  obtain ⟨after, becomes, current, written, same⟩ :=
    CaseFile.reference_kept steps later filed named
  obtain ⟨kept, known⟩ := Table.find?_eq_some_iff.1 (Store.fileOf_eq_some_iff.1 becomes).1
  refine ⟨⟨_, kept, known, current, written, same⟩, fun other also last named equal => ?_⟩
  exact (System.eq_of_stem_eq (steps ++ later) kept also written named
    (equal.trans same.symm)).trans known

namespace Sample

def renamed : List Step :=
  let varied : List Operation :=
    [.requestVariation .exporting 1 user "new address", .stop .exporting 1, .reopen .exporting 1]
  let another : List Operation :=
    [.create user
      ⟨.manufacture, user, "Acme Ltd", none, none, some (.certified ⟨["Norway"], [], []⟩)⟩,
      .submit .exporting 2 user]
  (varied ++ another).map (step false)

theorem issued_named :
    (∃ application ∈ (System.initial.follow issued).store.applications.rows,
      application.id = 1 ∧ application.reference = some "CA/2024/00001") ∧
      (System.initial.follow (issued ++ renamed)).store.applications.rows.map (·.reference) =
        [some "CA/2024/00001/1", some "CA/2024/00002"] := by
  decide +kernel

end Sample

theorem renamed_stands :
    (System.initial.follow (Sample.issued ++ Sample.renamed)).store.applications.rows.map
        (·.reference) = [some "CA/2024/00001/1", some "CA/2024/00002"] ∧
      (∃ kept ∈ (System.initial.follow
          (Sample.issued ++ Sample.renamed)).store.applications.rows, kept.id = 1 ∧
        ∃ current, kept.reference = some current ∧ stem current = stem "CA/2024/00001") ∧
      ∀ other ∈ (System.initial.follow
          (Sample.issued ++ Sample.renamed)).store.applications.rows,
        ∀ current, other.reference = some current → stem current = stem "CA/2024/00001" →
          other.id = 1 := by
  obtain ⟨⟨application, stored, number, named⟩, final⟩ := Sample.issued_named
  have stands := references_stand Sample.issued Sample.renamed stored named
  rw [number] at stands
  exact ⟨final, stands⟩

end Casework
