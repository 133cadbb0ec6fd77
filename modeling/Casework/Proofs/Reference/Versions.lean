import Casework.Proofs.Case.Correspondence
import Casework.Proofs.Case.Updates
import Casework.Proofs.Chief.Live
import Casework.Proofs.Reference.Cases

set_option autoImplicit false

namespace Casework

open Calendar
open Reference (countedVariations)
open Table (changeAt)

namespace Reference

open Text

def version (reference : String) : Nat :=
  match (sections '/' reference.toList)[3]? with
  | some digits => (digits? digits).getD 0
  | none => 0

theorem version_eq_zero {reference : String}
    (short : (sections '/' reference.toList).length ≤ 3) : version reference = 0 := by
  rw [version, List.getElem?_eq_none short]

theorem version_base (reference : String) : version (base reference) = 0 := by
  refine version_eq_zero ?_
  rw [sections_base, stem]
  exact List.length_take_le 3 _

theorem version_numbered {reference : String} (whole : (stem reference).length = 3) (count : Nat) :
    version (base reference ++ "/" ++ numeral count) = count := by
  have behind : (stem reference ++ [decimal count])[3]? = some (decimal count) := by
    rw [← whole, List.getElem?_concat_length]
  rw [version, sections_numbered, behind]
  simp only [digits?_decimal, Option.getD_some]

theorem version_yearly {series : String} (free : '/' ∉ series.toList) (year : Int) (number : Nat) :
    version (yearly series year number) = 0 := by
  refine version_eq_zero ?_
  rw [sections_yearly free]
  exact Nat.le_refl 3

theorem version_variation {application : Application} {given written : String}
    (before : application.reference = some given) (whole : (stem given).length = 3)
    (named : variation application = .ok written) :
    version written = countedVariations application := by
  rw [variation, before] at named
  have same := Except.ok.inj named
  split at same
  next none_counted => rw [← same, version_base, none_counted]
  next => rw [← same, version_numbered whole]

end Reference

theorem changeFirst_of_none {α : Type} {wanted : α → Bool} {change : α → α} {entries : List α}
    (none_wanted : entries.find? wanted = none) : changeFirst wanted change entries = entries := by
  induction entries with
  | nil => rfl
  | cons head tail ih =>
    rw [List.find?_cons] at none_wanted
    cases picked : wanted head with
    | true => simp [picked] at none_wanted
    | false => simp [changeFirst, picked, ih (by simpa [picked] using none_wanted)]

namespace Application

def version (application : Application) : Nat := application.reference.elim 0 Reference.version

def stoppedVariations (application : Application) : Nat :=
  if application.isImport then 0
  else application.variations.countP (·.status == .cancelled)

variable {application after : Application}

theorem counted_congr (kind : after.processType = application.processType)
    (variations : after.variations = application.variations) :
    countedVariations after = countedVariations application := by
  rw [countedVariations, variations, isImport_congr kind, countedVariations]

theorem stopped_congr (kind : after.processType = application.processType)
    (variations : after.variations = application.variations) :
    after.stoppedVariations = application.stoppedVariations := by
  rw [stoppedVariations, variations, isImport_congr kind, stoppedVariations]

theorem counted_of_import (imported : application.isImport = true) :
    countedVariations application = application.variations.length := by
  simp [countedVariations, imported]

theorem stopped_of_import (imported : application.isImport = true) :
    application.stoppedVariations = 0 := if_pos imported

section Opened

variable {variation : VariationRequest} (kind : after.processType = application.processType)
  (added : after.variations = application.variations ++ [variation])
  (opened : variation.status = .opened)

include kind added opened

theorem counted_opened : countedVariations after = countedVariations application + 1 := by
  simp [countedVariations, isImport_congr kind, added, opened]

theorem stopped_opened : after.stoppedVariations = application.stoppedVariations := by
  simp [stoppedVariations, isImport_congr kind, added, opened]

end Opened

-- The end of an open variation: it counts on if it is of an import or closed by an issue, and is
-- stopped if it is of an export and cancelled.
theorem counted_close (application : Application) (outcome : VariationStatus)
    (closes : outcome ≠ .opened) (now : Instant) :
    (countedVariations (application.closeOpenVariation outcome now) =
        countedVariations application ∧
      (application.closeOpenVariation outcome now).stoppedVariations =
        application.stoppedVariations) ∨
    (countedVariations (application.closeOpenVariation outcome now) + 1 =
        countedVariations application +
          (if application.isImport = true ∨ outcome = .closed then 1 else 0) ∧
      (application.closeOpenVariation outcome now).stoppedVariations =
        application.stoppedVariations +
          if application.isImport = false ∧ outcome = .cancelled then 1 else 0) := by
  cases found : application.variations.find? VariationRequest.isOpen with
  | none =>
    have kept : (application.closeOpenVariation outcome now).variations = application.variations :=
      changeFirst_of_none found
    exact .inl ⟨counted_congr rfl kept, stopped_congr rfl kept⟩
  | some variation =>
    have opened := VariationRequest.isOpen_iff.1 (List.find?_some found)
    have counts (asked : VariationRequest → Bool) :
        (application.closeOpenVariation outcome now).variations.countP asked +
            (if asked variation then 1 else 0) =
          application.variations.countP asked +
            if asked { variation with status := outcome, closedAt := some now } then 1 else 0 :=
      countP_changeFirst found
    have counted := counts fun variation =>
      application.isImport || variation.status == .opened || variation.status == .closed
    have stopped := counts (·.status == .cancelled)
    simp only [opened, beq_self_eq_true, Bool.or_true, Bool.true_or, if_true, reduceCtorEq,
      beq_eq_false_iff_ne.2 closes, Bool.or_false, Bool.or_eq_true, beq_iff_eq, if_false,
      Nat.add_zero] at counted stopped
    refine .inr ⟨?_, ?_⟩
    · simp only [countedVariations, ← List.countP_eq_length_filter]
      exact counted
    · have kind : (application.closeOpenVariation outcome now).isImport = application.isImport :=
        rfl
      rw [stoppedVariations, stoppedVariations, kind]
      cases application.isImport with
      | true => simp
      | false =>
        simp only [Bool.false_eq_true, if_false, true_and]
        exact stopped

theorem counted_issue (application : Application) (outcome : VariationStatus)
    (closes : outcome ≠ .opened) (counts : application.isImport = true ∨ outcome = .closed)
    (now : Instant) :
    countedVariations (application.closeOpenVariation outcome now) =
        countedVariations application ∧
      (application.closeOpenVariation outcome now).stoppedVariations =
        application.stoppedVariations := by
  rcases application.counted_close outcome closes now with same | ⟨counted, stopped⟩
  · exact same
  · rw [if_pos counts] at counted
    rw [if_neg] at stopped
    · exact ⟨Nat.add_right_cancel counted, stopped⟩
    · rintro ⟨exported, rfl⟩
      simp [exported] at counts

end Application

def Pack.isIssuedAs (version : Nat) (pack : Pack) : Bool :=
  pack.completed.isSome && pack.caseReference.elim 0 Reference.version == version

namespace CaseFile

variable {file after : CaseFile}

def issues (file : CaseFile) (version : Nat) : Nat := file.packs.countP (Pack.isIssuedAs version)

theorem issues_congr (packs : after.packs = file.packs) (version : Nat) :
    after.issues version = file.issues version := by
  rw [issues, packs, issues]

theorem issues_changePack {id : Nat} {change : Pack → Pack}
    (packs : after.packs = (file.changePack id change).packs)
    (completed : ∀ pack, (change pack).completed = pack.completed)
    (reference : ∀ pack, (change pack).caseReference = pack.caseReference) (version : Nat) :
    after.issues version = file.issues version := by
  rw [issues, packs, changePack_packs, changeAt, List.countP_map, issues]
  refine List.countP_congr fun pack _ => ?_
  simp only [Function.comp]
  split
  · rw [Pack.isIssuedAs, completed, reference, Pack.isIssuedAs]
  · rfl

theorem issues_newDraft {pack id : Nat} {terms : LicenceUpdate} {now : Instant}
    (packs : after.packs = file.packs ++ [.drafted pack id terms now]) (version : Nat) :
    after.issues version = file.issues version := by
  rw [issues, packs, List.countP_append]
  rfl

theorem issues_issue (ordered : file.Ordered) {draft : Pack} {earlier : Option Pack}
    (only : file.packs.filter (Pack.isIn .draft) = [draft])
    (before : file.packs.filter (Pack.isIn .active) = earlier.toList) {reference : Option String}
    {now : Instant} (packs : after.packs = (file.issue draft earlier reference now).packs)
    (version : Nat) :
    after.issues version ≤ file.issues version +
      if reference.elim 0 Reference.version = version then 1 else 0 := by
  rw [issues_congr packs]
  have issued : (draft.issued reference now).isIssuedAs version =
      (reference.elim 0 Reference.version == version) := rfl
  have count : ∀ base : CaseFile, base.Ordered → draft ∈ base.packs →
      (base.changePack draft.id (·.issued reference now)).issues version ≤ base.issues version +
        if reference.elim 0 Reference.version = version then 1 else 0 := by
    intro base ordered member
    have counted := Table.countP_changeAt (·.issued reference now) (Pack.isIssuedAs version)
      ordered.packs member
    rw [issued] at counted
    simp only [beq_iff_eq] at counted
    exact Nat.le_trans (Nat.le_add_right _ _) (Nat.le_of_eq counted)
  cases earlier with
  | none => exact count file ordered (mem_of_only only).1
  | some pack =>
    have archived : (file.changePack pack.id Pack.archived).issues version = file.issues version :=
      issues_changePack (Eq.refl (file.changePack pack.id Pack.archived).packs) (fun _ => rfl)
        (fun _ => rfl) version
    rw [← archived]
    exact count _ (ordered.changePack pack.id fun _ => rfl) (draft_kept ordered only before)

-- No more issues share a reference than variations of the case were stopped, the first one apart.
-- References that are still ahead of the variations, and the one that the next issue will bear,
-- leave room for that first one.
structure VersionsFit (file : CaseFile) : Prop where
  issued : ∀ version, file.issues version ≤ file.application.stoppedVariations + 1
  ahead : ∀ version, countedVariations file.application < version →
    file.issues version ≤ file.application.stoppedVariations
  pending : file.application.status.isSettled = false →
    file.issues file.application.version +
        (if countedVariations file.application < file.application.version then 1 else 0) ≤
      file.application.stoppedVariations
  varied : file.application.status = .variationRequested →
    file.application.version = countedVariations file.application

inductive Recounts (file after : CaseFile) : Prop where
  | carried (issues : ∀ version, after.issues version = file.issues version)
      (version : after.application.version = file.application.version)
      (counted : countedVariations after.application = countedVariations file.application)
      (stopped : after.application.stoppedVariations = file.application.stoppedVariations)
      (unsettled : after.application.status.isSettled = false →
        file.application.status.isSettled = false)
      (varied : after.application.status = .variationRequested →
        file.application.status = .variationRequested)
  | varied (issues : ∀ version, after.issues version = file.issues version)
      (version : after.application.version = countedVariations after.application)
      (counted : countedVariations after.application = countedVariations file.application + 1)
      (stopped : after.application.stoppedVariations = file.application.stoppedVariations)
  | issued (before : file.application.status.isSettled = false)
      (status : after.application.status = .completed)
      (issues : ∀ version, after.issues version ≤ file.issues version +
        if file.application.version = version then 1 else 0)
      (counted : countedVariations after.application = countedVariations file.application)
      (stopped : after.application.stoppedVariations = file.application.stoppedVariations)
  | withdrawn (before : file.application.status = .variationRequested)
      (status : after.application.status = .completed)
      (issues : ∀ version, after.issues version = file.issues version)
      (counted : countedVariations file.application ≤ countedVariations after.application + 1)
      (stopped : after.application.stoppedVariations = file.application.stoppedVariations)
  | stopped (before : file.application.status.isSettled = false)
      (status : after.application.status = .stopped)
      (issues : ∀ version, after.issues version = file.issues version)
      (version : after.application.version = file.application.version)
      (counted : countedVariations after.application + 1 = countedVariations file.application)
      (stopped : after.application.stoppedVariations = file.application.stoppedVariations + 1)

theorem VersionsFit.recount (fit : file.VersionsFit) (recounts : Recounts file after) :
    after.VersionsFit := by
  obtain ⟨issued, ahead, pending, varied⟩ := fit
  cases recounts with
  | carried issues version counted stopped unsettled still =>
    refine ⟨?_, ?_, ?_, ?_⟩
    · simpa only [issues, stopped] using issued
    · simpa only [issues, stopped, counted] using ahead
    · intro standing
      simpa only [issues, stopped, counted, version] using pending (unsettled standing)
    · intro status
      rw [version, counted]
      exact varied (still status)
  | varied issues version counted stopped =>
    refine ⟨?_, ?_, ?_, ?_⟩
    · simpa only [issues, stopped] using issued
    · intro above beyond
      rw [issues, stopped]
      exact ahead above (by omega)
    · intro _
      rw [version, issues, stopped, if_neg (Nat.lt_irrefl _), counted]
      exact ahead _ (Nat.lt_succ_self _)
    · exact fun _ => version
  | issued before status issues counted stopped =>
    have room := pending before
    refine ⟨?_, ?_, ?_, ?_⟩
    · intro version
      have more := issues version
      have least := issued version
      rw [stopped]
      split at more
      next same =>
        subst same
        omega
      next => omega
    · intro above beyond
      have more := issues above
      have least := ahead above (by omega)
      rw [stopped]
      split at more
      next same =>
        subst same
        rw [if_pos (by omega)] at room
        omega
      next => omega
    · intro standing
      rw [status] at standing
      cases standing
    · intro requested
      cases status.symm.trans requested
  | withdrawn before status issues counted stopped =>
    have current := varied before
    have room := pending (by rw [before]; rfl)
    refine ⟨?_, ?_, ?_, ?_⟩
    · simpa only [issues, stopped] using issued
    · intro above beyond
      rw [issues, stopped]
      by_cases same : above = file.application.version
      · subst same
        omega
      · exact ahead above (by omega)
    · intro standing
      rw [status] at standing
      cases standing
    · intro requested
      cases status.symm.trans requested
  | stopped before status issues version counted stopped =>
    have room := pending before
    refine ⟨?_, ?_, ?_, ?_⟩
    · intro above
      have least := issued above
      rw [issues, stopped]
      omega
    · intro above beyond
      have least := issued above
      rw [issues, stopped]
      omega
    · intro _
      rw [version, issues, stopped]
      split <;> omega
    · intro requested
      cases status.symm.trans requested

theorem Recounts.carry (issues : ∀ version, after.issues version = file.issues version)
    (kind : after.application.processType = file.application.processType)
    (variations : after.application.variations = file.application.variations)
    (version : after.application.version = file.application.version)
    (unsettled : after.application.status.isSettled = false →
      file.application.status.isSettled = false)
    (varied : after.application.status = .variationRequested →
      file.application.status = .variationRequested) : Recounts file after :=
  .carried issues version (Application.counted_congr kind variations)
    (Application.stopped_congr kind variations) unsettled varied

end CaseFile

open CaseFile Application

section Moves

variable {context : Context} {id : Nat} {operation : Operation} {file after : CaseFile}

theorem Edit.variations_eq {application : Application}
    (edit : Edit context id operation file application) :
    application.variations = file.application.variations := by
  cases edit with
  | decision => unfold Application.withDecision; split <;> rfl
  | _ => rfl

theorem Edit.recounts {application : Application}
    (edit : Edit context id operation file application) :
    Recounts file (file.put application) := by
  refine .carry (fun _ => rfl) edit.processType_eq edit.variations_eq ?_ ?_ ?_
  · exact congrArg (Option.elim · 0 Reference.version) edit.reference_eq
  · intro unsettled
    rcases edit.status_cases with same | ⟨before, -⟩
    · rwa [← same]
    · exact unsettled_of_open before
  · intro requested
    cases edit with
    | takeOwnership => exact (taken_varied_iff _).1 requested
    | releaseOwnership => exact released_varied_iff.1 requested
    | decision =>
      simp only [put_application, Application.withDecision] at requested
      split at requested <;> exact requested
    | _ => exact requested

theorem Move.recounts (ordered : file.Ordered) (move : Move context id operation file after)
    (drawn : file.application.reference = none → after.application.version = 0)
    (whole : ∀ given, file.application.reference = some given →
      (Reference.stem given).length = 3)
    (sent : file.load .chiefWait ≠ 0 → file.application.isImport = true) :
    Recounts file after := by
  cases move with
  | edit edit => exact edit.recounts
  | startLicence _ current =>
    refine .carry (issues_changePack rfl (fun _ => rfl) fun _ => rfl) rfl rfl rfl (fun _ => ?_)
      (taken_varied_iff _).1
    have stage := current.status
    simp only [List.mem_cons, List.not_mem_nil, or_false] at stage
    rcases stage with stage | stage <;> rw [stage] <;> rfl
  | editLicence =>
    exact .carry (issues_changePack rfl (fun _ => rfl) fun _ => rfl) rfl rfl rfl
      (fun unsettled => unsettled) fun requested => requested
  | submit _ editing _ _ _ kept =>
    refine .carry (issues_congr (by simp)) rfl rfl ?_ (fun _ => ?_)
      (afterSubmission_varied_iff _ _ _).1
    · cases before : file.application.reference with
      | none =>
        rw [drawn before, version, before]
        rfl
      | some given =>
        rw [version, version, before, put_application, afterSubmission, kept given before]
    · have stage := editing.status_mem
      simp only [List.mem_cons, List.not_mem_nil, or_false] at stage
      rcases stage with stage | stage | stage | stage <;> rw [stage] <;> rfl
  | refuseVariation _ _ _ _ varied =>
    have imported : file.application.isImport = true := (Bool.and_eq_true_iff.1 varied).1
    refine .carried (issues_changePack rfl (fun _ => rfl) fun _ => rfl) rfl ?_ ?_ (by rintro ⟨⟩)
      (by rintro ⟨⟩)
    · have still : (file.application.rejectVariation context.now).isImport = true := imported
      rw [counted_of_import imported, put_application, counted_of_import still]
      have numbers := congrArg List.length
        (file.application.entries_rejectVariation context.now)
      simp only [entries, List.length_append, List.length_map] at numbers
      exact Nat.add_left_cancel numbers
    · exact (stopped_of_import imported).symm ▸ stopped_of_import imported
  | refuse =>
    exact .carry (issues_changePack rfl (fun _ => rfl) fun _ => rfl) rfl rfl rfl
      (by rintro ⟨⟩) (by rintro ⟨⟩)
  | approve _ current =>
    exact .carry (fun _ => rfl) rfl rfl rfl (fun _ => unsettled_of_processing current.status)
      (authorising_varied_iff _).1
  | issueDocuments _ current _ only before =>
    have numbers := file.application.counted_issue
      (if file.application.isImport then .accepted else .closed)
      (by split <;> decide) (by cases file.application.isImport <;> simp) context.now
    exact .issued (unsettled_of_processing current.status) rfl
      (issues_issue ordered only before (finish_issue_packs file _ _ _ _ _ _ _))
      numbers.1 numbers.2
  | @acceptWithdrawal _ _ user answer _ _ stage =>
    unfold Application.withdraw
    split
    next varied =>
      have ended := (file.application.answerWithdrawal user .accepted answer).counted_close
        .withdrawn (by decide) context.now
      refine .withdrawn varied rfl (issues_changePack rfl (fun _ => rfl) fun _ => rfl) ?_ ?_
      · rcases ended with ⟨counted, -⟩ | ⟨counted, -⟩
        · exact Nat.le_succ_of_le (Nat.le_of_eq counted.symm)
        · exact Nat.le_trans (Nat.le_add_right _ _) (Nat.le_of_eq counted.symm)
      · rcases ended with ⟨-, stopped⟩ | ⟨-, stopped⟩
        · exact stopped
        · simp only [reduceCtorEq, and_false, if_false, Nat.add_zero] at stopped
          exact stopped
    next unvaried =>
      exact .carry (issues_changePack rfl (fun _ => rfl) fun _ => rfl) rfl rfl rfl
        (fun _ => unsettled_of_open stage) (by rintro ⟨⟩)
  | rejectWithdrawal =>
    exact .carry (issues_congr (by simp)) rfl rfl rfl (fun unsettled => unsettled)
      fun requested => requested
  | stop _ current =>
    have ended := file.application.counted_close .cancelled (by decide) context.now
    have unsettled := unsettled_of_open current.status
    rcases ended with ⟨counted, stopped⟩ | ⟨counted, stopped⟩
    · exact .carried (issues_changePack rfl (fun _ => rfl) fun _ => rfl) rfl counted stopped
        (fun _ => unsettled) (by rintro ⟨⟩)
    · cases imported : file.application.isImport with
      | true =>
        simp only [imported, true_or, if_true, Bool.true_eq_false, false_and, if_false,
          Nat.add_zero, Nat.add_right_cancel_iff] at counted stopped
        exact .carried (issues_changePack rfl (fun _ => rfl) fun _ => rfl) rfl counted stopped
          (fun _ => unsettled) (by rintro ⟨⟩)
      | false =>
        simp only [imported, Bool.false_eq_true, reduceCtorEq, or_self, if_false, Nat.add_zero,
          true_and, if_true] at counted stopped
        exact .stopped unsettled rfl (issues_changePack rfl (fun _ => rfl) fun _ => rfl) rfl
          counted stopped
  | reopen _ stage =>
    refine .carry (issues_newDraft rfl) rfl rfl rfl (fun _ => ?_) (by rintro ⟨⟩)
    simp only [List.mem_cons, List.not_mem_nil, or_false] at stage
    rcases stage with stage | stage <;> rw [stage] <;> rfl
  | revoke | revokeAtChief =>
    exact .carry (issues_changePack rfl (fun _ => rfl) fun _ => rfl) rfl rfl rfl
      (by rintro ⟨⟩) (by rintro ⟨⟩)
  | requestVariation _ _ opened named =>
    subst opened
    obtain ⟨given, before⟩ := Reference.exists_of_variation named
    have version := Reference.version_variation before (whole given before) named
    exact .varied (issues_newDraft rfl) version (counted_opened rfl rfl rfl)
      (stopped_opened rfl rfl rfl)
  | approveLicence current only before =>
    have numbers := file.application.counted_issue .accepted (by decide)
      (.inl (sent current.held)) context.now
    exact .issued (unsettled_of_processing current.status) rfl
      (issues_issue ordered only before
        ((answer_packs _ _).trans (finish_issue_packs file _ _ _ _ _ _ _)))
      numbers.1 numbers.2
  | approveRevocation =>
    exact .carry (issues_congr (answer_packs _ _)) rfl rfl rfl (fun unsettled => unsettled)
      fun requested => requested
  | rejectLicence =>
    refine .carry (issues_congr (answer_packs _ _)) ?_ ?_ ?_ ?_ ?_ <;> rw [answer_application]
    · rfl
    · rfl
    · rfl
    · exact fun unsettled => unsettled
    · exact fun requested => requested
  | _ =>
    exact .carry (fun _ => rfl) rfl rfl rfl (fun unsettled => unsettled)
      fun requested => requested

end Moves

theorem System.Moves.version_drawn {system : System} {step : Step} {id : Nat}
    {before after : CaseFile} (moves : system.Moves step id before after)
    (unnamed : before.application.reference = none) : after.application.version = 0 := by
  rw [version]
  cases named : after.application.reference with
  | none => rfl
  | some reference =>
    rcases moves.reference_after named with ⟨given, old, -⟩ | ⟨_, year, rfl, -, rfl, -⟩
    · cases unnamed.symm.trans old
    · exact Reference.version_yearly (Reference.slash_not_mem_caseSeries _) year _

theorem CaseFile.versions_fit (steps : List Step) {id : Nat} {file : CaseFile}
    (found : (System.initial.follow steps).store.fileOf id = some file) : file.VersionsFit := by
  have imported : ∀ steps {id : Nat} {file : CaseFile}
      (_ : (System.initial.follow steps).store.fileOf id = some file),
      file.load .chiefWait ≠ 0 → file.application.isImport = true := by
    intro steps id file found held
    exact (Bool.and_eq_true_iff.1 (goes steps found rfl held)).1
  refine file_invariant (fun _ _ file => file.VersionsFit) ?_ ?_ ?_ steps found
  · exact fun _ _ _ _ _ _ =>
      ⟨fun _ => Nat.zero_le _, fun _ _ => Nat.zero_le _, fun _ => Nat.zero_le _, by rintro ⟨⟩⟩
  · exact fun _ _ _ _ fit => fit
  · intro steps step id before after moves fit
    exact fit.recount (moves.move.recounts moves.ordered moves.version_drawn
      (fun _ => stem_whole steps moves.found) (imported steps moves.found))

theorem eq_of_countP_le_one {α : Type} {wanted : α → Bool} {entries : List α}
    (single : entries.countP wanted ≤ 1) {first second : α} (first_mem : first ∈ entries)
    (second_mem : second ∈ entries) (first_wanted : wanted first = true)
    (second_wanted : wanted second = true) : first = second := by
  rw [List.countP_eq_length_filter] at single
  have one := List.mem_filter.2 ⟨first_mem, first_wanted⟩
  have other := List.mem_filter.2 ⟨second_mem, second_wanted⟩
  cases kept : entries.filter wanted with
  | nil =>
    rw [kept] at one
    cases one
  | cons head tail =>
    rw [kept] at single one other
    have alone : tail = [] := List.length_eq_zero_iff.1 (by simpa using single)
    rw [alone, List.mem_singleton] at one other
    exact one.trans other.symm

/-- In all runs the issues of a case that share a reference are no more than one and the variations
that were stopped, and there is just one of each reference if the case is an import. So two issues
share a reference only if the case is an export and a variation of it was stopped. -/
theorem issued_references (steps : List Step) {id : Nat} {application : Application}
    (stored : (System.initial.follow steps).store.applications.find? id = some application) :
    (∀ reference : Option String,
      ((System.initial.follow steps).store.packsOf id).countP (fun pack =>
          pack.completed.isSome && pack.caseReference == reference) ≤
        1 + if application.isImport then 0
          else application.variations.countP (·.status == .cancelled)) ∧
    ∀ first ∈ (System.initial.follow steps).store.packsOf id,
      ∀ second ∈ (System.initial.follow steps).store.packsOf id,
        first.completed.isSome = true → second.completed.isSome = true →
          first.caseReference = second.caseReference → first ≠ second →
            application.isImport = false ∧
              ∃ variation ∈ application.variations, variation.status = .cancelled := by
  obtain ⟨file, found, rfl⟩ := Store.exists_fileOf stored
  have fit := CaseFile.versions_fit steps found
  obtain ⟨-, -, packs, -⟩ := Store.fileOf_eq_some_iff.1 found
  rw [packs]
  have bound : ∀ reference : Option String, file.packs.countP (fun pack =>
      pack.completed.isSome && pack.caseReference == reference) ≤
        file.application.stoppedVariations + 1 := by
    intro reference
    refine Nat.le_trans (List.countP_mono_left fun pack _ same => ?_)
      (fit.issued (reference.elim 0 Reference.version))
    simp only [Bool.and_eq_true, beq_iff_eq] at same
    simp [Pack.isIssuedAs, same]
  refine ⟨fun reference => ?_, fun first first_mem second second_mem issued also same apart => ?_⟩
  · rw [Nat.add_comm]
    exact bound reference
  · have some_stopped : file.application.stoppedVariations ≠ 0 := by
      intro none_stopped
      have single := bound second.caseReference
      rw [none_stopped] at single
      exact apart (eq_of_countP_le_one single first_mem second_mem (by simp [issued, same])
        (by simp [also]))
    unfold stoppedVariations at some_stopped
    split at some_stopped
    next => exact absurd rfl some_stopped
    next exported =>
      obtain ⟨variation, member, stopped⟩ :=
        List.countP_pos_iff.1 (Nat.pos_of_ne_zero some_stopped)
      exact ⟨eq_false_of_ne_true exported, variation, member, beq_iff_eq.1 stopped⟩

namespace Sample

-- A certificate is varied, the variation is stopped, and the reopened case is issued as it stands.
-- Then it is varied and issued once more.
def reissued : List Step :=
  let stopped : List Operation :=
    [.requestVariation .exporting 1 user "country", .stop .exporting 1, .reopen .exporting 1,
      .takeOwnership .exporting 1 user]
  let worked : List Operation := .startAuthorisation .exporting 1 user :: issue
  let varied : List Operation := [.requestVariation .exporting 1 user "country"]
  issued ++ (stopped ++ worked ++ varied ++ worked).map (step false)

theorem reissued_twice :
    (∃ application ∈ (System.initial.follow reissued).store.applications.rows,
      application.id = 1) ∧
    ∃ first ∈ (System.initial.follow reissued).store.packsOf 1,
      ∃ second ∈ (System.initial.follow reissued).store.packsOf 1,
        first.completed.isSome = true ∧ second.completed.isSome = true ∧
          first.caseReference = some "CA/2024/00001/1" ∧
          second.caseReference = some "CA/2024/00001/1" ∧ first ≠ second := by
  decide +kernel

end Sample

theorem reissued_stopped : ∃ application ∈
    (System.initial.follow Sample.reissued).store.applications.rows,
      application.isImport = false ∧
        ∃ variation ∈ application.variations, variation.status = .cancelled := by
  obtain ⟨⟨application, stored, number⟩, first, first_mem, second, second_mem, issued, also,
    bears, too, apart⟩ := Sample.reissued_twice
  have shared := (issued_references Sample.reissued
    (Table.find?_eq_some_iff.2 ⟨stored, number⟩)).2
  exact ⟨application, stored,
    shared first first_mem second second_mem issued also (bears.trans too.symm) apart⟩

/-- Not every issue of a case can be told from its other issues by its reference. -/
theorem reissued_alike :
    ¬ ∀ system, Reachable system → ∀ id, ∀ first ∈ system.store.packsOf id,
      ∀ second ∈ system.store.packsOf id, first.completed.isSome = true →
        second.completed.isSome = true → first.caseReference = second.caseReference →
          first = second := by
  intro distinct
  obtain ⟨-, first, first_mem, second, second_mem, issued, also, bears, too, apart⟩ :=
    Sample.reissued_twice
  exact apart (distinct _ (reachable_iff.2 ⟨Sample.reissued, rfl⟩) 1 first first_mem second
    second_mem issued also (bears.trans too.symm))

end Casework
