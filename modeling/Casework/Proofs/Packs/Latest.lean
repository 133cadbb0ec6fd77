import Casework.Proofs.Case.Transitions

set_option autoImplicit false

namespace Casework

open Calendar
open Numbered (number)

namespace Pack

def newest (latest : Option Pack) (pack : Pack) : Option Pack :=
  match latest with
  | none => some pack
  | some best => if best.isNoNewerThan pack then some pack else some best

theorem foldl_newest {packs : List Pack}
    (inTurn : packs.Pairwise fun earlier later => earlier.isNoNewerThan later = true) :
    packs.foldl newest none = packs.getLast? := by
  induction packs using List.reverseRecOn with
  | nil => rfl
  | append_singleton packs pack ih =>
    obtain ⟨earlier, -, before⟩ := List.pairwise_append.1 inTurn
    rw [List.foldl_append, ih earlier, List.getLast?_concat]
    cases last : packs.getLast? with
    | none => rfl
    | some best =>
      have older := before best (List.mem_of_getLast? last) pack (List.mem_singleton_self pack)
      simp only [List.foldl_cons, List.foldl_nil, newest, older, if_true]

theorem isNoNewerThan_of_created_le {pack other : Pack} (created : pack.created ≤ other.created)
    (numbered : pack.id < other.id) : pack.isNoNewerThan other = true := by
  simp only [isNoNewerThan, created, Nat.le_of_lt numbered, decide_true, Bool.and_self,
    Bool.or_true]

def isStanding (pack : Pack) : Bool := pack.isIn .active || pack.isIn .revoked

theorem Next.created_eq {pack other : Pack} (next : pack.Next other) :
    other.created = pack.created := by
  cases next <;> rfl

end Pack

theorem Store.latestPack_eq_foldl (store : Store) (id : Nat) :
    store.latestPack id =
      ((store.packsOf id).filter (·.status.isVisible)).foldl Pack.newest none := rfl

namespace CaseFile

variable {file after : CaseFile}

theorem length_changePack (id : Nat) (change : Pack → Pack) :
    (file.changePack id change).packs.length = file.packs.length :=
  List.length_map _

theorem length_issue (draft : Pack) (earlier : Option Pack) (reference : Option String)
    (now : Instant) :
    (file.issue draft earlier reference now).packs.length = file.packs.length := by
  cases earlier with
  | none => exact length_changePack _ _
  | some earlier => exact (length_changePack _ _).trans (length_changePack _ _)

def Redrafts (context : Context) (id : Nat) (file after : CaseFile) : Prop :=
  file.application.status.hasDraft = false ∧
    ∃ pack terms, after.packs = file.packs ++ [.drafted pack id terms context.now]

end CaseFile

section Moves

open CaseFile

variable {context : Context} {id : Nat} {operation : Operation} {file after : CaseFile}

theorem Move.redrafts (move : Move context id operation file after) :
    after.packs.length = file.packs.length ∨ file.Redrafts context id after := by
  cases move with
  | reopen _ stage =>
    refine .inr ⟨?_, _, _, rfl⟩
    simp only [List.mem_cons, List.not_mem_nil, or_false] at stage
    rcases stage with stage | stage <;> rw [stage] <;> rfl
  | requestVariation _ stage => exact .inr ⟨by rw [stage]; rfl, _, _, rfl⟩
  | submit => exact .inl (congrArg List.length (ensureTask_packs _ _))
  | rejectWithdrawal => exact .inl (congrArg List.length (ensureTask_packs _ _))
  | issueDocuments =>
    left
    rw [put_packs, finish_issue_packs, length_issue]
  | approveLicence =>
    left
    rw [put_packs, answer_packs, finish_issue_packs, length_issue]
  | approveRevocation => exact .inl (congrArg List.length (answer_packs _ _))
  | rejectLicence => exact .inl (congrArg List.length (answer_packs _ _))
  | startLicence | editLicence | refuseVariation | refuse | acceptWithdrawal | stop | revoke
  | revokeAtChief => exact .inl (length_changePack _ _)
  | _ => exact .inl rfl

theorem Move.packs_cases (ordered : file.Ordered) (move : Move context id operation file after) :
    (∃ change : Pack → Pack, after.packs = file.packs.map change ∧
        ∀ pack ∈ file.packs, pack.Next (change pack)) ∨
      file.Redrafts context id after := by
  refine move.redrafts.imp_left fun length => ?_
  obtain ⟨change, added, packs, next, -⟩ := move.continues ordered
  rw [packs, List.length_append, List.length_map, Nat.add_eq_left, List.length_eq_zero_iff]
    at length
  exact ⟨change, by rw [packs, length, List.append_nil], next⟩

end Moves

/-- The clock never goes back from one step to a later one. -/
def Timely (steps : List Step) : Prop :=
  steps.Pairwise fun earlier later => earlier.setting.now ≤ later.setting.now

instance (steps : List Step) : Decidable (Timely steps) :=
  inferInstanceAs (Decidable (steps.Pairwise _))

namespace CaseFile

-- The packs of a case are kept in the order in which they were drafted, and all but the last have
-- been issued or abandoned.
structure InTurn (steps : List Step) (file : CaseFile) : Prop where
  drafted : ∀ pack ∈ file.packs, ∃ step ∈ steps, pack.created = step.setting.now
  aging : file.packs.Pairwise fun earlier later => earlier.created ≤ later.created
  settled : file.packs.Pairwise fun earlier _ => earlier.status ≠ .draft

variable {file after : CaseFile} {steps : List Step} {step : Step} {id : Nat}

theorem undrafted (fit : file.PacksFit) (idle : file.application.status.hasDraft = false)
    {pack : Pack} (member : pack ∈ file.packs) : pack.status ≠ .draft := by
  have count : file.packCount .draft = 0 := by rw [fit.draft, idle]; rfl
  intro draft
  simpa [Pack.isIn, draft] using List.countP_eq_zero.1 count pack member

namespace InTurn

theorem started (application : Application) (task pack : Nat) :
    (CaseFile.started application task pack step.setting.now).InTurn (steps ++ [step]) where
  drafted := fun _ member => ⟨step, by simp, by rw [List.mem_singleton.1 member]; rfl⟩
  aging := List.pairwise_singleton _ _
  settled := List.pairwise_singleton _ _

theorem mono (turn : file.InTurn steps) (later : List Step) : file.InTurn (steps ++ later) where
  drafted := fun pack member =>
    let ⟨step, earlier, created⟩ := turn.drafted pack member
    ⟨step, List.mem_append_left _ earlier, created⟩
  aging := turn.aging
  settled := turn.settled

theorem change (turn : file.InTurn steps) {change : Pack → Pack}
    (packs : after.packs = file.packs.map change)
    (next : ∀ pack ∈ file.packs, pack.Next (change pack)) : after.InTurn steps := by
  refine ⟨?_, ?_, ?_⟩ <;> rw [packs]
  · intro pack member
    obtain ⟨before, listed, rfl⟩ := List.mem_map.1 member
    rw [(next before listed).created_eq]
    exact turn.drafted before listed
  · refine List.pairwise_map.2 (turn.aging.imp_of_mem fun first second aging => ?_)
    rwa [(next _ first).created_eq, (next _ second).created_eq]
  · refine List.pairwise_map.2 (turn.settled.imp_of_mem fun first _ settled => ?_)
    exact ((next _ first).alike settled).2

theorem redraft (turn : file.InTurn steps) (fit : file.PacksFit) (timely : Timely (steps ++ [step]))
    {system : System} (redrafts : file.Redrafts (step.setting.around system) id after) :
    after.InTurn (steps ++ [step]) := by
  obtain ⟨idle, pack, terms, packs⟩ := redrafts
  have before : ∀ earlier ∈ file.packs, earlier.created ≤ step.setting.now := by
    intro earlier listed
    obtain ⟨first, taken, created⟩ := turn.drafted earlier listed
    rw [created]
    exact (List.pairwise_append.1 timely).2.2 first taken step (List.mem_singleton_self step)
  refine ⟨?_, ?_, ?_⟩ <;> rw [packs]
  · intro other member
    rcases List.mem_append.1 member with earlier | new
    · exact (turn.mono [step]).drafted other earlier
    · exact ⟨step, by simp, by rw [List.mem_singleton.1 new]; rfl⟩
  · refine List.pairwise_append.2 ⟨turn.aging, List.pairwise_singleton _ _, ?_⟩
    intro earlier listed new last
    rw [List.mem_singleton.1 last]
    exact before earlier listed
  · refine List.pairwise_append.2 ⟨turn.settled, List.pairwise_singleton _ _, ?_⟩
    exact fun earlier listed _ _ => undrafted fit idle listed

theorem moved (turn : file.InTurn steps) (timely : Timely (steps ++ [step]))
    (moves : (System.initial.follow steps).Moves step id file after) :
    after.InTurn (steps ++ [step]) := by
  rcases moves.move.packs_cases moves.ordered with ⟨change, packs, next⟩ | redrafts
  · exact (turn.mono [step]).change packs next
  · exact turn.redraft (packs_fit steps moves.found) timely redrafts

end InTurn

theorem packs_inTurn (timely : Timely steps)
    (found : (System.initial.follow steps).store.fileOf id = some file) : file.InTurn steps := by
  revert timely
  refine file_invariant (fun steps _ file => Timely steps → file.InTurn steps) ?_ ?_ ?_ steps
    found
  · exact fun _ _ _ _ _ _ _ => .started _ _ _
  · exact fun _ step _ _ turn timely => (turn (List.pairwise_append.1 timely).1).mono [step]
  · intro steps step id before after moves turn timely
    exact (turn (List.pairwise_append.1 timely).1).moved timely moves

theorem InTurn.draft_last (turn : file.InTurn steps) {draft : Pack} (member : draft ∈ file.packs)
    (isDraft : draft.status = .draft) : ∃ before, file.packs = before ++ [draft] := by
  obtain ⟨before, rest, packs⟩ := List.append_of_mem member
  have settled := turn.settled
  rw [packs] at settled
  cases rest with
  | nil => exact ⟨before, packs⟩
  | cons later rest =>
    have follows := (List.pairwise_cons.1 (List.pairwise_append.1 settled).2.1).1
    exact absurd isDraft (follows later List.mem_cons_self)

theorem standing_le (fit : file.PacksFit) (unissued : file.Unissued) :
    file.packs.countP Pack.isStanding ≤ 1 := by
  by_cases revoked : file.application.status = .revoked
  · have inactive := List.countP_eq_zero.1 (unissued revoked)
    have same : file.packs.countP Pack.isStanding = file.packCount .revoked :=
      List.countP_congr fun pack listed => by simp [Pack.isStanding, inactive pack listed]
    exact Nat.le_of_eq (by rw [same, fit.revoked, if_pos revoked])
  · have count : file.packCount .revoked = 0 := by rw [fit.revoked, if_neg revoked]
    have standing := List.countP_eq_zero.1 count
    have same : file.packs.countP Pack.isStanding = file.packCount .active :=
      List.countP_congr fun pack listed => by simp [Pack.isStanding, standing pack listed]
    rw [same]
    exact fit.active

theorem InTurn.latest_visible (turn : file.InTurn steps) (fit : file.PacksFit)
    (unissued : file.Unissued) :
    (file.packs.filter (·.status.isVisible)).getLast? =
      (file.packs.find? (Pack.isIn .draft)).or (file.packs.find? Pack.isStanding) := by
  cases drafted : file.packs.find? (Pack.isIn .draft) with
  | some draft =>
    have isIn : draft.isIn .draft = true := List.find?_some drafted
    have isDraft := beq_iff_eq.1 isIn
    obtain ⟨before, packs⟩ := turn.draft_last (List.mem_of_find?_eq_some drafted) isDraft
    have visible : [draft].filter (·.status.isVisible) = [draft] :=
      List.filter_cons_of_pos (by rw [isDraft]; rfl)
    rw [packs, List.filter_append, visible, List.getLast?_concat, Option.some_or]
  | none =>
    have undrafted := List.find?_eq_none.1 drafted
    have same : file.packs.filter (·.status.isVisible) = file.packs.filter Pack.isStanding := by
      refine List.filter_congr fun pack listed => ?_
      have settled := undrafted pack listed
      cases status : pack.status <;>
        simp [Pack.isStanding, Pack.isIn, PackStatus.isVisible, status] at settled ⊢
    have single := standing_le fit unissued
    rw [List.countP_eq_length_filter] at single
    rw [same, Option.none_or, ← List.head?_filter]
    generalize file.packs.filter Pack.isStanding = standing at single ⊢
    rcases standing with _ | ⟨pack, _ | ⟨other, rest⟩⟩
    · rfl
    · rfl
    · simp at single

theorem latestPack_of_inTurn {store : Store} (found : store.fileOf id = some file)
    (turn : file.InTurn steps) :
    store.latestPack id = (file.packs.filter (·.status.isVisible)).getLast? := by
  have packs := (Store.fileOf_eq_some_iff.1 found).2.2.1
  have ordered := (Store.ordered_of_fileOf found).packs
  rw [Store.latestPack_eq_foldl, packs, Pack.foldl_newest]
  exact ((turn.aging.and ordered).filter _).imp fun both =>
    Pack.isNoNewerThan_of_created_le both.1 both.2

end CaseFile

/-- As long as the clock does not go back, the latest pack of a case is its draft, or without one
the pack in force or revoked, of which there is at most one. -/
theorem latestPack_current {steps : List Step} (timely : Timely steps) (id : Nat) :
    let store := (System.initial.follow steps).store
    store.latestPack id =
        ((store.packsOf id).find? (Pack.isIn .draft)).or
          ((store.packsOf id).find? Pack.isStanding) ∧
      (store.packsOf id).countP (Pack.isIn .draft) ≤ 1 ∧
      (store.packsOf id).countP Pack.isStanding ≤ 1 := by
  intro store
  cases found : store.fileOf id with
  | none =>
    have missing : store.packsOf id = [] :=
      Store.Sound.packsOf_unstored (System.sound_follow steps) found
    rw [Store.latestPack_eq_foldl, missing]
    exact ⟨rfl, Nat.zero_le _, Nat.zero_le _⟩
  | some file =>
    have fit := CaseFile.packs_fit steps found
    have unissued := CaseFile.unissued steps found
    have turn := CaseFile.packs_inTurn timely found
    rw [CaseFile.latestPack_of_inTurn found turn, turn.latest_visible fit unissued,
      (Store.fileOf_eq_some_iff.1 found).2.2.1]
    refine ⟨rfl, ?_, CaseFile.standing_le fit unissued⟩
    have drafts := fit.draft
    rw [CaseFile.packCount] at drafts
    rw [drafts]
    split <;> decide

namespace Sample

def varied : List Step :=
  issued ++ [step false (.requestVariation .exporting 1 user "new address")]

end Sample

theorem varied_draft_latest :
    Timely Sample.varied ∧
      ((System.initial.follow Sample.varied).store.packsOf 1).map (·.status) = [.active, .draft] ∧
      ((System.initial.follow Sample.varied).store.latestPack 1).map (·.status) = some .draft := by
  have timely : Timely Sample.varied := by decide +kernel
  obtain ⟨latest, -, -⟩ := latestPack_current timely 1
  refine ⟨timely, by decide +kernel, ?_⟩
  rw [latest]
  decide +kernel

end Casework
