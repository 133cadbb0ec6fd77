import Casework.Proofs.CaseFile.Run

set_option autoImplicit false

namespace Casework

namespace Work

variable {context : Context} {desk after : Desk}

theorem draw_run (series : String) (year : Option Int) :
    draw series year context desk =
      (.ok (desk.store.sequences series year + 1), { desk with
        store := { desk.store with sequences := desk.store.sequences.advance series year } }) :=
  Prod.ext (congrArg Except.ok (Sequences.advance_self _ series year)) rfl

theorem drawYearly_run (reading : Nat) (series : String) :
    drawYearly reading series context desk =
      (.ok (Reference.yearly series (context.year reading)
        (desk.store.sequences series (some (context.year reading)) + 1)), { desk with
        store := { desk.store with
          sequences := desk.store.sequences.advance series (some (context.year reading)) } }) := by
  rw [drawYearly, bind_def, andThen, context_run]
  dsimp only
  rw [bind_def, andThen, draw_run]
  rfl

theorem saved_stores {application answer : Application} {id : Nat}
    (ran : saved application context desk = (.ok answer, after)) (named : application.id = id) :
    answer = application ∧ after.store.applications.find? id = some answer ∧
      after.store.documents = desk.store.documents ∧
      after.store.sequences = desk.store.sequences := by
  obtain ⟨rfl, kept⟩ := saved_eq_ok_iff.1 ran
  obtain ⟨-, rfl⟩ := save_eq_ok_iff.1 kept
  refine ⟨rfl, ?_, rfl, rfl⟩
  rw [Table.find?_insert]
  exact if_pos named

end Work

def Bearing := Nat → String → Option Int → Nat → Prop

-- Every number that is borne has been drawn, and it has a single owner.
structure Numbering (sequences : Sequences) (bears : Bearing) : Prop where
  drawn : ∀ owner series year number, bears owner series year number →
    number ≤ sequences series year
  apart : ∀ owner other series year number, bears owner series year number →
    bears other series year number → owner = other

structure Renumbers (sequences later : Sequences) (bears next : Bearing) : Prop where
  fresh : ∀ owner series year number, next owner series year number →
    ¬ bears owner series year number →
      sequences series year < number ∧ number ≤ later series year
  alone : ∀ owner other series year number, next owner series year number →
    ¬ bears owner series year number → next other series year number →
      ¬ bears other series year number → owner = other

theorem Renumbers.of_draw {sequences later : Sequences} {bears next : Bearing} {draws : Nat → Prop}
    (single : ∀ owner other, draws owner → draws other → owner = other)
    (drawn : ∀ owner series year number, next owner series year number →
      ¬ bears owner series year number →
        draws owner ∧ number = sequences series year + 1 ∧ later series year = number) :
    Renumbers sequences later bears next where
  fresh owner series year number mine new := by
    obtain ⟨-, counted, last⟩ := drawn owner series year number mine new
    omega
  alone owner other series year number mine new also another :=
    single owner other (drawn owner series year number mine new).1
      (drawn other series year number also another).1

theorem Numbering.renumber {sequences later : Sequences} {bears next : Bearing}
    (numbering : Numbering sequences bears) (changes : Renumbers sequences later bears next)
    (grown : ∀ series year, sequences series year ≤ later series year) :
    Numbering later next where
  drawn owner series year number mine := by
    by_cases old : bears owner series year number
    · exact Nat.le_trans (numbering.drawn owner series year number old) (grown series year)
    · exact (changes.fresh owner series year number mine old).2
  apart owner other series year number mine also := by
    by_cases old : bears owner series year number
    · have bound := numbering.drawn owner series year number old
      by_cases before : bears other series year number
      · exact numbering.apart owner other series year number old before
      · have above := (changes.fresh other series year number also before).1
        omega
    · by_cases before : bears other series year number
      · have bound := numbering.drawn other series year number before
        have above := (changes.fresh owner series year number mine old).1
        omega
      · exact changes.alone owner other series year number mine old also before

-- What bears no number in the empty store and only new ones after any step is numbered well in all
-- runs.
theorem numbering_follow (bears : Store → Bearing)
    (unused : ∀ owner series year number, ¬ bears .empty owner series year number)
    (renumbers : ∀ steps step, Renumbers (System.initial.follow steps).store.sequences
      ((System.initial.follow steps).after step).store.sequences
      (bears (System.initial.follow steps).store)
      (bears ((System.initial.follow steps).after step).store))
    (steps : List Step) :
    Numbering (System.initial.follow steps).store.sequences
      (bears (System.initial.follow steps).store) := by
  induction steps using List.reverseRecOn with
  | nil =>
    exact ⟨fun owner series year number mine => absurd mine (unused owner series year number),
      fun owner _ series year number mine => absurd mine (unused owner series year number)⟩
  | append_singleton steps step ih =>
    rw [System.follow_append]
    exact ih.renumber (renumbers steps step) (System.sequences_le_after step)

end Casework
