import Casework.Proofs.Tasks.Turns

set_option autoImplicit false

namespace Casework

open Calendar

def TaskTable.tally (tasks : TaskTable) (processId : Nat) (taskType : TaskType) : Nat :=
  (tasks.ofProcess processId).countP (·.taskType == taskType)

/-- The step opens a task for a case that has an active one of the type. -/
structure System.Doubles (system : System) (step : Step) (id : Nat) (taskType : TaskType) :
    Prop where
  blind : step.operation.mayReopen taskType = true
  held : system.store.tasks.hasActive id taskType = true
  opens : (system.after step).store.tasks.tally id taskType =
    system.store.tasks.tally id taskType + 1

namespace Store

variable {store : Store} {id : Nat}

theorem tally_eq {file : CaseFile} (found : store.fileOf id = some file) (taskType : TaskType) :
    store.tasks.tally id taskType = file.tally taskType := by
  rw [TaskTable.tally, CaseFile.tally, (fileOf_eq_some_iff.1 found).2.1]

theorem activeOf_length {file : CaseFile} (found : store.fileOf id = some file)
    (taskType : TaskType) : (store.tasks.activeOf id taskType).length = file.load taskType := by
  rw [activeOf_eq found, CaseFile.load_eq_length]

end Store

namespace System

variable {system : System} {step : Step} {id : Nat} {taskType : TaskType}

theorem Doubles.moves (sound : system.store.Sound) (doubles : system.Doubles step id taskType) :
    ∃ before after, system.Moves step id before after := by
  have grows := doubles.opens
  rcases file_after sound step id with
    same | ⟨_, _, _, _, -, -, missing, -⟩ | ⟨_, -, -, removed⟩ | moves
  · cases found : system.store.fileOf id with
    | none =>
      have unheld := doubles.held
      simp [TaskTable.hasActive, TaskTable.active, sound.ofProcess_unstored found] at unheld
    | some file =>
      rw [Store.tally_eq found, Store.tally_eq (same.trans found)] at grows
      omega
  · have unheld := doubles.held
    simp [TaskTable.hasActive, TaskTable.active, sound.ofProcess_unstored missing] at unheld
  · simp [TaskTable.tally, (sound_after sound step).ofProcess_unstored removed] at grows
  · exact moves

theorem Doubles.load (fits : ∀ file, system.store.fileOf id = some file → file.TasksFit)
    (sound : system.store.Sound) (doubles : system.Doubles step id taskType) :
    2 ≤ ((system.after step).store.tasks.activeOf id taskType).length := by
  obtain ⟨before, after, moves⟩ := doubles.moves sound
  have held := (Store.hasActive_iff moves.found).1 doubles.held
  have grows := doubles.opens
  rw [Store.tally_eq moves.found, Store.tally_eq moves.becomes] at grows
  rw [Store.activeOf_length moves.becomes]
  cases CaseFile.Turn.of_move (fits before moves.found) moves.ordered
    moves.move with
  | cleared _ tally =>
    rw [tally] at grows
    omega
  | turned ended opened _ loads tally _ blind =>
    rw [tally] at grows
    rw [loads, if_neg (blind taskType doubles.blind)]
    omega

end System

theorem CaseFile.load_le_one (steps : List Step) {id : Nat} {taskType : TaskType} {file : CaseFile}
    (single : ¬ Earlier steps fun system step => system.Doubles step id taskType)
    (found : (System.initial.follow steps).store.fileOf id = some file) :
    file.load taskType ≤ 1 := by
  refine file_invariant (fun steps other file => other = id →
    (¬ Earlier steps fun system step => system.Doubles step id taskType) →
      file.load taskType ≤ 1) ?_ ?_ ?_ steps found rfl single
  · rintro steps step _ draft task pack rfl -
    rw [load_started]
    split <;> simp
  · exact fun steps step _ _ bound same single =>
      bound same fun earlier => single (earlier.more [step])
  · rintro steps step _ before after moves bound rfl single
    have bounded := bound rfl fun earlier => single (earlier.more [step])
    cases CaseFile.Turn.of_move (tasks_fit steps moves.found) moves.ordered
      moves.move with
    | cleared loads =>
      rw [loads]
      exact Nat.zero_le 1
    | turned ended opened _ loads tally looked =>
      rw [loads]
      by_cases opens : opened = some taskType
      · rw [if_pos opens]
        -- A task that replaces one of its type, or is opened where there is none, stays alone.
        by_cases replaced : ended = some taskType
        · exact Nat.le_of_eq (congrArg (· + 1) (if_pos replaced))
        · rw [if_neg replaced]
          by_cases free : before.load taskType = 0
          · omega
          · refine absurd (earlier_last ⟨?_, ?_, ?_⟩) single
            · cases may : step.operation.mayReopen taskType with
              | true => rfl
              | false =>
                rcases looked taskType opens may with ends | none_open
                · exact absurd ends replaced
                · exact absurd none_open free
            · exact (Store.hasActive_iff moves.found).2 free
            · rw [Store.tally_eq moves.found, Store.tally_eq moves.becomes, tally, if_pos opens]
      · rw [if_neg opens]
        split
        · exact Nat.zero_le 1
        · exact bounded

/-- In all runs a case has at most one active task of each type as long as no step doubles one, and
no longer than that. -/
theorem single_tasks_iff (steps : List Step) (id : Nat) (taskType : TaskType) :
    (∀ before, before <+: steps →
      ((System.initial.follow before).store.tasks.activeOf id taskType).length ≤ 1) ↔
    ¬ Earlier steps fun system step => system.Doubles step id taskType := by
  constructor
  · rintro single ⟨before, step, rest, rfl, doubles⟩
    have several := doubles.load (fun file found => CaseFile.tasks_fit before found)
      (System.sound_follow before)
    rw [← System.follow_append] at several
    have bound := single (before ++ [step]) ⟨rest, by simp⟩
    omega
  · rintro single before ⟨rest, rfl⟩
    cases found : (System.initial.follow before).store.fileOf id with
    | none =>
      simp [TaskTable.activeOf, TaskTable.active,
        (System.sound_follow before).ofProcess_unstored found]
    | some file =>
      rw [Store.activeOf_length found]
      exact CaseFile.load_le_one before (fun earlier => single (earlier.more rest)) found

/-- Not every case has at most one active task of each type: a refused withdrawal gives back the
task to decide the case, which is then authorised twice. -/
theorem authorised_twice :
    ¬ ∀ system, Reachable system → ∀ id taskType,
      (system.store.tasks.activeOf id taskType).length ≤ 1 := by
  intro single
  let operations := Sample.certificate ++ Sample.refusedWithdrawal .exporting ++
    [Operation.startAuthorisation .exporting 1 Sample.user]
  have bound := single _ (reachable_iff.2 ⟨operations.map (Sample.step false), rfl⟩) 1 .authorise
  revert bound
  decide +kernel

end Casework
