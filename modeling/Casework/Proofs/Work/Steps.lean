import Casework.Operation.Basic

set_option autoImplicit false

namespace Casework

open Calendar

namespace Work

variable {α β ε : Type} {context : Context} {desk after : Desk} {error : CaseError}

attribute [simp] bind_eq_ok_iff

@[simp] theorem bind_eq_error_iff {first : Work α} {next : α → Work β} :
    (first >>= next) context desk = (.error error, after) ↔
      first context desk = (.error error, after) ∨
        ∃ middle between, first context desk = (.ok middle, between) ∧
          next middle context between = (.error error, after) := by
  rw [bind_def, andThen]
  rcases first context desk with ⟨failure | middle, between⟩
  · simp
  · constructor
    · exact fun ran => .inr ⟨middle, between, rfl, ran⟩
    · rintro (failed | ⟨_, _, same, ran⟩)
      · cases failed
      · cases same
        exact ran

@[simp] theorem map_eq_ok_iff {work : Work α} {change : α → β} {value : β} :
    (change <$> work) context desk = (.ok value, after) ↔
      ∃ middle, work context desk = (.ok middle, after) ∧ change middle = value := by
  rw [← bind_pure_comp, bind_eq_ok_iff]
  simp only [pure_def, done, Prod.mk.injEq, Except.ok.injEq]
  constructor
  · rintro ⟨middle, between, ran, rfl, rfl⟩
    exact ⟨middle, ran, rfl⟩
  · rintro ⟨middle, ran, rfl⟩
    exact ⟨middle, after, ran, rfl, rfl⟩

@[simp] theorem map_eq_error_iff {work : Work α} {change : α → β} :
    (change <$> work) context desk = (.error error, after) ↔
      work context desk = (.error error, after) := by
  rw [← bind_pure_comp, bind_eq_error_iff]
  simp [pure_def, done]

@[simp] theorem pure_run (value : α) : (pure value : Work α) context desk = (.ok value, desk) := rfl

@[simp] theorem done_run (value : α) : done value context desk = (.ok value, desk) := rfl

@[simp] theorem refuse_run : (refuse error : Work α) context desk = (.error error, desk) := rfl

@[simp] theorem now_run : now context desk = (.ok context.now, desk) := rfl

@[simp] theorem context_run : Work.context context desk = (.ok context, desk) := rfl

@[simp] theorem read_run (question : Store → α) :
    read question context desk = (.ok (question desk.store), desk) := rfl

@[simp] theorem write_run (change : Store → Store) :
    write change context desk = (.ok (), { desk with store := change desk.store }) := rfl

@[simp] theorem require_eq_ok_iff {condition : Bool} {failure : CaseError} {answer : Unit} :
    require condition failure context desk = (.ok answer, after) ↔
      condition = true ∧ desk = after := by
  cases condition <;> simp [require]

@[simp] theorem require_eq_error_iff {condition : Bool} {failure : CaseError} :
    require condition failure context desk = (.error error, after) ↔
      condition = false ∧ failure = error ∧ desk = after := by
  cases condition <;> simp [require]

@[simp] theorem ofExcept_eq_ok_iff {wrap : ε → CaseError} {answer : Except ε α} {value : α} :
    ofExcept wrap answer context desk = (.ok value, after) ↔ answer = .ok value ∧ desk = after := by
  cases answer <;> simp [ofExcept]

@[simp] theorem ask_eq_ok_iff {wrap : ε → CaseError} {question : Store → Except ε α} {value : α} :
    ask wrap question context desk = (.ok value, after) ↔
      question desk.store = .ok value ∧ desk = after := by
  cases answered : question desk.store <;> simp [ask, answered]

@[simp] theorem ask_eq_error_iff {wrap : ε → CaseError} {question : Store → Except ε α} :
    ask wrap question context desk = (.error error, after) ↔
      ∃ failure, question desk.store = .error failure ∧ wrap failure = error ∧ desk = after := by
  cases answered : question desk.store <;> simp [ask, answered]

@[simp] theorem checkFlow_eq_ok_iff {question : Store → Except FlowError α} {value : α} :
    checkFlow question context desk = (.ok value, after) ↔
      question desk.store = .ok value ∧ desk = after := ask_eq_ok_iff

@[simp] theorem enter_eq_ok_iff {answer : Unit} :
    enter context desk = (.ok answer, after) ↔ context.available = true ∧ desk = after := by
  cases free : context.available <;> simp [enter, free]

@[simp] theorem findApplication_eq_ok_iff {id : Nat} {application : Application} :
    findApplication id context desk = (.ok application, after) ↔
      desk.store.applications.find? id = some application ∧ desk = after := by
  rw [findApplication, ask_eq_ok_iff, Store.application]
  cases desk.store.applications.find? id <;> simp

@[simp] theorem findApplication_eq_error_iff {id : Nat} :
    findApplication id context desk = (.error error, after) ↔
      desk.store.applications.find? id = none ∧ .repository (.notFound id) = error ∧
        desk = after := by
  rw [findApplication, ask_eq_error_iff]
  cases found : desk.store.applications.find? id <;> simp [Store.application, found]

@[simp] theorem load_eq_ok_iff {caseType : CaseType} {id : Nat} {application : Application} :
    load caseType id context desk = (.ok application, after) ↔
      context.available = true ∧ desk.store.applications.find? id = some application ∧
        application.caseType = caseType ∧ desk = after := by
  simp only [load, bind_eq_ok_iff, enter_eq_ok_iff, findApplication_eq_ok_iff,
    require_eq_ok_iff, beq_iff_eq, pure_run, Prod.mk.injEq, Except.ok.injEq]
  constructor
  · rintro ⟨_, _, ⟨free, rfl⟩, _, _, ⟨found, rfl⟩, _, _, ⟨same, rfl⟩, rfl, rfl⟩
    exact ⟨free, found, same, rfl⟩
  · rintro ⟨free, found, same, rfl⟩
    exact ⟨(), desk, ⟨free, rfl⟩, application, desk, ⟨found, rfl⟩, (), desk, ⟨same, rfl⟩, rfl, rfl⟩

@[simp] theorem currentTask_eq_ok_iff {id : Nat} {expected : List CaseStatus}
    {taskType : TaskType} {task : Task} :
    currentTask id expected taskType context desk = (.ok task, after) ↔
      (∃ application, desk.store.applications.find? id = some application ∧
        application.standing.currentTask desk.store.tasks expected taskType = .ok task) ∧
      desk = after := by
  simp only [currentTask, bind_eq_ok_iff, findApplication_eq_ok_iff, checkFlow_eq_ok_iff]
  constructor
  · rintro ⟨application, _, ⟨found, rfl⟩, checked, rfl⟩
    exact ⟨⟨application, found, checked⟩, rfl⟩
  · rintro ⟨⟨application, found, checked⟩, rfl⟩
    exact ⟨application, desk, ⟨found, rfl⟩, checked, rfl⟩

@[simp] theorem save_eq_ok_iff {application : Application} {answer : Unit} :
    save application context desk = (.ok answer, after) ↔
      desk.store.applications.contains application.id = true ∧
        after = { desk with
          store := { desk.store with
            applications := desk.store.applications.insert application } } := by
  simp only [save, bind_eq_ok_iff, findApplication_eq_ok_iff, write_run, Prod.mk.injEq,
    Table.contains, Option.isSome_iff_exists]
  constructor
  · rintro ⟨found, _, ⟨stored, rfl⟩, -, rfl⟩
    exact ⟨⟨found, stored⟩, rfl⟩
  · rintro ⟨⟨found, stored⟩, rfl⟩
    exact ⟨found, desk, ⟨stored, rfl⟩, trivial, rfl⟩

@[simp] theorem saved_eq_ok_iff {application answer : Application} :
    saved application context desk = (.ok answer, after) ↔
      answer = application ∧ save application context desk = (.ok (), after) := by
  simp only [saved, bind_eq_ok_iff, pure_run, Prod.mk.injEq, Except.ok.injEq]
  constructor
  · rintro ⟨_, _, ran, rfl, rfl⟩
    exact ⟨rfl, ran⟩
  · rintro ⟨rfl, ran⟩
    exact ⟨(), after, ran, rfl, rfl⟩

@[simp] theorem createTask_run (processId : Nat) (taskType : TaskType) (previous : Option Nat) :
    createTask processId taskType previous context desk =
      (.ok (), { desk with
        store := { desk.store with
          tasks := desk.store.tasks.create processId taskType previous context.now } }) := rfl

@[simp] theorem finishTask_run (id : Nat) (owner : Option Nat) :
    finishTask id owner context desk =
      (.ok (), { desk with
        store := { desk.store with
          tasks := desk.store.tasks.finish id owner context.now } }) := rfl

@[simp] theorem finishAllTasks_run (processId : Nat) :
    finishAllTasks processId context desk =
      (.ok (), { desk with
        store := { desk.store with
          tasks := desk.store.tasks.finishAll processId context.now } }) := rfl

@[simp] theorem changePack_run (id : Nat) (change : Pack → Pack) :
    changePack id change context desk =
      (.ok (), { desk with
        store := { desk.store with packs := desk.store.packs.modify id change } }) := rfl

@[simp] theorem findDraft_eq_ok_iff {id : Nat} {pack : Pack} :
    findDraft id context desk = (.ok pack, after) ↔
      desk.store.singlePack id .draft = .ok pack ∧ desk = after := ask_eq_ok_iff

@[simp] theorem findActive_eq_ok_iff {id : Nat} {pack : Pack} :
    findActive id context desk = (.ok pack, after) ↔
      desk.store.singlePack id .active = .ok pack ∧ desk = after := ask_eq_ok_iff

def handIn (application : Application) (id : Nat) (user : User) (task : Task) (reference : String) :
    Work Application := do
  let now ← now
  finishTask task.id (some user.id)
  let processing ← read fun store => store.tasks.hasActive id .process
  unless processing do
    createTask id .process (some task.id)
  saved (application.afterSubmission user reference now)

end Work

end Casework
