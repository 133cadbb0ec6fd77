import Casework.Store.Basic
import Casework.Case.Error

set_option autoImplicit false

namespace Casework

open Calendar

structure Context where
  now : Instant
  -- What the clock shows when references are drawn: each of them reads it anew.
  clock : Nat → Instant
  -- Licences are delivered to the register, not only recorded.
  sendsLicences : Bool
  -- The number of rows that a search answers unless it asks for another.
  searchLimit : Nat
  -- Why the register refuses a payload, if it does.
  transport : LicencePayload → Option String
  -- The tables can be used.
  available : Bool

def Context.year (context : Context) (reading : Nat) : Int := (context.clock reading).date.year

structure Desk where
  store : Store
  -- The payloads that the register has taken, in order.
  accepted : List LicencePayload

-- A refused unit of work leaves the store as it was, but what has been delivered to the licence
-- register stays delivered.
def Work (α : Type) : Type := Context → Desk → Except CaseError α × Desk

namespace Work

variable {α β ε : Type}

def done (value : α) : Work α := fun _ desk => (.ok value, desk)

def andThen (first : Work α) (next : α → Work β) : Work β := fun context desk =>
  match first context desk with
  | (.ok value, after) => next value context after
  | (.error error, after) => (.error error, after)

instance : Monad Work where
  pure := done
  bind := andThen

def refuse (error : CaseError) : Work α := fun _ desk => (.error error, desk)

def require (condition : Bool) (error : CaseError) : Work Unit :=
  if condition then done () else refuse error

def context : Work Context := fun context desk => (.ok context, desk)

def now : Work Instant := fun context desk => (.ok context.now, desk)

def read (question : Store → α) : Work α := fun _ desk => (.ok (question desk.store), desk)

def write (change : Store → Store) : Work Unit := fun _ desk =>
  (.ok (), { desk with store := change desk.store })

def ofExcept (wrap : ε → CaseError) : Except ε α → Work α
  | .ok value => done value
  | .error error => refuse (wrap error)

def ask (wrap : ε → CaseError) (question : Store → Except ε α) : Work α := fun _ desk =>
  match question desk.store with
  | .ok value => (.ok value, desk)
  | .error error => (.error (wrap error), desk)

def checkFlow (question : Store → Except FlowError α) : Work α := ask .flow question

def enter : Work Unit := fun context desk =>
  (if context.available then .ok () else .error (.repository .unavailable), desk)

def deliver (payload : LicencePayload) : Work (Option String) := fun context desk =>
  match context.transport payload with
  | some reason => (.ok (some reason), desk)
  -- Nothing takes a delivery back, whatever becomes of the unit of work.
  | none => (.ok none, { desk with accepted := desk.accepted ++ [payload] })

theorem bind_def (first : Work α) (next : α → Work β) : first >>= next = first.andThen next := rfl

theorem pure_def (value : α) : (pure value : Work α) = done value := rfl

theorem bind_eq_ok_iff {first : Work α} {next : α → Work β} {context : Context}
    {desk after : Desk} {value : β} :
    (first >>= next) context desk = (.ok value, after) ↔
      ∃ middle between, first context desk = (.ok middle, between) ∧
        next middle context between = (.ok value, after) := by
  rw [bind_def, andThen]
  rcases first context desk with ⟨error | middle, between⟩
  · simp
  · constructor
    · exact fun ran => ⟨middle, between, rfl, ran⟩
    · rintro ⟨_, _, same, ran⟩
      cases same
      exact ran

instance : LawfulMonad Work :=
  LawfulMonad.mk' Work
    (fun work => by
      funext context desk
      simp only [Functor.map, andThen]
      rcases work context desk with ⟨error | value, after⟩ <;> rfl)
    (fun value next => rfl)
    (fun first second third => by
      funext context desk
      simp only [bind_def, andThen]
      rcases first context desk with ⟨error | value, after⟩ <;> rfl)

end Work

end Casework
