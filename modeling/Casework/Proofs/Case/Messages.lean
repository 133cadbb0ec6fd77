import Casework.Proofs.Json.Codecs
import Casework.Record.Answer

set_option autoImplicit false

namespace Casework.FieldErrors

inductive Call : Type 1 where
  | add (field message : String)
  | require {α : Type} (field : String) (value : Option α)
  | requireAny {α : Type} (field : String) (values : List α)

def make (errors : FieldErrors) : Call → FieldErrors
  | .add field message => errors.add field message
  | .require field value => errors.require field value
  | .requireAny field values => errors.requireAny field values

def Call.gives : Call → Option (String × String)
  | .add field message => some (field, message)
  | .require field none => some (field, fieldRequired)
  | .require _ (some _) => none
  | .requireAny field [] => some (field, fieldRequired)
  | .requireAny _ (_ :: _) => none

def messagesOf (given : List (String × String)) (field : String) : List String :=
  (given.filter (·.1 == field)).map Prod.snd

section Entries

variable {field message : String} {entries : List (String × List String)}

theorem lt_of_passed {field name : String} (passed : ¬ field < name) (apart : field ≠ name) :
    name < field :=
  String.not_le.1 fun after => apart (String.le_antisymm after (String.not_lt.1 passed))

theorem mem_names_addTo {name : String} :
    name ∈ (addTo field message entries).map Prod.fst ↔
      name = field ∨ name ∈ entries.map Prod.fst := by
  induction entries with
  | nil => simp [addTo]
  | cons entry entries ih =>
    unfold addTo
    split
    · rw [List.map_cons, List.mem_cons]
    · split
      next same => simp [same]
      next => rw [List.map_cons, List.mem_cons, ih, List.map_cons, List.mem_cons, or_left_comm]

theorem increasing_addTo (increasing : (entries.map Prod.fst).Pairwise (· < ·)) :
    ((addTo field message entries).map Prod.fst).Pairwise (· < ·) := by
  induction entries with
  | nil => exact List.pairwise_singleton _ _
  | cons entry entries ih =>
    obtain ⟨later, others⟩ := List.pairwise_cons.1 increasing
    unfold addTo
    split
    next before =>
      refine List.pairwise_cons.2 ⟨fun name member => ?_, increasing⟩
      rcases List.mem_cons.1 member with rfl | member
      · exact before
      · exact String.lt_trans before (later name member)
    next passed =>
      split
      · exact increasing
      next apart =>
        refine List.pairwise_cons.2 ⟨fun name member => ?_, ih others⟩
        rcases mem_names_addTo.1 member with rfl | member
        · exact lt_of_passed passed apart
        · exact later name member

theorem lookup_of_below (below : ∀ name ∈ entries.map Prod.fst, field < name) :
    entries.lookup field = none :=
  List.lookup_eq_none_iff.2 fun _ member =>
    bne_iff_ne.2 (String.ne_of_lt (below _ (List.mem_map_of_mem member)))

theorem lookup_cons_ite (name head : String) (messages : List String) :
    ((head, messages) :: entries).lookup name =
      if name = head then some messages else entries.lookup name := by
  rw [List.lookup_cons]
  by_cases same : name = head
  · rw [if_pos same, beq_iff_eq.2 same]
  · rw [if_neg same, beq_eq_false_iff_ne.2 same]

theorem lookup_addTo (increasing : (entries.map Prod.fst).Pairwise (· < ·)) (name : String) :
    (addTo field message entries).lookup name =
      if name = field then some ((entries.lookup field).getD [] ++ [message])
      else entries.lookup name := by
  induction entries with
  | nil => exact lookup_cons_ite name field [message]
  | cons entry entries ih =>
    obtain ⟨head, messages⟩ := entry
    obtain ⟨later, others⟩ := List.pairwise_cons.1 increasing
    unfold addTo
    split
    next before =>
      have unknown : ((head, messages) :: entries).lookup field = none := by
        refine lookup_of_below fun other member => ?_
        rcases List.mem_cons.1 member with rfl | member
        · exact before
        · exact String.lt_trans before (later other member)
      rw [unknown]
      exact lookup_cons_ite name field [message]
    next =>
      split
      next here =>
        rw [lookup_cons_ite, lookup_cons_ite, lookup_cons_ite, here, if_pos rfl]
        by_cases same : name = head <;> simp [same]
      next apart =>
        rw [lookup_cons_ite, lookup_cons_ite, lookup_cons_ite, ih others, if_neg apart]
        by_cases same : name = head
        · simp [same, Ne.symm apart]
        · simp [same]

end Entries

section Calls

variable {errors : FieldErrors} {given : List (String × String)}

theorem make_eq (errors : FieldErrors) (call : Call) :
    errors.make call =
      match call.gives with
      | some (field, message) => errors.add field message
      | none => errors := by
  cases call with
  | add => rfl
  | require field value => cases value <;> rfl
  | requireAny field values => cases values <;> rfl

structure Groups (errors : FieldErrors) (given : List (String × String)) : Prop where
  increasing : errors.fields.Pairwise (· < ·)
  named : ∀ field, field ∈ errors.fields ↔ ∃ message, (field, message) ∈ given
  messages : ∀ field, errors.messages field = messagesOf given field

theorem Groups.empty : Groups empty [] :=
  ⟨.nil, by simp [fields, FieldErrors.empty], fun _ => rfl⟩

theorem Groups.add (groups : errors.Groups given) (field message : String) :
    (errors.add field message).Groups (given ++ [(field, message)]) where
  increasing := increasing_addTo groups.increasing
  named name := by
    rw [fields, FieldErrors.add, mem_names_addTo, ← fields, groups.named]
    simp only [List.mem_append, List.mem_singleton, Prod.mk.injEq, exists_or]
    rw [or_comm]
    simp
  messages name := by
    have before := groups.messages name
    rw [FieldErrors.messages] at before ⊢
    rw [FieldErrors.add, lookup_addTo groups.increasing, messagesOf, List.filter_append,
      List.map_append, ← messagesOf, ← before]
    by_cases same : name = field
    · simp [same]
    · simp [same, Ne.symm same]

theorem Groups.make (groups : errors.Groups given) (call : Call) :
    (errors.make call).Groups (given ++ call.gives.toList) := by
  rw [make_eq]
  cases call.gives with
  | none => simpa using groups
  | some message => exact groups.add message.1 message.2

theorem Groups.foldl (groups : errors.Groups given) (calls : List Call) :
    (calls.foldl FieldErrors.make errors).Groups (given ++ calls.filterMap Call.gives) := by
  induction calls generalizing errors given with
  | nil => simpa using groups
  | cons call calls ih =>
    have rest := ih (groups.make call)
    rw [List.append_assoc] at rest
    cases gives : call.gives <;> simpa [List.filterMap_cons, gives] using rest

theorem Groups.isEmpty_iff (groups : errors.Groups given) :
    errors.isEmpty = true ↔ given = [] := by
  have reported : errors.isEmpty = true ↔ errors.fields = [] := by
    rw [isEmpty, List.isEmpty_iff, fields, List.map_eq_nil_iff]
  rw [reported, List.eq_nil_iff_forall_not_mem, List.eq_nil_iff_forall_not_mem]
  constructor
  · intro none entry member
    exact none entry.1 ((groups.named entry.1).2 ⟨entry.2, member⟩)
  · intro none field member
    obtain ⟨message, member⟩ := (groups.named field).1 member
    exact none _ member

end Calls

end Casework.FieldErrors
