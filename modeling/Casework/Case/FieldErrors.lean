set_option autoImplicit false

namespace Casework

structure FieldErrors where
  entries : List (String × List String)
deriving DecidableEq, Repr

namespace FieldErrors

def empty : FieldErrors := ⟨[]⟩

def fieldRequired : String := "You must enter this item"

def addTo (field message : String) : List (String × List String) → List (String × List String)
  | [] => [(field, [message])]
  | (name, messages) :: entries =>
    if field < name then (field, [message]) :: (name, messages) :: entries
    else if field = name then (name, messages ++ [message]) :: entries
    else (name, messages) :: addTo field message entries

def add (errors : FieldErrors) (field message : String) : FieldErrors :=
  ⟨addTo field message errors.entries⟩

def addIf (errors : FieldErrors) (wrong : Bool) (field message : String) : FieldErrors :=
  if wrong then errors.add field message else errors

def require {α : Type} (errors : FieldErrors) (field : String) (value : Option α) : FieldErrors :=
  errors.addIf value.isNone field fieldRequired

def requireAny {α : Type} (errors : FieldErrors) (field : String) (values : List α) : FieldErrors :=
  errors.addIf values.isEmpty field fieldRequired

def isEmpty (errors : FieldErrors) : Bool := errors.entries.isEmpty

def size (errors : FieldErrors) : Nat := errors.entries.length

def fields (errors : FieldErrors) : List String := errors.entries.map Prod.fst

def contains (errors : FieldErrors) (field : String) : Bool := errors.fields.contains field

def messages (errors : FieldErrors) (field : String) : List String :=
  (errors.entries.lookup field).getD []

end FieldErrors

end Casework
