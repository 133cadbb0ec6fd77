import Casework.Json.Basic

set_option autoImplicit false

namespace Casework

-- Pairs of a writer and a reader of JSON values, built from those of the parts. A reader reports
-- the fault that comes first in the order of the text.
structure Codec (α : Type) where
  encode : α → Json
  decode : Json → Except Fault α

namespace Codec

def text : Codec String where
  encode := .text
  decode
    | .text value => .ok value
    | other => .error other.misfit

def flag : Codec Bool where
  encode := .flag
  decode
    | .flag value => .ok value
    | other => .error other.misfit

def integer (least largest : Int) : Codec Int where
  encode := .integer
  decode
    | .integer value =>
      if least ≤ value ∧ value ≤ largest then .ok value else .error .mismatch
    | other => .error other.misfit

def natural (largest : Nat) : Codec Nat where
  encode value := .integer value
  decode json := ((integer 0 largest).decode json).map Int.toNat

def textual {α : Type} (write : α → String) (read : String → Option α) : Codec α where
  encode value := .text (write value)
  decode
    | .text written =>
      match read written with
      | some value => .ok value
      | none => .error .mismatch
    | other => .error other.misfit

def option {α : Type} (codec : Codec α) : Codec (Option α) where
  encode
    | some value => codec.encode value
    | none => .null
  decode
    | .null => .ok none
    | other => (codec.decode other).map some

def decodeItems {α : Type} (codec : Codec α) : List Json → Except Fault (List α)
  | [] => .ok []
  | item :: items =>
    match codec.decode item with
    | .error fault => .error fault
    | .ok value => (decodeItems codec items).map (value :: ·)

def list {α : Type} (codec : Codec α) : Codec (List α) where
  encode values := .list (values.map codec.encode)
  decode
    | .list items => decodeItems codec items
    | other => .error other.misfit

-- One of finitely many named values, which may also stand as a name for a null value.
def choice {α : Type} (values : List α) (name : α → String) : Codec α where
  encode value := .text (name value)
  decode
    | .text written => named written
    | .object ((_, .misnamed _) :: _) => .error .malformed
    | .object ((written, content) :: members) =>
      -- The name is looked up before its content is read.
      (named written).bind fun value =>
        match content, members with
        | .null, [] => .ok value
        | .null, _ :: _ => .error .malformed
        | other, _ => .error other.misfit
    | _ => .error .malformed
where
  named (written : String) : Except Fault α :=
    match values.find? (name · == written) with
    | some value => .ok value
    | none => .error .mismatch

end Codec

inductive Presence (α : Type) where
  | required
  -- `missing` stands for an absent member of an object, but not for an absent item of a list.
  | optional (missing : α)
  -- `missing` stands for an absent member of an object or item of a list.
  | defaulted (missing : α)

def Presence.inObject {α : Type} : Presence α → Except Fault α
  | .required => .error .mismatch
  | .optional missing => .ok missing
  | .defaulted missing => .ok missing

def Presence.inList {α : Type} : Presence α → Except Fault α
  | .defaulted missing => .ok missing
  | _ => .error .mismatch

structure Fields (σ α : Type) where
  write : σ → List (String × Json)
  checks : List (String × (Json → Except Fault Unit))
  ofMembers : List (String × Json) → Except Fault α
  ofItems : List Json → Except Fault (α × List Json)

namespace Fields

variable {σ α β : Type}

def of (value : α) : Fields σ α where
  write _ := []
  checks := []
  ofMembers _ := .ok value
  ofItems items := .ok (value, items)

def field (before : Fields σ (β → α)) (presence : Presence β) (name : String) (codec : Codec β)
    (get : σ → β) : Fields σ α where
  write value := before.write value ++ [(name, codec.encode (get value))]
  checks := before.checks ++ [(name, fun json => (codec.decode json).map fun _ => ())]
  ofMembers members := do
    let build ← before.ofMembers members
    match members.lookup name with
    | some json => (codec.decode json).map build
    | none => presence.inObject.map build
  ofItems items := do
    let (build, rest) ← before.ofItems items
    match rest with
    | json :: later => (codec.decode json).map fun value => (build value, later)
    | [] => presence.inList.map fun value => (build value, [])

def required (before : Fields σ (β → α)) (name : String) (codec : Codec β) (get : σ → β) :
    Fields σ α :=
  before.field .required name codec get

def optional (before : Fields σ (Option β → α)) (name : String) (codec : Codec β)
    (get : σ → Option β) : Fields σ α :=
  before.field (.optional none) name codec.option get

def defaulted (before : Fields σ (β → α)) (missing : β) (name : String) (codec : Codec β)
    (get : σ → β) : Fields σ α :=
  before.field (.defaulted missing) name codec get

def check (checks : List (String × (Json → Except Fault Unit))) :
    List String → List (String × Json) → Except Fault Unit
  | _, [] => .ok ()
  | seen, (name, json) :: members =>
    match checks.lookup name with
    | none => if json.canBePassed then check checks seen members else .error .malformed
    | some decode =>
      -- A known name may stand once, any other as often as it likes.
      if name ∈ seen then .error .mismatch
      else
        match decode json with
        | .error fault => .error fault
        | .ok () => check checks (name :: seen) members

def decodeMembers (fields : Fields σ α) (members : List (String × Json)) : Except Fault α := do
  check fields.checks [] members
  fields.ofMembers members

def decodeItems (fields : Fields σ α) (items : List Json) : Except Fault α := do
  let (value, rest) ← fields.ofItems items
  -- Where the list should have ended, another item is a fault of the text.
  if rest.isEmpty then .ok value else .error .malformed

end Fields

def Codec.record {α : Type} (fields : Fields α α) : Codec α where
  encode value := .object (fields.write value)
  decode
    | .object members => fields.decodeMembers members
    | .list items => fields.decodeItems items
    | other => .error other.misfit

structure Variant (α : Type) where
  name : String
  write? : α → Option (List (String × Json))
  decodeMembers : List (String × Json) → Except Fault α
  decodeItems : List Json → Except Fault α

def Variant.of {α β : Type} (name : String) (fields : Fields β β) (embed : β → α)
    (project? : α → Option β) : Variant α where
  name := name
  write? value := (project? value).map fields.write
  decodeMembers members := (fields.decodeMembers members).map embed
  decodeItems items := (fields.decodeItems items).map embed

namespace Codec

variable {α : Type}

def encodeVariant (tag : String) : List (Variant α) → α → Json
  | [], _ => .null
  | variant :: variants, value =>
    match variant.write? value with
    | some members => .object ((tag, .text variant.name) :: members)
    | none => encodeVariant tag variants value

def variantNamed (variants : List (Variant α)) : Json → Except Fault (Variant α)
  | .text name =>
    match variants.find? (·.name == name) with
    | some variant => .ok variant
    | none => .error .mismatch
  | other => .error other.misfit

-- The variant that the tag names, all other members being fit to be held until it is known.
def findVariant (tag : String) (variants : List (Variant α)) :
    Option (Variant α) → List (String × Json) → Except Fault (Option (Variant α))
  | found, [] => .ok found
  | found, (name, json) :: members =>
    if name = tag then
      match found with
      | some _ => .error .mismatch
      | none =>
        match variantNamed variants json with
        | .error fault => .error fault
        | .ok variant => findVariant tag variants (some variant) members
    else if json.isFit then findVariant tag variants found members
    else .error .malformed

-- In a value that is held before it is read, a name may stand for an empty object as it may for
-- null.
def settled : Json → Json
  | .object [(name, .object [])] => .object [(name, .null)]
  | other => other

def reshape (result : Except Fault α) : Except Fault α :=
  result.mapError fun _ => .mismatch

def tagged (tag : String) (variants : List (Variant α)) : Codec α where
  encode := encodeVariant tag variants
  decode
    | .object members =>
      match findVariant tag variants none members with
      | .error fault => .error fault
      | .ok none => .error .mismatch
      | .ok (some variant) =>
        let others := members.filter (·.1 ≠ tag)
        reshape (variant.decodeMembers (others.map fun (name, json) => (name, settled json)))
    | .list (kind :: items) =>
      match variantNamed variants kind with
      | .error fault => .error fault
      | .ok variant =>
        if Json.areFit items then reshape (variant.decodeItems (items.map settled))
        else .error .malformed
    | other => .error other.misfit

end Codec

end Casework
