set_option autoImplicit false

namespace Casework

-- JSON values as a reader meets them. A text that stops being JSON still has a value up to that
-- point, where `broken` stands, so that whoever reads the value can tell which fault comes first.
-- Some texts are JSON and still no value that can be held: a reader who only skips them passes, and
-- one who wants them does not.
inductive Json where
  | null
  | flag (value : Bool)
  | integer (value : Int)
  -- A number with a fraction or an exponent, or too large for an integer.
  | real
  | text (value : String)
  | list (items : List Json)
  | object (members : List (String × Json))
  -- A value that can be skipped and not be held: a number out of all range, a text with an escape
  -- that stands for no character, or a list or object too deep inside others.
  | unfit (value : Json)
  -- The value of a member whose name cannot be held.
  | misnamed (value : Json)
  -- The place where the text stops being JSON.
  | broken
deriving Inhabited

namespace Json

mutual

def isWhole : Json → Bool
  | .broken => false
  | .list items => areWhole items
  | .object members => haveWhole members
  | .unfit value => value.isWhole
  | .misnamed value => value.isWhole
  | _ => true

def areWhole : List Json → Bool
  | [] => true
  | item :: items => item.isWhole && areWhole items

def haveWhole : List (String × Json) → Bool
  | [] => true
  | (_, value) :: members => value.isWhole && haveWhole members

end

-- The value of a member can be passed over. The name of a member is always wanted.
def canBePassed : Json → Bool
  | .misnamed _ => false
  | value => value.isWhole

mutual

def isFit : Json → Bool
  | .broken => false
  | .unfit _ => false
  | .misnamed _ => false
  | .list items => areFit items
  | .object members => haveFit members
  | _ => true

def areFit : List Json → Bool
  | [] => true
  | item :: items => item.isFit && areFit items

def haveFit : List (String × Json) → Bool
  | [] => true
  | (_, value) :: members => value.isFit && haveFit members

end

def member? (name : String) : Json → Option Json
  | .object members => members.lookup name
  | _ => none

end Json

inductive Fault where
  -- The text is not JSON.
  | malformed
  -- The JSON has another shape.
  | mismatch
deriving DecidableEq, Repr

def Json.misfit : Json → Fault
  | .broken => .malformed
  | .unfit _ => .malformed
  | .misnamed _ => .malformed
  | _ => .mismatch

end Casework
