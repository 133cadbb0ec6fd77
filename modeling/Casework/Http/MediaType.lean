import Casework.Text.Numeral

set_option autoImplicit false

namespace Casework.Http.MediaType

def isTokenLetter (letter : Char) : Bool :=
  letter.isAlphanum || "!#$%&'*+-.^_`|~".toList.contains letter

def isQuotable (letter : Char) : Bool := 32 ≤ letter.toNat && letter.toNat < 127

def afterValue? : List Char → Option (List Char)
  | ['"'] => none
  | '"' :: first :: quoted =>
    if !isQuotable first then none
    else
      match quoted.dropWhile fun letter => isQuotable letter && letter != '"' with
      | '"' :: rest =>
        match rest.dropWhile (· == ' ') with
        | [] => some []
        | ';' :: later => some (';' :: later)
        | _ => none
      | _ => none
  | ';' :: _ => none
  | plain =>
    match plain.dropWhile isTokenLetter with
    | [] => some []
    | ';' :: later => some (';' :: later)
    | _ => none

-- The parameters of a media type are well formed, each being a name, an equals sign and a value.
-- `fuel` is at least the number of parameters.
def areParameters : (fuel : Nat) → List Char → Bool
  | _, [] => true
  | 0, _ => false
  | fuel + 1, ';' :: text =>
    match text.dropWhile (· == ' ') with
    | [] => true
    | named =>
      let name := named.takeWhile isTokenLetter
      match named.drop name.length with
      | '=' :: value =>
        if name.isEmpty then false
        else ((afterValue? value).map (areParameters fuel)).getD false
      | _ => false
  | _, _ => false

def suffixed (subtype : List Char) : List Char × Option (List Char) :=
  let suffix := (subtype.reverse.takeWhile (· ≠ '+')).reverse
  let stem := subtype.take (subtype.length - suffix.length - 1)
  if suffix.length < subtype.length ∧ stem ≠ [] then (stem, some suffix) else (subtype, none)

def isJsonSubtype (subtype : List Char) : Bool :=
  let (stem, suffix) := suffixed subtype
  stem == "json".toList || suffix == some "json".toList

def isJson (text : String) : Bool :=
  let type := (text.toList.takeWhile isTokenLetter).map Char.toLower
  match text.toList.dropWhile isTokenLetter with
  | '/' :: rest =>
    let subtype := (rest.takeWhile isTokenLetter).map Char.toLower
    let parameters := rest.dropWhile isTokenLetter
    type == "application".toList && isJsonSubtype subtype && areParameters text.length parameters
  | _ => false

end Casework.Http.MediaType
