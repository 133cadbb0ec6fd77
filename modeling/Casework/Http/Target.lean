import Casework.Text.Numeral

set_option autoImplicit false

namespace Casework.Http.Target

open Casework.Text

def path (target : String) : List Char :=
  target.toList.takeWhile fun letter => letter != '?' && letter != '#'

def segments? (target : String) : Option (List String) :=
  match (path target).splitOn '/' with
  | [] :: first :: rest => some ((first :: rest).map String.ofList)
  | _ => none

def unescapedBytes : List Char → List UInt8
  | [] => []
  -- A percent sign without two digits stands for itself.
  | '%' :: high :: low :: rest =>
    match hexNumber? [high, low] with
    | some code => UInt8.ofNat code :: unescapedBytes rest
    | none => String.utf8EncodeChar '%' ++ unescapedBytes (high :: low :: rest)
  | letter :: rest => String.utf8EncodeChar letter ++ unescapedBytes rest

def unescaped? (segment : String) : Option String :=
  String.fromUTF8? ⟨(unescapedBytes segment.toList).toArray⟩

end Casework.Http.Target
