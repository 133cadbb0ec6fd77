import Casework.Json.Basic
import Casework.Text.Numeral

set_option autoImplicit false

namespace Casework.Json

open Casework.Text

def hexDigits (value : Nat) : List Char := (Nat.toDigits 16 value).leftpad 4 '0'

def shortEscapes : List (Char × Char) :=
  [('"', '"'), ('\\', '\\'), ('\x08', 'b'), ('\x0c', 'f'), ('\n', 'n'), ('\r', 'r'), ('\t', 't')]

def writtenLetter (letter : Char) : List Char :=
  match shortEscapes.lookup letter with
  | some mark => ['\\', mark]
  | none => if letter.toNat < 0x20 then '\\' :: 'u' :: hexDigits letter.toNat else [letter]

def writtenText (text : String) : List Char :=
  '"' :: text.toList.flatMap writtenLetter ++ ['"']

def writtenInteger (value : Int) : List Char :=
  if value < 0 then '-' :: decimal value.natAbs else decimal value.natAbs

mutual

def written : Json → List Char
  | .null => "null".toList
  | .flag true => "true".toList
  | .flag false => "false".toList
  | .integer value => writtenInteger value
  | .real => "0.5".toList
  | .text value => writtenText value
  | .list items => '[' :: writtenItems items
  | .object members => '\x7b' :: writtenMembers members
  | .unfit value => value.written
  | .misnamed value => value.written
  | .broken => []

def writtenItems : List Json → List Char
  | [] => [']']
  | [item] => item.written ++ [']']
  | item :: items => item.written ++ ',' :: writtenItems items

def writtenMembers : List (String × Json) → List Char
  | [] => ['\x7d']
  | [(name, value)] => writtenText name ++ ':' :: value.written ++ ['\x7d']
  | (name, value) :: members =>
    writtenText name ++ ':' :: value.written ++ ',' :: writtenMembers members

end

end Casework.Json
