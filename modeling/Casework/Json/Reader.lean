import Casework.Json.Number
import Casework.Text.Numeral

set_option autoImplicit false

namespace Casework.Json

open Casework.Text

def isSpace (letter : Char) : Bool :=
  letter == ' ' || letter == '\t' || letter == '\n' || letter == '\r'

def skipSpaces (input : List Char) : List Char := input.dropWhile isSpace

def escapedLetter? (letter : Char) : Option Char :=
  [('"', '"'), ('\\', '\\'), ('/', '/'), ('b', '\x08'), ('f', '\x0c'), ('n', '\n'), ('r', '\r'),
    ('t', '\t')].lookup letter

def isLeading (code : Nat) : Bool := 0xD800 ≤ code && code < 0xDC00

def isTrailing (code : Nat) : Bool := 0xDC00 ≤ code && code < 0xE000

inductive Piece where
  | letter (letter : Char)
  -- An escaped code of 16 bits.
  | code (code : Nat)
deriving DecidableEq, Repr

def spelled? : List Piece → Option (List Char)
  | [] => some []
  | .letter letter :: rest => (spelled? rest).map (letter :: ·)
  | .code leading :: .code trailing :: rest =>
    if isLeading leading && isTrailing trailing then
      (spelled? rest).map
        (Char.ofNat (0x10000 + (leading - 0xD800) * 0x400 + (trailing - 0xDC00)) :: ·)
    else if isLeading leading || isTrailing leading then none
    else (spelled? (.code trailing :: rest)).map (Char.ofNat leading :: ·)
  | .code code :: rest =>
    if isLeading code || isTrailing code then none
    else (spelled? rest).map (Char.ofNat code :: ·)

def readQuoted : List Char → Option (List Piece × List Char)
  | [] => none
  | '"' :: rest => some ([], rest)
  | '\\' :: 'u' :: a :: b :: c :: d :: rest =>
    (hexNumber? [a, b, c, d]).bind fun code =>
      (readQuoted rest).map fun (pieces, after) => (.code code :: pieces, after)
  | '\\' :: letter :: rest =>
    (escapedLetter? letter).bind fun escaped =>
      (readQuoted rest).map fun (pieces, after) => (.letter escaped :: pieces, after)
  | letter :: rest =>
    if letter.toNat < 0x20 then none
    else (readQuoted rest).map fun (pieces, after) => (.letter letter :: pieces, after)

def readWord (word : String) (value : Json) (input : List Char) : Json × Option (List Char) :=
  if word.toList.isPrefixOf input then (value, some (input.drop word.length)) else (.broken, none)

def ofQuoted (pieces : List Piece) : Json :=
  match spelled? pieces with
  | some spelling => .text (String.ofList spelling)
  | none => .unfit (.text "")

def memberOf (pieces : List Piece) (value : Json) : String × Json :=
  match spelled? pieces with
  | some name => (String.ofList name, value)
  | none => ("", .misnamed value)

def brokenMember : String × Json := ("", .misnamed .broken)

-- The lists and objects that a value which is held may stand in, itself included.
def depthLimit : Nat := 127

def enclosed (room : Nat) (value : Json) : Json := if room = 0 then .unfit value else value

mutual

-- Each level of nesting and each item uses one unit of `fuel`.
def readValue : Nat → Nat → List Char → Json × Option (List Char)
  | 0, _, _ => (.broken, none)
  | fuel + 1, room, input =>
    match skipSpaces input with
    | '"' :: rest =>
      match readQuoted rest with
      | some (quoted, after) => (ofQuoted quoted, some after)
      | none => (.broken, none)
    | '[' :: rest =>
      match skipSpaces rest with
      | ']' :: after => (enclosed room (.list []), some after)
      | items =>
        let (values, after) := readItems fuel (room - 1) items
        (enclosed room (.list values), after)
    | '\x7b' :: rest =>
      match skipSpaces rest with
      | '\x7d' :: after => (enclosed room (.object []), some after)
      | members =>
        let (values, after) := readMembers fuel (room - 1) members
        (enclosed room (.object values), after)
    | '-' :: rest =>
      match readNumber true rest with
      | some (value, after) => (value, some after)
      | none => (.broken, none)
    | 't' :: rest => readWord "rue" (.flag true) rest
    | 'f' :: rest => readWord "alse" (.flag false) rest
    | 'n' :: rest => readWord "ull" .null rest
    | other =>
      match readNumber false other with
      | some (value, after) => (value, some after)
      | none => (.broken, none)

def readItems : Nat → Nat → List Char → List Json × Option (List Char)
  | 0, _, _ => ([.broken], none)
  | fuel + 1, room, input =>
    match readValue fuel room input with
    | (value, none) => ([value], none)
    | (value, some after) =>
      match skipSpaces after with
      | ']' :: rest => ([value], some rest)
      | ',' :: rest =>
        let (values, last) := readItems fuel room rest
        (value :: values, last)
      | _ => ([value, .broken], none)

def readMembers : Nat → Nat → List Char → List (String × Json) × Option (List Char)
  | 0, _, _ => ([brokenMember], none)
  | fuel + 1, room, input =>
    match skipSpaces input with
    | '"' :: rest =>
      match readQuoted rest with
      | none => ([brokenMember], none)
      | some (quoted, afterName) =>
        match skipSpaces afterName with
        | ':' :: spelled =>
          match readValue fuel room spelled with
          | (value, none) => ([memberOf quoted value], none)
          | (value, some after) =>
            match skipSpaces after with
            | '\x7d' :: rest => ([memberOf quoted value], some rest)
            | ',' :: rest =>
              let (members, last) := readMembers fuel room rest
              (memberOf quoted value :: members, last)
            | _ => ([memberOf quoted value, brokenMember], none)
        | _ => ([memberOf quoted .broken], none)
    | _ => ([brokenMember], none)

end

-- The value at the front of `text`. What follows the value is not looked at.
def ofText (text : String) : Json := (readValue (text.length + 1) depthLimit text.toList).1

end Casework.Json
