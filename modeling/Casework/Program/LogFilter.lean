import Casework.Expression.Reader
import Casework.Text.Alphanumeric
import Casework.Text.Blank
import Casework.Text.Numeral

set_option autoImplicit false

namespace Casework.Program.LogFilter

open Casework.Text

inductive Place where
  | start
  | name
  | span
  -- A field that begins after so many bytes.
  | field (began : Nat)
  | fields
  | target
  -- A level that begins after so many bytes.
  | level (began : Nat)
deriving DecidableEq, Repr

def startsName (letter : Char) : Bool :=
  letter == '-' || letter == ':' || letter == '_' || isAlphanumeric letter

def dropBytes : Nat → List Char → List Char
  | 0, text => text
  | _ + 1, [] => []
  | count + 1, letter :: rest => dropBytes (count + 1 - letter.utf8Size) rest

def takeBytes : Nat → List Char → List Char
  | 0, _ => []
  | _ + 1, [] => []
  | count + 1, letter :: rest => letter :: takeBytes (count + 1 - letter.utf8Size) rest

def isExponent : List Char → Bool
  | [] => true
  | mark :: spelled =>
    let digits := match spelled with
      | '+' :: digits | '-' :: digits => digits
      | digits => digits
    (mark == 'e' || mark == 'E') && (digits? digits).isSome

def isDecimal (text : List Char) : Bool :=
  let whole := text.takeWhile Char.isDigit
  let (fraction, exponent) := match text.drop whole.length with
    | '.' :: rest =>
      let fraction := rest.takeWhile Char.isDigit
      (fraction, rest.drop fraction.length)
    | rest => ([], rest)
  (whole ≠ [] || fraction ≠ []) && isExponent exponent

def isNumber (text : List Char) : Bool :=
  let unsigned := match text with
    | '+' :: unsigned | '-' :: unsigned => unsigned
    | unsigned => unsigned
  ["inf", "infinity", "nan"].contains (String.ofList unsigned).toLower || isDecimal unsigned

def isValue (text : List Char) : Bool :=
  isNumber text || (Expression.ofText? text).any Expression.isBuildable

-- The name of a field may be any text. What follows a second equals sign does not count.
def isField (text : List Char) : Bool :=
  match text.splitOn '=' with
  | _ :: value :: _ => isValue value
  | _ => true

def Place.next? (directive : List Char) (offset : Nat) (letter : Char) : Place → Option Place
  | .start =>
    if letter == '[' then some .span else if startsName letter then some .name else none
  | .name =>
    if letter == '=' then some (.level (offset + 1))
    else if letter == '[' then some .span
    else some .name
  | .span =>
    if letter == ']' then some .target
    else if letter == '\x7b' then some (.field (offset + 1))
    else some .span
  | .field began =>
    if letter == '\x7d' then
      let field := takeBytes (offset - began) (dropBytes began directive)
      if began < offset && isField field then some .fields else none
    else some (.field began)
  | .fields => if letter == ']' then some .target else none
  | .target => if letter == '=' then some (.level (offset + 1)) else none
  | .level began => some (.level began)

def Place.after? (directive : List Char) : Nat → Place → List Char → Option Place
  | _, place, [] => some place
  | offset, place, letter :: rest =>
    (place.next? directive offset letter).bind fun next =>
      next.after? directive (offset + letter.utf8Size) rest

def levels : List String := ["", "error", "warn", "info", "debug", "trace", "off"]

def isLevel (text : String) : Bool :=
  levels.contains text.toLower || (natural? 5 text).isSome

-- A directive without the blanks around it has to end where one may end. Its field and its level
-- are counted off in the directive with its blanks, so blanks in front move both.
def isDirective (text : List Char) : Bool :=
  match Place.start.after? text 0 (trim text) with
  | some .name => true
  | some .target => true
  | some (.level began) => isLevel (String.ofList (dropBytes began text))
  | _ => false

def isValid (text : String) : Bool :=
  ((text.toList.splitOn ',').filter (· ≠ [])).all isDirective

end Casework.Program.LogFilter
