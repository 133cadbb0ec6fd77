import Casework.Expression.Basic
import Casework.Text.Alphanumeric
import Casework.Text.Blank
import Casework.Text.Numeral

set_option autoImplicit false

namespace Casework.Expression

open Text

structure Cursor where
  rest : List Char
  -- Blanks and comments do not count.
  isVerbose : Bool
  -- The names of the groups so far.
  names : List String

abbrev Reader (α : Type) := StateT Cursor Option α

namespace Reader

def refuse {α : Type} : Reader α := fun _ => none

def rest : Reader (List Char) := do return (← get).rest

def goTo (rest : List Char) : Reader Unit := modify fun cursor => { cursor with rest }

def setVerbose (isVerbose : Bool) : Reader Unit := modify fun cursor => { cursor with isVerbose }

def next : Reader Char := do
  match ← rest with
  | [] => refuse
  | letter :: after =>
    goTo after
    return letter

def afterLayout (inComment : Bool) : List Char → List Char
  | [] => []
  | letter :: after =>
    if inComment then afterLayout (letter != '\n') after
    else if isBlank letter then afterLayout false after
    else if letter = '#' then afterLayout true after
    else letter :: after

def layout : Reader Unit :=
  modify fun cursor =>
    if cursor.isVerbose then { cursor with rest := afterLayout false cursor.rest } else cursor

def hexDigits : Nat → Reader (List Char)
  | 0 => pure []
  | count + 1 => do
    let digit ← next
    if (hexDigit? digit).isNone then refuse
    layout
    return digit :: (← hexDigits count)

def codedLetter (count : Nat) : Reader Atom := do
  layout
  match hexNumber? (← hexDigits count) with
  | none => refuse
  | some code =>
    if code.isValidChar then return .letter (Char.ofNat code) (count = 2) else refuse

def category : Reader Atom := do
  layout
  let initial ← next
  if initial = '\\' then refuse
  layout
  return .category initial

def specialLetter? (letter : Char) : Option Char :=
  [('a', '\x07'), ('f', '\x0c'), ('t', '\t'), ('n', '\n'), ('r', '\r'), ('v', '\x0b')].lookup
    letter

def escape : Reader Atom := do
  let letter ← next
  if letter = 'x' then codedLetter 2
  else if letter = 'u' then codedLetter 4
  else if letter = 'U' then codedLetter 8
  else if letter = 'p' ∨ letter = 'P' then category
  else if ['d', 's', 'w'].contains letter then return .shorthand false
  else if ['D', 'S', 'W'].contains letter then return .shorthand true
  else if letter = 'A' ∨ letter = 'z' then return .place false
  else if ['b', 'B', '<', '>'].contains letter then return .place true
  else
    match specialLetter? letter with
    | some special => return .letter special false
    | none =>
      -- Letters and digits are kept for other meanings.
      if isAscii letter && !letter.isAlphanum then return .letter letter false else refuse

def startsName (letter : Char) : Bool := letter == '_' || isAlphabetic letter

def continuesName (letter : Char) : Bool :=
  ['_', '.', '[', ']'].contains letter || isAlphanumeric letter

def isName : List Char → Bool
  | [] => false
  | letter :: letters => startsName letter && letters.all continuesName

-- The name of a group, up to its closing bracket. No two groups have one name.
def groupName : Reader Unit := do
  let text ← rest
  let name := text.takeWhile (· != '>')
  match text.drop name.length with
  | [] => refuse
  | _ :: after =>
    let names := (← get).names
    if !isName name || names.contains (String.ofList name) then refuse
    modify fun cursor => { cursor with rest := after, names := String.ofList name :: names }

def flag? (letter : Char) : Option Flag :=
  [('i', Flag.ignoreCase), ('m', .multiline), ('s', .dotAll), ('U', .swapGreed), ('u', .unicode),
    ('R', .carriageReturn), ('x', .verbose)].lookup letter

def settings? (isOn : Bool) : List Char → Option FlagSettings
  | [] => some []
  | letter :: letters =>
    if letter = '-' then if isOn ∧ letters ≠ [] then settings? false letters else none
    else
      (flag? letter).bind fun flag => (settings? isOn letters).map ((flag, isOn) :: ·)

def settings : Reader (FlagSettings × Bool) := do
  let text ← rest
  let spelled := text.takeWhile fun letter => letter != ':' && letter != ')'
  match text.drop spelled.length, settings? true spelled with
  | closing :: after, some settings =>
    let isGroup := closing = ':'
    if !(settings.map Prod.fst).Nodup || (settings.isEmpty && !isGroup) then refuse
    goTo after
    return (settings, isGroup)
  | _, _ => refuse

def opening : Reader (FlagSettings × Bool) := do
  layout
  match ← rest with
  | '?' :: 'P' :: '<' :: after | '?' :: '<' :: after =>
    goTo after
    groupName
    return ([], true)
  | '?' :: after =>
    goTo after
    settings
  | _ => return ([], true)

end Reader

end Casework.Expression
