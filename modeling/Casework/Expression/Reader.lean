import Casework.Expression.Cursor

set_option autoImplicit false

namespace Casework.Expression

open Text

namespace Reader

def setAtom : Reader Atom := do
  let letter ← next
  if letter = '\\' then escape else return .letter letter false

def ofAtom : Atom → Reader LetterSet
  | .place _ => refuse
  | part => return .atom part

def afterHyphen (isVerbose : Bool) (text : List Char) : Option Char :=
  if isVerbose then
    match dropBlanks text with
    -- A comment is looked into.
    | '#' :: comment => (dropBlanks comment).head?
    | rest => rest.head?
  else text.head?

def range : Atom → Atom → Reader LetterSet
  | .letter first _, .letter last _ => if first ≤ last then return .range first last else refuse
  | _, _ => refuse

def setItem : Reader LetterSet := do
  let first ← setAtom
  layout
  match ← rest with
  | [] => refuse
  | '-' :: after =>
    let deciding := afterHyphen (← get).isVerbose after
    if deciding = some ']' ∨ deciding = some '-' then ofAtom first
    else
      goTo after
      layout
      range first (← setAtom)
  | _ => ofAtom first

def hyphens : Nat → Reader (List LetterSet)
  | 0 => pure []
  | count + 1 => do
    match ← rest with
    | '-' :: after =>
      goTo after
      layout
      return .atom (.letter '-' false) :: (← hyphens count)
    | _ => return []

def setOpening : Reader (Bool × List LetterSet) := do
  layout
  let negated := (← rest).head? = some '^'
  if negated then
    goTo ((← rest).drop 1)
    layout
  let first ← hyphens (← rest).length
  match first, ← rest with
  -- No set is empty, so a bracket at its beginning does not close it.
  | [], ']' :: after =>
    goTo after
    layout
    return (negated, [.atom (.letter ']' false)])
  | _, _ => return (negated, first)

def classNames : List String :=
  ["alnum", "alpha", "ascii", "blank", "cntrl", "digit", "graph", "lower", "print", "punct",
   "space", "upper", "word", "xdigit"]

def namedClass? : List Char → Option (Bool × List Char)
  | ':' :: text =>
    let negated := text.head? = some '^'
    let spelled := if negated then text.drop 1 else text
    let name := spelled.takeWhile (· != ':')
    match spelled.drop name.length with
    | ':' :: ']' :: after =>
      if classNames.contains (String.ofList name) then some (negated, after) else none
    | _ => none
  | _ => none

def joined : Option LetterSet → LetterSet → LetterSet
  | none, right => right
  | some left, right => .operation left right

-- The set up to its closing bracket, whose `items` so far are reversed. Each item and each level
-- uses one unit of fuel.
def setItems : Nat → Option LetterSet → List LetterSet → Reader LetterSet
  | 0, _, _ => refuse
  | fuel + 1, left, items => do
    layout
    match ← rest with
    | [] => refuse
    | '[' :: after =>
      match namedClass? after with
      | some (negated, later) =>
        goTo later
        setItems fuel left (.named negated :: items)
      | none =>
        goTo after
        let (negated, first) ← setOpening
        let inner ← setItems fuel none first.reverse
        setItems fuel left (.bracketed negated inner :: items)
    | ']' :: after =>
      goTo after
      return joined left (.ofSets items.reverse)
    | '&' :: '&' :: after | '-' :: '-' :: after | '~' :: '~' :: after =>
      goTo after
      setItems fuel (joined left (.ofSets items.reverse)) []
    | _ =>
      let item ← setItem
      setItems fuel left (item :: items)

def letterSet : Reader LetterSet := do
  let (negated, first) ← setOpening
  let inner ← setItems ((← rest).length + 1) none first.reverse
  return .bracketed negated inner

def single : Char → Reader Expression
  | '[' => do return .set (← letterSet)
  | '\\' => do return .atom (← escape)
  | '.' => return .atom .dot
  | '^' => return .atom (.place false)
  | '$' => return .atom (.place false)
  | letter => return .atom (.letter letter false)

def repetition : List Expression → Reader (List Expression)
  | [] => refuse
  | .settings _ :: _ => refuse
  | last :: before => do
    -- A question mark after the sign is a part of it.
    match ← rest with
    | '?' :: after => goTo after
    | _ => pure ()
    return .repeated last :: before

def withAlternatives : List Expression → Expression → Expression
  | [], last => last
  | others, last => .alternatives (others.reverse ++ [last])

-- The expression up to the end of its group. The alternatives before the current one and its parts
-- so far are reversed. Each part and each level uses one unit of fuel.
def body : Nat → List Expression → List Expression → Reader Expression
  | 0, _, _ => refuse
  | fuel + 1, others, parts => do
    layout
    match ← rest with
    | [] => return withAlternatives others (.ofParts parts.reverse)
    | ')' :: _ => return withAlternatives others (.ofParts parts.reverse)
    | letter :: after =>
      goTo after
      if letter = '|' then body fuel (.ofParts parts.reverse :: others) []
      else if letter = '(' then
        let (settings, isGroup) ← opening
        let outer := (← get).isVerbose
        setVerbose (settings.after .verbose outer)
        if isGroup then
          let inner ← body fuel [] []
          if (← next) ≠ ')' then refuse
          setVerbose outer
          body fuel others (.group settings inner :: parts)
        else body fuel others (.settings settings :: parts)
      else if letter = '\x7b' then refuse
      else if ['?', '*', '+'].contains letter then
        body fuel others (← repetition parts)
      else
        let part ← single letter
        body fuel others (part :: parts)

end Reader

def ofText? (text : List Char) : Option Expression :=
  match (Reader.body (text.length + 1) [] []).run ⟨text, false, []⟩ with
  | some (expression, cursor) => if cursor.rest = [] then some expression else none
  | none => none

end Casework.Expression
