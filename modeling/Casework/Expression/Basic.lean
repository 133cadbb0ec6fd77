set_option autoImplicit false

namespace Casework

inductive Flag where
  | ignoreCase
  | multiline
  | dotAll
  | swapGreed
  | carriageReturn
  | unicode
  | verbose
deriving DecidableEq, Repr

abbrev FlagSettings := List (Flag × Bool)

def FlagSettings.after (settings : FlagSettings) (flag : Flag) (current : Bool) : Bool :=
  (settings.lookup flag).getD current

inductive Atom where
  -- A character, which may be given as a byte of two digits.
  | letter (letter : Char) (isByte : Bool)
  | dot
  -- A place between characters, which may be told by the words around it.
  | place (isByWords : Bool)
  -- Digits, blanks or letters of words, or all but these.
  | shorthand (negated : Bool)
  -- The general category with an initial.
  | category (initial : Char)
deriving DecidableEq, Repr

inductive LetterSet where
  | empty
  | atom (atom : Atom)
  | range (first last : Char)
  -- A class of ASCII characters by its name.
  | named (negated : Bool)
  | bracketed (negated : Bool) (set : LetterSet)
  | union (sets : List LetterSet)
  | operation (left right : LetterSet)

inductive Expression where
  | empty
  -- The settings hold up to the end of the group around them.
  | settings (settings : FlagSettings)
  | atom (atom : Atom)
  | set (set : LetterSet)
  | repeated (body : Expression)
  | group (settings : FlagSettings) (body : Expression)
  | sequence (parts : List Expression)
  | alternatives (parts : List Expression)

def isAscii (letter : Char) : Bool := letter.toNat < 128

def Atom.suits (unicode : Bool) : Atom → Bool
  | .letter value isByte => unicode || !isByte || isAscii value
  | .dot => unicode
  | .place isByWords => !(unicode && isByWords)
  -- All but some ASCII characters are bytes that are no characters, too.
  | .shorthand negated => unicode || !negated
  | .category initial => unicode && "CLMNPSZ".toList.contains initial.toUpper

namespace LetterSet

mutual

def depth : LetterSet → Nat
  | .bracketed _ set => set.depth + 1
  | .union sets => depths sets + 1
  | .operation left right => max left.depth right.depth + 1
  | _ => 0

def depths : List LetterSet → Nat
  | [] => 0
  | set :: sets => max set.depth (depths sets)

end

mutual

def suits (unicode : Bool) : LetterSet → Bool
  | .empty => true
  | .atom (.letter value _) => unicode || isAscii value
  | .atom part => part.suits unicode
  | .range first last => unicode || (isAscii first && isAscii last)
  | .named negated => unicode || !negated
  | .bracketed negated set => (unicode || !negated) && set.suits unicode
  | .union sets => allSuit unicode sets
  | .operation left right => left.suits unicode && right.suits unicode

def allSuit (unicode : Bool) : List LetterSet → Bool
  | [] => true
  | set :: sets => set.suits unicode && allSuit unicode sets

end

def ofSets : List LetterSet → LetterSet
  | [] => .empty
  | [set] => set
  | sets => .union sets

end LetterSet

namespace Expression

mutual

def depth : Expression → Nat
  | .set letters => letters.depth
  | .repeated body => body.depth + 1
  | .group _ body => body.depth + 1
  | .sequence parts => depths parts + 1
  | .alternatives parts => depths parts + 1
  | _ => 0

def depths : List Expression → Nat
  | [] => 0
  | part :: parts => max part.depth (depths parts)

end

mutual

def unicodeAfter? (unicode : Bool) : Expression → Option Bool
  | .empty => some unicode
  | .settings changes => some (changes.after .unicode unicode)
  | .atom part => if part.suits unicode then some unicode else none
  | .set letters => if letters.suits unicode then some unicode else none
  | .repeated body => body.unicodeAfter? unicode
  | .group changes body =>
    (body.unicodeAfter? (changes.after .unicode unicode)).map fun _ => unicode
  | .sequence parts => unicodeAfterAll? unicode parts
  -- Settings in one alternative hold for the next as well.
  | .alternatives parts => unicodeAfterAll? unicode parts

def unicodeAfterAll? (unicode : Bool) : List Expression → Option Bool
  | [] => some unicode
  | part :: parts => (part.unicodeAfter? unicode).bind fun next => unicodeAfterAll? next parts

end

def ofParts : List Expression → Expression
  | [] => .empty
  | [part] => part
  | parts => .sequence parts

def depthLimit : Nat := 250

def isBuildable (expression : Expression) : Bool :=
  expression.depth ≤ depthLimit && (expression.unicodeAfter? true).isSome

end Expression

end Casework
