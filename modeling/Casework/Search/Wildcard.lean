import Casework.Text.Blank
import Casework.Text.CaseMap
import Casework.Text.Lowercase

set_option autoImplicit false

namespace Casework.Search

open Casework.Text

inductive Wildcard where
  -- Finds every text, and a missing one.
  | any
  | exact (text : List Char)
  -- Finds what begins with a text in lower case.
  | startsWith (lowered : List Char)
  -- Finds what ends with a text in lower case.
  | endsWith (lowered : List Char)
  -- Finds `first` at the beginning and each part of `others` after a gap.
  | parts (first : List Char) (others : List (List Char))
deriving Repr, DecidableEq

def splitAt (separator : Char) : List Char → List Char × List (List Char)
  | [] => ([], [])
  | letter :: rest =>
    let (first, others) := splitAt separator rest
    if letter = separator then ([], first :: others) else (letter :: first, others)

def Wildcard.ofPattern (pattern : List Char) : Wildcard :=
  -- Blanks around a lone percent sign do not count, though elsewhere they do.
  if trim pattern = ['%'] then .any
  else match splitAt '%' pattern with
    | (text, []) => .exact text
    | ([], [ending]) => .endsWith (lowercase ending)
    | (beginning, [[]]) => .startsWith (lowercase beginning)
    | (first, others) => .parts first others

def dropPart? : List Char → List Char → Option (List Char)
  | [], text => some text
  | _ :: _, [] => none
  | letter :: part, found :: text => if SameLetter letter found then dropPart? part text else none

def skipPast? (part : List Char) : List Char → Option (List Char)
  | [] => dropPart? part []
  | letter :: text =>
    match dropPart? part (letter :: text) with
    | some rest => some rest
    | none => if letter = '\n' then none else skipPast? part text

def skipPastAll? : List (List Char) → List Char → Option (List Char)
  | [], text => some text
  | part :: parts, text => (skipPast? part text).bind (skipPastAll? parts)

def Wildcard.finds : Wildcard → List Char → Bool
  | .any, _ => true
  | .exact expected, text => text == expected
  | .startsWith lowered, text => lowered.isPrefixOf (lowercase text)
  | .endsWith lowered, text => lowered.isSuffixOf (lowercase text)
  | .parts first others, text => ((dropPart? first text).bind (skipPastAll? others)).isSome

def Wildcard.findsOptional (wildcard : Wildcard) : Option String → Bool
  | some text => wildcard.finds text.toList
  | none => wildcard == .any

end Casework.Search
