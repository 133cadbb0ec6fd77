import Casework.Text.Scan

set_option autoImplicit false

namespace Casework.Network

open Casework.Text

inductive Address where
  | four (octets : Vector UInt8 4)
  -- Eight groups of sixteen bits.
  | six (groups : Vector UInt16 8)
deriving DecidableEq, Repr

namespace Address

def loopback : Address := .four #v[127, 0, 0, 1]

def scanOctet : Scan UInt8 := fun text =>
  let run := text.takeWhile Char.isDigit
  if run.length ≤ 3 ∧ (run.length = 1 ∨ run.head? ≠ some '0') then
    ((digits? run).filter (· ≤ 255)).map fun number =>
      (UInt8.ofNat number, text.drop run.length)
  else none

def scanFour : Scan (Vector UInt8 4) := do
  let first ← scanOctet
  Scan.symbol '.'
  let second ← scanOctet
  Scan.symbol '.'
  let third ← scanOctet
  Scan.symbol '.'
  let fourth ← scanOctet
  pure #v[first, second, third, fourth]

def scanGroup : Scan UInt16 := fun text =>
  let run := text.takeWhile fun letter => (hexDigit? letter).isSome
  if 1 ≤ run.length ∧ run.length ≤ 4 then
    (hexNumber? run).map fun number => (UInt16.ofNat number, text.drop run.length)
  else none

def afterColon (isFirst : Bool) (text : List Char) : Option (List Char) :=
  match isFirst, text with
  | true, text => some text
  | false, ':' :: rest => some rest
  | false, _ => none

def pairs (octets : Vector UInt8 4) : List UInt16 :=
  let pair (high low : UInt8) : UInt16 := UInt16.ofNat (high.toNat * 256 + low.toNat)
  [pair octets[0] octets[1], pair octets[2] octets[3]]

structure GroupRun where
  groups : List UInt16
  -- The last two were written as four octets.
  endsInOctets : Bool
  rest : List Char

-- The longest run of at most `limit` groups with colons between them. Four octets may stand for
-- two.
def groupRun (isFirst : Bool) : Nat → List Char → GroupRun
  | 0, text => ⟨[], false, text⟩
  | limit + 1, text =>
    let start := afterColon isFirst text
    match if 1 ≤ limit then start.bind scanFour.run else none with
    | some (octets, rest) => ⟨pairs octets, true, rest⟩
    | none =>
      match start.bind scanGroup.run with
      | some (group, rest) =>
        let later := groupRun false limit rest
        { later with groups := group :: later.groups }
      | none => ⟨[], false, text⟩

def ofGroups (groups : List UInt16) : Vector UInt16 8 :=
  Vector.ofFn fun place => groups.getD place.val 0

def scanSix : Scan (Vector UInt16 8) := fun text =>
  let head := groupRun true 8 text
  if head.groups.length = 8 then some (ofGroups head.groups, head.rest)
  -- Octets stand only at the end.
  else if head.endsInOctets then none
  else
    match head.rest with
    | ':' :: ':' :: rest =>
      -- At least one group is left for the double colon.
      let tail := groupRun true (7 - head.groups.length) rest
      let zeros := List.replicate (8 - head.groups.length - tail.groups.length) 0
      some (ofGroups (head.groups ++ zeros ++ tail.groups), tail.rest)
    | _ => none

def ofText? (text : String) : Option Address :=
  Scan.whole (Scan.orElse (do pure (.four (← scanFour))) (do pure (.six (← scanSix)))) text

def octetsText (octets : List UInt8) : String :=
  ".".intercalate (octets.map fun octet => numeral octet.toNat)

def groupsText (groups : List UInt16) : String :=
  ":".intercalate (groups.map fun group => String.ofList (Nat.toDigits 16 group.toNat))

def zerosAt (groups : List UInt16) (start : Nat) : Nat :=
  ((groups.drop start).takeWhile (· == 0)).length

-- The place and the length of the longest run of zeros, the first of equals.
def longestZeros (groups : List UInt16) : Nat × Nat :=
  (List.range groups.length).foldl
    (fun best start =>
      if best.2 < zerosAt groups start then (start, zerosAt groups start) else best)
    (0, 0)

def embedded? (groups : Vector UInt16 8) : Option (List UInt8) :=
  if groups.toList.take 6 = [0, 0, 0, 0, 0, 0xffff] then
    some ((groups.toList.drop 6).flatMap fun group =>
      [UInt8.ofNat (group.toNat / 256), UInt8.ofNat (group.toNat % 256)])
  else none

def sixText (groups : Vector UInt16 8) : String :=
  match embedded? groups with
  | some octets => "::ffff:" ++ octetsText octets
  | none =>
    let (start, length) := longestZeros groups.toList
    if 2 ≤ length then
      groupsText (groups.toList.take start) ++ "::" ++
        groupsText (groups.toList.drop (start + length))
    else groupsText groups.toList

def text : Address → String
  | .four octets => octetsText octets.toList
  | .six groups => sixText groups

def withPort (address : Address) (port : Nat) : String :=
  match address with
  | .four octets => octetsText octets.toList ++ ":" ++ numeral port
  | .six groups => "[" ++ sixText groups ++ "]:" ++ numeral port

end Address

end Casework.Network
