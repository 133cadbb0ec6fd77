import Casework.Digest.Sha256
import Casework.Text.Numeral

set_option autoImplicit false

namespace Casework.Reference

open Text

-- Thirteen letters, without those that are easily mistaken for digits.
def checkLetters : List Char :=
  ['A', 'B', 'C', 'D', 'E', 'F', 'G', 'H', 'X', 'J', 'K', 'L', 'M']

def checkLetter (sequence : Nat) : Char := checkLetters.getD (sequence % 13) 'A'

def checkCode (packId : Nat) (reference : String) : String :=
  let bytes := Sha256.bigEndian 8 packId ++ reference.toUTF8.toList
  let number := Sha256.ofBigEndian ((Sha256.digest bytes).take 8)
  String.ofList (padded 8 (number % 100000000))

end Casework.Reference
