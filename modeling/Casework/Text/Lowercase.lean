import Casework.Text.CaseMap
import Casework.Text.CaseContext

set_option autoImplicit false

namespace Casework.Text

def meetsCased (text : List Char) : Bool :=
  ((text.dropWhile isCaseIgnorable).head?.map isCased).getD false

-- The lower case of `letter` between the reversed text before it and the text after it.
def lowerLetter (before after : List Char) (letter : Char) : List Char :=
  if letter = 'Σ' then
    if meetsCased before && !meetsCased after then ['ς'] else ['σ']
  else if letter = 'İ' then ['i', '\u0307']
  else [shiftLetter lowercaseShifts letter]

def lowercaseAfter (before : List Char) : List Char → List Char
  | [] => []
  | letter :: after => lowerLetter before after letter ++ lowercaseAfter (letter :: before) after

def lowercase (text : List Char) : List Char := lowercaseAfter [] text

end Casework.Text
