set_option autoImplicit false

namespace Casework.Csv

def mustQuote (field : List Char) : Bool :=
  field.any fun letter => letter == ',' || letter == '"' || letter == '\r' || letter == '\n'

def doubleQuotes (field : List Char) : List Char :=
  field.flatMap fun letter => if letter = '"' then ['"', '"'] else [letter]

def quoted (field : List Char) : List Char := '"' :: doubleQuotes field ++ ['"']

def writtenField (field : List Char) : List Char := if mustQuote field then quoted field else field

-- A record of one empty field is quoted, since an empty line is no record.
def writtenRecord (fields : List (List Char)) : List Char :=
  (if fields = [[]] then quoted [] else [','].intercalate (fields.map writtenField)) ++ ['\n']

def written (records : List (List (List Char))) : List Char := records.flatMap writtenRecord

inductive Place where
  | start
  | bare
  | inQuotes
  -- After a quote that closes the field, or is the first of two.
  | afterQuote
deriving DecidableEq, Repr

-- Reads on from a place, with the fields of the record so far and the letters of the field so far,
-- both the last first.
def readFrom : Place → List (List Char) → List Char → List Char → List (List (List Char))
  | .start, [], _, [] => []
  | _, fields, field, [] => [(field.reverse :: fields).reverse]
  | .inQuotes, fields, field, letter :: rest =>
    if letter = '"' then readFrom .afterQuote fields field rest
    else readFrom .inQuotes fields (letter :: field) rest
  | .afterQuote, fields, field, letter :: rest =>
    if letter = '"' then readFrom .inQuotes fields ('"' :: field) rest
    else if letter = ',' then readFrom .start (field.reverse :: fields) [] rest
    else if letter = '\n' then (field.reverse :: fields).reverse :: readFrom .start [] [] rest
    else readFrom .bare fields (letter :: field) rest
  | .start, fields, field, letter :: rest =>
    if letter = '"' then readFrom .inQuotes fields field rest
    else if letter = ',' then readFrom .start (field.reverse :: fields) [] rest
    else if letter = '\n' then
      if fields.isEmpty then readFrom .start [] [] rest
      else (field.reverse :: fields).reverse :: readFrom .start [] [] rest
    else readFrom .bare fields (letter :: field) rest
  | .bare, fields, field, letter :: rest =>
    if letter = ',' then readFrom .start (field.reverse :: fields) [] rest
    else if letter = '\n' then (field.reverse :: fields).reverse :: readFrom .start [] [] rest
    else readFrom .bare fields (letter :: field) rest

def records (text : List Char) : List (List (List Char)) := readFrom .start [] [] text

end Casework.Csv
