import Casework.Program.Demonstration

set_option autoImplicit false

namespace Casework.Program.Listing

open Text (numeral)

def column (width : Nat) (text : String) : String :=
  String.ofList (text.toList.rightpad width ' ')

def applicationLine (application : Application) : String :=
  "- " ++ column 14 application.shownReference ++ " " ++
    column 55 application.processType.label ++ " " ++ application.status.label ++ "\n"

def cells : ResultRow → List String
  | .imported row =>
    [row.summary.reference, row.summary.typeLabel, row.summary.status, row.applicant.organisation,
      row.assignee.name]
  | .exported row =>
    [row.reference, row.typeLabel, row.status, row.organisation,
      Spreadsheet.joined row.certificates]

def rowLine (row : ResultRow) : String := "  " ++ " | ".intercalate (cells row) ++ "\n"

def rowLines (results : SearchResults) : String := String.join (results.rows.map rowLine)

def found (results : SearchResults) : String :=
  numeral results.total ++ " matching case(s)\n" ++ rowLines results

def summary (caseType : CaseType) (results : SearchResults) : String :=
  "\n" ++ caseType.code ++ " search: " ++ numeral results.total ++ " case(s)\n" ++ rowLines results

def demonstration (applications : List Application)
    (searches : List (CaseType × SearchResults)) (waiting : List Application) : String :=
  "Case workflow demo\n" ++ String.join (applications.map applicationLine) ++
    String.join (searches.map fun (caseType, results) => summary caseType results) ++
    "\nLicences waiting on CHIEF: " ++ numeral waiting.length ++ "\n"

end Casework.Program.Listing
