import Casework.Program.Command

set_option autoImplicit false

namespace Casework.Program

def versionText : String := "ICMS 0.1.0\n"

namespace Topic

def purpose : Topic → String
  | .program => "Run the import licence and export certificate case service"
  | .serve => "Start the HTTP service (default command)"
  | .demo => "Walk a set of sample applications through the case workflow"
  | .search => "Search the sample applications and print or export the results"
  | .help => "Print this message or the help of the given subcommand(s)"

def usage : Topic → String
  | .program => "icms-api [COMMAND]"
  | .serve => "icms-api serve [OPTIONS]"
  | .demo => "icms-api demo [OPTIONS]"
  | .search => "icms-api search [OPTIONS] --case-type <CASE_TYPE>"
  | .help => "icms-api help [COMMAND]..."

def details : Topic → List String
  | .program =>
    ["Commands:",
      "  serve   " ++ purpose .serve,
      "  demo    " ++ purpose .demo,
      "  search  " ++ purpose .search,
      "  help    " ++ purpose .help,
      "",
      "Options:",
      "  -h, --help     Print help",
      "  -V, --version  Print version"]
  | .serve =>
    ["Options:",
      "      --host <HOST>  Override the configured host for the HTTP server",
      "      --port <PORT>  Override the configured port for the HTTP server",
      "  -h, --help         Print help"]
  | .demo =>
    ["Options:",
      "      --send-to-chief  Build CHIEF payloads for electronic licences instead of only " ++
        "recording the request",
      "      --limit <LIMIT>  Maximum number of rows shown in each search summary [default: 10]",
      "  -h, --help           Print help"]
  | .search =>
    ["Options:",
      "      --case-type <CASE_TYPE>            Case type to search (import or export)",
      "      --case-ref <CASE_REF>              Case reference, `%` matches any run of characters",
      "      --status <STATUS>                  Status code such as SUBMITTED or PROCESSING",
      "      --submitted-from <SUBMITTED_FROM>  Earliest submission date (YYYY-MM-DD)",
      "      --limit <LIMIT>                    Maximum number of rows to print",
      "      --spreadsheet <SPREADSHEET>        Write every matching row to this CSV file " ++
        "instead of printing",
      "  -h, --help                             Print help"]
  | .help => ["Arguments:", "  [COMMAND]...  Print help for the subcommand(s)"]

def text (topic : Topic) : String :=
  "\n".intercalate ([topic.purpose, "", "Usage: " ++ topic.usage, ""] ++ topic.details) ++ "\n"

end Topic

end Casework.Program
