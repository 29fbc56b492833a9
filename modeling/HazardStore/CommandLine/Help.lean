import HazardStore.CommandLine.Arguments
/-!
The help pages of the program and its version.
-/

namespace HazardStore.CommandLine

def programName : String := "hzrdr-migrate"

def versionText : String := programName ++ " 0.1.0\n"

def Page.summary : Page → String
  | .program => "Apply and inspect the hazard results schema migrations"
  | .run => "Apply all pending migrations"
  | .status => "List known migrations and whether they are applied"
  | .seed => "Insert any missing seed intensity measure types"
  | .verify => "Check the migrated schema against the storage contract"
  | .help => "Print this message or the help of the given subcommand(s)"

def Page.name : Page → String
  | .program => programName
  | .run => "run"
  | .status => "status"
  | .seed => "seed"
  | .verify => "verify"
  | .help => "help"

def Page.usage : Page → String
  | .program => programName ++ " [COMMAND]"
  | .status => programName ++ " status [OPTIONS]"
  | .help => programName ++ " help [COMMAND]..."
  | page => programName ++ " " ++ page.name

def subcommands : List Page :=
  [.run, .status, .seed, .verify, .help]

def column (width : Nat) (left right : String) : String :=
  "  " ++ MigrationStatus.filled width left ++ "  " ++ right ++ "\n"

def Page.sections : Page → String
  | .program =>
      "\nCommands:\n" ++
        String.join (subcommands.map (fun page => column 6 page.name page.summary)) ++
        "\nOptions:\n" ++ column 13 "-h, --help" "Print help" ++
        column 13 "-V, --version" "Print version"
  | .status =>
      "\nOptions:\n" ++ column 10 "    --json" "Print JSON instead of a table" ++
        column 10 "-h, --help" "Print help"
  | .help =>
      "\nArguments:\n" ++ column 12 "[COMMAND]..." "Print help for the subcommand(s)"
  | _ => "\nOptions:\n" ++ column 10 "-h, --help" "Print help"

def Page.text (page : Page) : String :=
  page.summary ++ "\n\nUsage: " ++ page.usage ++ "\n" ++ page.sections

def Stop.printed : Stop → String
  | .showHelp page => page.text
  | .showVersion => versionText
  | _ => ""

def Stop.complaint : Stop → String
  | .showHelp _ => ""
  | .showVersion => ""
  | .unknownArgument => "error: unexpected argument found\n"
  | .unknownSubcommand => "error: unrecognized subcommand\n"
  | .repeatedFlag => "error: a flag cannot be used multiple times\n"
  | .unexpectedValue => "error: a flag was given a value that it does not take\n"

end HazardStore.CommandLine
