import HazardStore.Program.Command
/-!
Arguments of the program, read from left to right. The first argument that cannot be taken, or that
asks for help or the version, decides.
-/

namespace HazardStore.CommandLine

/-- The places of the command tree that have a help page of their own. -/
inductive Page where
  | program
  | run
  | status
  | seed
  | verify
  | help
deriving DecidableEq

inductive Stop where
  | showHelp (page : Page)
  | showVersion
  | unknownArgument
  | unknownSubcommand
  | repeatedFlag
  | unexpectedValue
deriving DecidableEq

def Stop.exitCode : Stop → Nat
  | .showHelp _ => 0
  | .showVersion => 0
  | _ => 2

inductive Form where
  /-- Two dashes alone: what follows is not taken for a flag. -/
  | escape
  /-- Two dashes and a name, perhaps with a value behind an equals sign. -/
  | long (name : List Char) (hasValue : Bool)
  | short (letters : List Char)
  | plain
deriving DecidableEq

def formOf (argument : String) : Form :=
  match argument.toList with
  | ['-', '-'] => .escape
  | '-' :: '-' :: rest => .long (rest.takeWhile (· ≠ '=')) (rest.contains '=')
  | ['-'] => .plain
  | '-' :: letters => .short letters
  | _ => .plain

inductive Flag where
  | help
  | version
  | json
deriving DecidableEq

def Flag.name : Flag → List Char
  | .help => ['h', 'e', 'l', 'p']
  | .version => ['v', 'e', 'r', 's', 'i', 'o', 'n']
  | .json => ['j', 's', 'o', 'n']

def Flag.letter? : Flag → Option Char
  | .help => some 'h'
  | .version => some 'V'
  | .json => none

def Page.flags : Page → List Flag
  | .program => [.help, .version]
  | .status => [.json, .help]
  | _ => [.help]

/-- The flag that a form stands for, or why it stands for none. Of several letters the first one
decides, for no flag that has a letter leaves anything to be read. -/
def flagOf? (page : Page) : Form → Option (Except Stop Flag)
  | .long name hasValue =>
      match page.flags.find? (fun flag => decide (flag.name = name)) with
      | some flag => some (if hasValue then .error .unexpectedValue else .ok flag)
      | none => some (.error .unknownArgument)
  | .short letters =>
      match page.flags.find? (fun flag => decide (flag.letter? = letters.head?)) with
      | some flag => some (.ok flag)
      | none => some (.error .unknownArgument)
  | _ => none

def subcommand? : String → Option Page
  | "run" => some .run
  | "status" => some .status
  | "seed" => some .seed
  | "verify" => some .verify
  | "help" => some .help
  | _ => none

def Page.command : Page → Bool → Option Command
  | .run, _ => some .run
  | .status, json => some (.status json)
  | .seed, _ => some .seed
  | .verify, _ => some .verify
  | _, _ => none

/-- Help names at most one subcommand; subcommands have none of their own. -/
def helpFor : List String → Stop
  | [] => .showHelp .program
  | [name] => (subcommand? name).elim .unknownSubcommand .showHelp
  | _ => .unknownSubcommand

/-- Arguments behind a subcommand: flags only, and behind two dashes nothing. -/
def readFlags (page : Page) (json : Bool) : List String → Except Stop Bool
  | [] => .ok json
  | argument :: rest =>
      match formOf argument with
      | .escape => if rest = [] then .ok json else .error .unknownArgument
      | form =>
          match flagOf? page form with
          | some (.ok .help) => .error (.showHelp page)
          | some (.ok .version) => .error .showVersion
          | some (.ok .json) => if json then .error .repeatedFlag else readFlags page true rest
          | some (.error stop) => .error stop
          | none => .error .unknownArgument

/-- Two dashes before a subcommand hide it. -/
def afterEscape : List String → Except Stop (Option Command)
  | [] => .ok none
  | argument :: _ =>
      if (subcommand? argument).isSome then .error .unknownArgument else .error .unknownSubcommand

def read : List String → Except Stop (Option Command)
  | [] => .ok none
  | argument :: rest =>
      match subcommand? argument with
      | some .help => .error (helpFor rest)
      | some page => (readFlags page false rest).map page.command
      | none =>
          match formOf argument with
          | .escape => afterEscape rest
          | form =>
              match flagOf? .program form with
              | some (.ok .version) => .error .showVersion
              | some (.ok _) => .error (.showHelp .program)
              | some (.error stop) => .error stop
              | none => .error .unknownSubcommand

end HazardStore.CommandLine
