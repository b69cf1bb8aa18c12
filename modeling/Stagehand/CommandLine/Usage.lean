import Stagehand.CommandLine.Flag
import Stagehand.Text.Printable

/-!
# Usage
What the command line tells people: how it is used, and what is wrong with the arguments.
-/

namespace Stagehand.CommandLine

/-- The name and the version of the program. -/
def versionText : String := "fanhub 0.1.0\n"

/-- The variable that names a configuration file. -/
def configFileVariable : String := "FANHUB_CONFIG_FILE"

/-- How the program is used. The help shows the value of the variable for the configuration file. -/
def programHelp (configFile : String) : String :=
  "fanhub backend support utilities

Usage: fanhub [OPTIONS] [COMMAND]

Commands:
  ping        Obtain the shared cache client and ping the remote service
  check-role  Evaluate role and tenant checks for a session
  help        Print this message or the help of the given subcommand(s)

Options:
      --config-file <PATH>
          Optional path to a configuration file [env: FANHUB_CONFIG_FILE=" ++ configFile ++ "]
      --log-level <LEVEL>
          Override the base log level (trace|debug|info|warn|error)
      --log-json <BOOL>
          Toggle JSON logging [possible values: true, false]
      --cache-url <URL>
          Override the remote cache base URL
      --cache-token <TOKEN>
          Override the remote cache access token
      --cache-request-timeout-ms <MILLIS>
          Override the per-request cache timeout
  -h, --help
          Print help
  -V, --version
          Print version
"

/-- How `ping` is used. -/
def pingHelp : String :=
  "Obtain the shared cache client and ping the remote service

Usage: fanhub ping [OPTIONS]

Options:
      --log-level <LEVEL>                  Override the base log level (trace|debug|info|warn|error)
      --log-json <BOOL>                    Toggle JSON logging [possible values: true, false]
      --cache-url <URL>                    Override the remote cache base URL
      --cache-token <TOKEN>                Override the remote cache access token
      --cache-request-timeout-ms <MILLIS>  Override the per-request cache timeout
  -h, --help                               Print help
"

/-- How `check-role` is used. -/
def checkRoleHelp : String :=
  "Evaluate role and tenant checks for a session

Usage: fanhub check-role [OPTIONS] --role <ROLE>

Options:
      --role <ROLE>
          Role held by the session
      --log-level <LEVEL>
          Override the base log level (trace|debug|info|warn|error)
      --tenant <TENANT>
          Tenant identifier carried by the session
      --log-json <BOOL>
          Toggle JSON logging [possible values: true, false]
      --user <USER>
          User identifier carried by the session
      --cache-url <URL>
          Override the remote cache base URL
      --minimum <ROLE>
          Minimum role for the rank check
      --allowed <ROLE>
          Roles accepted by the membership check; repeat or separate with commas
      --cache-token <TOKEN>
          Override the remote cache access token
      --cache-request-timeout-ms <MILLIS>
          Override the per-request cache timeout
  -h, --help
          Print help
"

/-- How `help` is used. -/
def helpHelp : String :=
  "Print this message or the help of the given subcommand(s)

Usage: fanhub help [COMMAND]...

Arguments:
  [COMMAND]...  Print help for the subcommand(s)
"

/-- How a level is used. -/
def Level.help (configFile : String) : Level → String
  | program => programHelp configFile
  | ping => pingHelp
  | checkRole => checkRoleHelp

/-! ### Errors -/

/-- What is wrong with the arguments. -/
inductive UsageError
  | unknownSubcommand (word : String)
  | unknownArgument (word : String)
  | missingFlag (flag : Flag)
  | missingValue (flag : Flag)
  | invalidValue (flag : Flag) (value reason : String)
  | repeatedFlag (flag : Flag)
  | needlessValue (name value : String)
deriving DecidableEq

/-- The words for what is wrong, without advice. -/
def UsageError.message : UsageError → String
  | unknownSubcommand word => "error: unrecognized subcommand '" ++ word ++ "'"
  | unknownArgument word => "error: unexpected argument '" ++ word ++ "' found"
  | missingFlag flag =>
    "error: the following required arguments were not provided:\n  " ++ flag.usage
  | missingValue flag =>
    "error: a value is required for '" ++ flag.usage ++ "' but none was supplied"
  | invalidValue flag value reason =>
    "error: invalid value '" ++ value ++ "' for '" ++ flag.usage ++ "': " ++ reason
  | repeatedFlag flag =>
    "error: the argument '" ++ flag.usage ++ "' cannot be used multiple times"
  | needlessValue name value =>
    "error: unexpected value '" ++ value ++ "' for '--" ++ name ++
      "' found; no more were expected"

/-- Why the program ends before it did anything: it was asked for a text, or the arguments are
wrong. -/
inductive Stop
  | help (text : String)
  | version
  | fault (e : UsageError)
deriving DecidableEq

namespace Stop

/-- The text that is shown, of which only what can be printed. -/
def message (s : Stop) : String :=
  printable <|
    match s with
    | help text => text
    | version => versionText
    | fault e => e.message

/-- The exit code of the program. -/
def exitCode : Stop → Nat
  | help _ => 0
  | version => 0
  | fault _ => 2

end Stop

end Stagehand.CommandLine
