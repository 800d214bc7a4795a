import HostNet.Agent.Arguments
import HostNet.Text.Visible
/-!
What the agent says about itself. Help is laid out for a terminal, with the options in bold, and
shown without terminal control; values of variables go the same way.
-/
namespace HostNet.Agent

open HostNet.Text

def versionText : String := "nodenet-agent 0.3.0\n"

def bold (text : String) : String :=
  "\x1b[1m" ++ text ++ "\x1b[0m"

def descriptionColumn : Nat := 31

/-- A text of several lines as part of a description. -/
def indented (text : String) : String :=
  String.ofList (text.toList.flatMap fun c =>
    if c = '\n' then '\n' :: List.replicate descriptionColumn ' ' else [c])

/-- A variable that may stand for an option, with its value. -/
def variableNote (environment : Environment) (name : String) : String :=
  " [env: " ++ name ++ "=" ++ indented ((environment.lookup name).getD "") ++ "]"

def lines (texts : List String) : String :=
  String.join (texts.map (· ++ "\n"))

/-- The help on a topic as it is laid out. -/
def helpLayout (environment : Environment) : Topic → String
  | .agent => lines [
      "Node network reconciliation",
      "",
      "Usage: nodenet-agent [OPTIONS] <COMMAND>",
      "",
      "Commands:",
      "  apply  Converge the host to the configured features",
      "  reset  Remove everything the features install",
      "  show   Print the derived state and feature without touching the host",
      "  help   Print this message or the help of the given subcommand(s)",
      "",
      "Options:",
      "  " ++ bold "-c" ++ ", " ++ bold "--config" ++
        " <CONFIG>        Configuration file (YAML)" ++
        variableNote environment configVariable,
      "      " ++ bold "--node-name" ++ " <NODE_NAME>  Name of the node this agent runs on" ++
        variableNote environment nodeVariable,
      "      " ++ bold "--node-file" ++ " <NODE_FILE>  " ++
        "Read the node object from a YAML or JSON file instead of the API server",
      "  " ++ bold "-h" ++ ", " ++ bold "--help" ++ "                   Print help",
      "  " ++ bold "-V" ++ ", " ++ bold "--version" ++ "                Print version"]
  | .apply => lines [
      "Converge the host to the configured features",
      "",
      "Usage: nodenet-agent apply",
      "",
      "Options:",
      "  -h, --help  Print help"]
  | .reset => lines [
      "Remove everything the features install",
      "",
      "Usage: nodenet-agent reset",
      "",
      "Options:",
      "  -h, --help  Print help"]
  | .show => lines [
      "Print the derived state and feature without touching the host",
      "",
      "Usage: nodenet-agent show [OPTIONS]",
      "",
      "Options:",
      "  -f, --format <FORMAT>  Output format [default: yaml] [possible values: yaml, json]",
      "  -h, --help             Print help"]
  | .help => lines [
      "Print this message or the help of the given subcommand(s)",
      "",
      "Usage: nodenet-agent help [COMMAND]...",
      "",
      "Arguments:",
      "  [COMMAND]...  Print help for the subcommand(s)"]

def helpText (environment : Environment) (topic : Topic) : String :=
  visible (helpLayout environment topic)

end HostNet.Agent
