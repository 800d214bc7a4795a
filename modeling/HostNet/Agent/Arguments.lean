/-!
The agent's command line: a list of arguments and the environment, read into what is asked for.
Reading stops at the first argument that settles the matter, be it a mistake or a request for help.
-/
namespace HostNet.Agent

abbrev Environment : Type :=
  List (String × String)

/-- The notations a plan can be shown in. -/
inductive Format where
  | yaml
  | json
deriving DecidableEq, Repr

def Format.ofName? (name : String) : Option Format :=
  if name = "yaml" then some yaml else if name = "json" then some json else none

/-- What the agent is to do. -/
inductive Command where
  /-- Bring the features about. -/
  | apply
  /-- Take away what the features install. -/
  | reset
  /-- Print the plan. -/
  | show (format : Format)
deriving DecidableEq, Repr

/-- A complete command line. -/
structure Arguments where
  configFile : Option String
  nodeName : Option String
  nodeFile : Option String
  command : Command
deriving DecidableEq, Repr

/-- What help can be asked about. -/
inductive Topic where
  | agent
  | apply
  | reset
  | show
  | help
deriving DecidableEq, Repr

/-- What a command line asks for. -/
inductive Request where
  | run (arguments : Arguments)
  | version
  | help (topic : Topic)
  | misuse
deriving DecidableEq, Repr

/-- One argument, by its form. -/
inductive Argument where
  /-- Two hyphens, behind which everything is a plain word. -/
  | separator
  /-- Two hyphens and a name, with a value behind an equals sign. -/
  | long (name : String) (value : Option String)
  /-- One hyphen and letters, the first of them apart. -/
  | short (letter : Char) (tail : List Char)
  | word (text : String)
deriving DecidableEq, Repr

def splitAtEquals (text : List Char) : String × Option String :=
  match text.dropWhile (· != '=') with
  | _ :: value => (String.ofList (text.takeWhile (· != '=')), some (String.ofList value))
  | [] => (String.ofList text, none)

def Argument.ofText (text : String) : Argument :=
  match text.toList with
  | ['-', '-'] => .separator
  | '-' :: '-' :: rest =>
    let (name, value) := splitAtEquals rest
    .long name value
  | '-' :: letter :: tail => .short letter tail
  | _ => .word text

/-- The value of an option and the arguments behind it. A value attached to the option comes first;
otherwise it is the next argument, unless that is an option itself. -/
def takeValue (attached : Option String) (rest : List String) : Option (String × List String) :=
  match attached with
  | some value => some (value, rest)
  | none =>
    match rest with
    | [] => none
    | next :: rest =>
      match Argument.ofText next with
      | .word value => some (value, rest)
      | _ => none

/-- The value attached to a short option: what follows its letter, but for an equals sign. -/
def attachedValue : List Char → Option String
  | [] => none
  | '=' :: value => some (String.ofList value)
  | value => some (String.ofList value)

/-- The options that come before the command. -/
inductive Setting where
  | configFile
  | nodeName
  | nodeFile
deriving DecidableEq, Repr

def Setting.ofName? (name : String) : Option Setting :=
  if name = "config" then some configFile
  else if name = "node-name" then some nodeName
  else if name = "node-file" then some nodeFile
  else none

/-- Whether a setting is the path of a file, which is not empty. -/
def Setting.isPath : Setting → Bool
  | configFile => true
  | nodeName => false
  | nodeFile => true

abbrev Settings : Type :=
  List (Setting × String)

/-- The settings with one more, which must be new. -/
def Settings.add? (settings : Settings) (setting : Setting) (value : String) : Option Settings :=
  if (settings.lookup setting).isSome || (setting.isPath && value.isEmpty) then none
  else some ((setting, value) :: settings)

/-- A setting from the command line, or else from the environment. -/
def Settings.orVariable (settings : Settings) (setting : Setting) (name : String)
    (environment : Environment) : Option String :=
  (settings.lookup setting).or (environment.lookup name)

/-- The settings given so far. The value of the last one is yet to be checked where it is an
argument of its own: that waits for the next option, or for the end of the command line, so that a
request for help may come before it. -/
structure Given where
  checked : Settings
  pending : Option (Setting × String)
deriving DecidableEq, Repr

namespace Given

def nothing : Given :=
  ⟨[], none⟩

def settle? (given : Given) : Option Settings :=
  match given.pending with
  | none => some given.checked
  | some (setting, value) => given.checked.add? setting value

/-- One more setting, whose value is attached to it. -/
def attach? (given : Given) (setting : Setting) (value : String) : Option Given := do
  let settings ← given.settle?
  return ⟨← settings.add? setting value, none⟩

/-- One more setting, whose value is the next argument. -/
def hold? (given : Given) (setting : Setting) (value : String) : Option Given :=
  given.settle?.map fun settings => ⟨settings, some (setting, value)⟩

end Given

def configVariable : String := "NODENET_CONFIG"

def nodeVariable : String := "NODE_NAME"

/-- What a command with the settings asks for. A node cannot be both named and read from a file. -/
def Settings.request (settings : Settings) (environment : Environment) (command : Command) :
    Request :=
  let configFile := settings.orVariable .configFile configVariable environment
  let nodeName := settings.orVariable .nodeName nodeVariable environment
  let nodeFile := settings.lookup .nodeFile
  if configFile = some "" then .misuse
  else if nodeName.isSome && nodeFile.isSome then .misuse
  else .run ⟨configFile, nodeName, nodeFile, command⟩

def Given.request (given : Given) (environment : Environment) (command : Command) : Request :=
  given.settle?.elim .misuse fun settings => settings.request environment command

/-- The arguments behind a command that has no options but help. -/
def readBare (topic : Topic) (request : Request) : List String → Request
  | [] => request
  | argument :: rest =>
    match Argument.ofText argument with
    | .separator => if rest.isEmpty then request else .misuse
    | .long "help" none => .help topic
    | .short 'h' _ => .help topic
    | _ => .misuse

/-- The arguments behind the command that shows the plan. -/
def readShow (fuel : Nat) (given : Option Format) (request : Format → Request)
    (arguments : List String) : Request :=
  match fuel, arguments with
  | 0, _ => .misuse
  | _, [] => request (given.getD .yaml)
  | fuel + 1, argument :: rest =>
    let format := fun attached =>
      match takeValue attached rest with
      | none => Request.misuse
      | some (value, rest) =>
        match given, Format.ofName? value with
        | none, some format => readShow fuel (some format) request rest
        | _, _ => .misuse
    match Argument.ofText argument with
    | .separator => if rest.isEmpty then request (given.getD .yaml) else .misuse
    | .long "help" none => .help .show
    | .short 'h' _ => .help .show
    | .long "format" value => format value
    | .short 'f' tail => format (attachedValue tail)
    | _ => .misuse

def readHelp : List String → Request
  | [] => .help .agent
  | ["apply"] => .help .apply
  | ["reset"] => .help .reset
  | ["show"] => .help .show
  | ["help"] => .help .help
  | _ => .misuse

def readCommand (given : Given) (environment : Environment) (command : String)
    (rest : List String) : Request :=
  if command = "apply" then readBare .apply (given.request environment .apply) rest
  else if command = "reset" then readBare .reset (given.request environment .reset) rest
  else if command = "show" then
    readShow (rest.length + 1) none
      (fun format => given.request environment (.show format)) rest
  else if command = "help" then readHelp rest
  else .misuse

/-- The arguments up to the command, and those behind it. -/
def readSettings (fuel : Nat) (given : Given) (environment : Environment)
    (arguments : List String) : Request :=
  match fuel, arguments with
  | 0, _ => .misuse
  | _, [] => .misuse
  | fuel + 1, argument :: rest =>
    let set := fun setting (attached : Option String) =>
      match takeValue attached rest with
      | none => Request.misuse
      | some (value, rest) =>
        let more := if attached.isSome then given.attach? setting value
          else given.hold? setting value
        match more with
        | none => .misuse
        | some given => readSettings fuel given environment rest
    let settled := fun request => if given.settle?.isSome then request else Request.misuse
    match Argument.ofText argument with
    | .separator => .misuse
    | .long "help" none => settled (.help .agent)
    | .short 'h' _ => settled (.help .agent)
    | .long "version" none => settled .version
    | .short 'V' _ => settled .version
    | .short 'c' tail => set .configFile (attachedValue tail)
    | .long name value =>
      match Setting.ofName? name with
      | none => .misuse
      | some setting => set setting value
    | .short _ _ => .misuse
    | .word command => readCommand given environment command rest

def readArguments (environment : Environment) (arguments : List String) : Request :=
  readSettings (arguments.length + 1) .nothing environment arguments

end HostNet.Agent
