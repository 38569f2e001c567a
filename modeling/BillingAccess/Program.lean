/-
The whole program: from the words of a command line to what is printed and the
code with which it ends.
-/
import BillingAccess.Command.Run
import BillingAccess.CommandLine.Arguments

namespace BillingAccess

/-- How the program ends. -/
structure Ending where
  code : Nat
  /-- What is written beside the output. -/
  complaint : String := ""
deriving Repr, DecidableEq

namespace Program

def name : String := "hanzo-commerce"
def version : String := "0.1.0"

/-- The lines of help: the options and the commands. -/
def helpText : String :=
  let switchText (switch : CommandLine.Switch) : String :=
    "  " ++ (match switch.letter with
      | some c => String.ofList ['-', c, ',', ' ']
      | none => "    ") ++ "--" ++ switch.name
  String.intercalate "\n" (
    ["Usage: " ++ name ++ " [options] <command>", "", "Commands:"]
    ++ CommandLine.mainGrammar.commands.map ("  " ++ ·)
    ++ ["", "Options:"]
    ++ CommandLine.mainGrammar.switches.map switchText)

/-- What is said of a command line that cannot be carried out. -/
def complaintOf : CommandLine.Refusal → String
  | .help | .version => ""
  | .nothing => helpText
  | .unknownWord => "error: unexpected argument"
  | .unknownCommand => "error: unrecognized subcommand"
  | .missingCommand => "error: a subcommand is required"
  | .missingOperand => "error: a required argument was not provided"
  | .missingValue => "error: a value is required"
  | .unneededValue => "error: unexpected value"
  | .malformedValue => "error: invalid value"
  | .repeated => "error: an argument cannot be used multiple times"

/-- How the program ends when a command line is not carried out: well, if it
only asked for help or for the version. -/
def refusalEnding (refusal : CommandLine.Refusal) : Ending :=
  match refusal with
  | .help | .version => ⟨0, ""⟩
  | other => ⟨2, complaintOf other ++ "\n"⟩

def refusalOutput : CommandLine.Refusal → List String
  | .help => [helpText]
  | .version => [name ++ " " ++ version]
  | _ => []

/-- Whether texts are shown in colours: as the environment says, or else on a
terminal. -/
def showsColors (env : Environment) (terminal : Bool) : Bool :=
  if (env.get? "CLICOLOR_FORCE").any (· ≠ "0") then true
  else if (env.get? "NO_COLOR").isSome then false
  else terminal && (env.get? "CLICOLOR").all (· ≠ "0")

/-- Where the settings are: where the command line says, or in the usual place. -/
def settingsPath (arguments : Arguments) (env : Environment) : Path :=
  ⟨(arguments.config.or env.settingsPath?).getD "config.yaml"⟩

/-- The settings, if they can be loaded and are sound. -/
def loadSettings (path : Path) (env : Environment) (overrides : Overrides) (disk : Disk) :
    Except Fault Settings := do
  let settings ← Settings.load path disk env overrides
  settings.validate
  return settings

/-- The variables that the program asks for. -/
def knownVariables : List String :=
  ["HOME", "XDG_CONFIG_HOME", "XDG_DATA_HOME", "CLICOLOR", "CLICOLOR_FORCE", "NO_COLOR",
    "HANZO_COMMERCE_IAM_URL", "HANZO_COMMERCE_CLIENT_ID", "HANZO_COMMERCE_REDIRECT_URI",
    "HANZO_COMMERCE_API_URL", "HANZO_COMMERCE_TIMEOUT_SECS", "HANZO_COMMERCE_TOKEN",
    "HANZO_COMMERCE_STORAGE", "HANZO_COMMERCE_STORAGE_PATH"]

/-- The session file, if the settings name one. -/
def sessionPath? (settings : Settings) (env : Environment) : Option Path :=
  if settings.storage.backend = "file" then (settings.storage.filePath? env).map Path.mk else none

/-- The files that a command line is about, as far as a disk tells: the settings,
and the session once the settings are on the disk. -/
def files (words : List String) (env : Environment) (disk : Disk) : List Path :=
  match CommandLine.read words with
  | .error _ => []
  | .ok arguments =>
      let path := settingsPath arguments env
      path :: match loadSettings path env arguments.overrides disk with
        | .ok settings => (sessionPath? settings env).toList
        | .error _ => []

/-- Carries out what a command line says. -/
def carryOut (arguments : Arguments) (env : Environment) (terminal : Bool) : Command.Step Unit := do
  let disk := (← get).store.disk
  let settings ← Action.ofExcept
    (loadSettings (settingsPath arguments env) env arguments.overrides disk)
  arguments.command.run ⟨settings, env, showsColors env terminal⟩

/-- Runs the program. -/
def run (words : List String) (env : Environment) (terminal : Bool) (w : World Vault) :
    Ending × World Vault :=
  match CommandLine.read words with
  | .error refusal =>
      (refusalEnding refusal, { w with
        printed := w.printed ++ String.join ((refusalOutput refusal).map (· ++ "\n")) })
  | .ok arguments =>
      match (carryOut arguments env terminal).runFrom w with
      | (.ok _, w) => (⟨0, ""⟩, w)
      | (.error fault, w) => (⟨1, fault.report⟩, w)

end Program

end BillingAccess
