/-
The command line of the program: options for every command, a command, and the
options of that command.
-/
import BillingAccess.Command.Basic
import BillingAccess.CommandLine.Grammar
import BillingAccess.Settings.Load

namespace BillingAccess

/-- What a command line says. -/
structure Arguments where
  /-- The settings file, if it is not in its usual place. -/
  config : Option String := none
  verbose : Bool := false
  jsonLogs : Bool := false
  overrides : Overrides := {}
  command : Command := .status
deriving Repr, DecidableEq

namespace CommandLine

def helpSwitch : Switch := ⟨"help", some 'h', .help⟩
def userSwitch : Switch := ⟨"user", some 'u', .value .text⟩
def jsonSwitch : Switch := ⟨"json", some 'j', .flag⟩
def currencySwitch : Switch := ⟨"currency", none, .value .text⟩
def limitSwitch : Switch := ⟨"limit", some 'l', .value .count⟩
def offsetSwitch : Switch := ⟨"offset", none, .value .count⟩

/-- A command as it is written, and how it is made from its line. -/
structure Form where
  name : String
  switches : List Switch := []
  operands : Nat := 0
  make : Line → Except Refusal Command

/-- A form that is always complete. -/
def Form.simple (name : String) (switches : List Switch) (make : Line → Command) : Form :=
  { name := name, switches := switches, make := fun line => .ok (make line) }

def countOf (line : Line) (name : String) : Option UInt32 :=
  (line.value? name).bind readCount?

def pageOf (line : Line) : Billing.Page :=
  ⟨countOf line "limit", countOf line "offset"⟩

/-- How long a sign-in waits if nothing is said, in seconds. -/
def usualPatience : UInt64 := 300

def forms : List Form := [
  .simple "login" [⟨"no-browser", none, .flag⟩, ⟨"listen", none, .flag⟩,
      ⟨"listen-timeout", none, .value .seconds⟩] fun line =>
    .login (line.has "no-browser") (line.has "listen")
      (((line.value? "listen-timeout").bind readSeconds?).getD usualPatience),
  { name := "callback", operands := 1
    make := fun line =>
      match line.operands with
      | url :: _ => .ok (.callback url)
      | [] => .error .missingOperand },
  .simple "whoami" [] fun _ => .whoami,
  .simple "status" [] fun _ => .status,
  .simple "logout" [] fun _ => .logout,
  .simple "refresh" [] fun _ => .refresh,
  .simple "balance" [userSwitch, currencySwitch, jsonSwitch] fun line =>
    .balance (line.value? "user") ((line.value? "currency").getD "usd") (line.has "json"),
  .simple "plans" [jsonSwitch] fun line => .plans (line.has "json"),
  .simple "subscriptions" [userSwitch, jsonSwitch] fun line =>
    .subscriptions (line.value? "user") (line.has "json"),
  .simple "transactions" [userSwitch, limitSwitch, offsetSwitch, currencySwitch, jsonSwitch]
    fun line => .transactions (line.value? "user")
      ⟨countOf line "limit", countOf line "offset", line.value? "currency"⟩ (line.has "json"),
  .simple "usage" [userSwitch, jsonSwitch] fun line =>
    .usage (line.value? "user") (line.has "json"),
  .simple "invoices" [userSwitch, limitSwitch, offsetSwitch, jsonSwitch] fun line =>
    .invoices (line.value? "user") (pageOf line) (line.has "json")]

def Form.grammar (form : Form) : Grammar where
  switches := helpSwitch :: form.switches
  operands := form.operands

/-- Reads the words after the name of a command. -/
def Form.read (form : Form) (words : List String) : Except Refusal Command := do
  let (line, _) ← form.grammar.takeWords {} words
  form.make (← line.settle)

/-- The options for every command stand before it. -/
def mainGrammar : Grammar where
  switches := [
    ⟨"config", some 'c', .value .text⟩,
    ⟨"verbose", some 'v', .flag⟩,
    ⟨"json-logs", none, .flag⟩,
    ⟨"storage", none, .value .text⟩,
    ⟨"storage-path", none, .value .path⟩,
    ⟨"api-url", none, .value .text⟩,
    helpSwitch,
    ⟨"version", some 'V', .version⟩]
  commands := forms.map Form.name ++ ["help"]

/-- What comes of a wish for help on a command. -/
def helpOn : List String → Refusal
  | [] => .help
  | [name] => if mainGrammar.commands.contains name then .help else .unknownCommand
  | _ => .unknownCommand

/-- The arguments on a complete line. -/
def argumentsOf (line : Line) (command : Command) : Arguments where
  config := line.value? "config"
  verbose := line.has "verbose"
  jsonLogs := line.has "json-logs"
  overrides := {
    storage := line.value? "storage"
    storagePath := line.value? "storage-path"
    apiUrl := line.value? "api-url" }
  command := command

/-- Reads a command line without the name of the program.  What is wrong with
the words of a command is found before a value that stands in front of it. -/
def read (words : List String) : Except Refusal Arguments := do
  match ← mainGrammar.takeWords {} words with
  | (line, none) =>
      let line ← line.settle
      throw (if line.given = [] then .nothing else .missingCommand)
  | (line, some (name, rest)) =>
      match forms.find? (·.name == name) with
      | none => throw (helpOn rest)
      | some form =>
          let command ← form.read rest
          return argumentsOf (← line.settle) command

example : (read ["-vc", "x", "status"]).toOption
    = some { config := some "x", verbose := true, command := .status } := by
  decide +kernel

end CommandLine

end BillingAccess
