import DiceTable.Command.Invocation
import DiceTable.Dice.Input
import DiceTable.Json.Display
import DiceTable.Notify
import DiceTable.Settings.Section
import DiceTable.Version

/-! # Running a command

A run takes a command line, a configuration, the behaviour of the network and the state of a source
of random integers. It gives what is printed, what is sent, which service would be started, and how
the run ends. What was printed before a failure stays printed.
-/

namespace DiceTable.Command

/-- The HTTP service that a run starts. -/
structure Serving where
  app : String := "rollbox.main:app"
  host : Json
  port : Json
  reload : Bool
  logLevel : String := "info"
  deriving Repr

/-- Why a run breaks off. -/
inductive Trouble where
  | failure (failure : Failure)
  | config (error : Settings.ConfigError)
  deriving DecidableEq, Repr

inductive Ending where
  /-- The command is done, with an exit code. -/
  | done (code : Nat)
  /-- No command was run. -/
  | exited (code : Nat)
  | broken (trouble : Trouble)
  deriving DecidableEq, Repr

structure Run (σ : Type) where
  ending : Ending
  stdout : String := ""
  stderr : String := ""
  served : List Serving := []
  sent : List Transmission := []
  dice : σ

def bannerLines : List String :=
  ["",
    "    ╔══════════════════════════════════════════════╗",
    "    ║                                              ║",
    "    ║   ┌─────┐  ┌─────┐                           ║",
    "    ║   │ ●   │  │ ● ● │    R O L L B O X          ║",
    "    ║   │  ●  │  │     │                           ║",
    "    ║   │   ● │  │ ● ● │    Roll it. Read it.      ║",
    "    ║   └─────┘  └─────┘    Roll it again.         ║",
    "    ║                                              ║",
    "    ║   v" ++ version ++ "".pushn ' ' (42 - version.length) ++ "║",
    "    ╚══════════════════════════════════════════════╝",
    ""]

/-- Texts, each with a line feed after it. -/
def printed (lines : List String) : String :=
  String.join (lines.map (· ++ "\n"))

def banner : String := printed bannerLines

/-- Prints lines up to the first one that cannot be made. -/
def printWhile : List (Except Settings.ConfigError String) →
    String × Option Settings.ConfigError
  | [] => ("", none)
  | .error error :: _ => ("", some error)
  | .ok line :: rest =>
    let (more, error) := printWhile rest
    (line ++ "\n" ++ more, error)

section Lines

open Settings

variable (config : Members)

/-- A value as it is shown, or a text in its place where it is void. -/
def shownOr (value : Option Json) (absent : String) : String :=
  match value with
  | none => absent
  | some value => if value.isVoid then absent else value.display

def webhookLine (start : String) : Except ConfigError String := do
  let notifier ← requiredSection config "notifier"
  .ok (start ++ shownOr (notifier.get? "webhook_url") "disabled")

def serverAddress : Except ConfigError String := do
  let host ← required config "server" "host"
  let port ← required config "server" "port"
  .ok (host.display ++ ":" ++ port.display)

/-- The log file as it is shown behind the level, where there is one. -/
def logFile (logging : Members) : Except ConfigError String :=
  match logging.get? "file" with
  | none => .ok ""
  | some value =>
    if value.isVoid then .ok ""
    else
      match value with
      | .str file => .ok (" → " ++ file)
      | value => .error (.unusable .appendedText value.typeName)

/-- The lines that show the configuration. -/
def flashLines : List (Except ConfigError String) :=
  [.ok "  Configuration",
    do
      let address ← serverAddress config
      .ok ("  ├─ Server:     " ++ address),
    do
      let limit ← required config "dice" "max_expression_length"
      .ok ("  ├─ Max expr:   " ++ limit.display ++ " chars"),
    do
      let dice ← requiredSection config "dice"
      .ok ("  ├─ Max dice:   " ++ ((dice.get? "max_dice").getD (.str "-")).display ++
        " per roll"),
    do
      let entries ← required config "memory" "max_entries"
      .ok ("  ├─ Memory:     " ++ entries.display ++ " rolls"),
    webhookLine config "  ├─ Webhook:    ",
    do
      let logging ← requiredSection config "logging"
      let file ← logFile logging
      .ok ("  └─ Logging:    " ++ ((logging.get? "level").getD (.str "INFO")).display ++ file)]

end Lines

section Commands

variable {σ : Type} (config : Members) (dice : σ)

/-- Ends a run by the lines that it prints. -/
def printRun (start : String) (lines : List (Except Settings.ConfigError String))
    (served : List Serving) : Run σ :=
  match printWhile lines with
  | (text, none) => { ending := .done 0, stdout := start ++ text, served, dice }
  | (text, some error) => { ending := .broken (.config error), stdout := start ++ text, dice }

/-- The dice limit of the configuration, whose section has to be there. -/
def configuredLimit : Except Settings.ConfigError Limit := do
  let members ← Settings.requiredSection config "dice"
  .ok (Settings.limitOr members "max_dice" defaultDiceLimit)

/-- Rolls the words of the command line, joined by spaces. -/
def rollRun (source : Source σ) (words : List String) (user : String) (asJson : Bool) : Run σ :=
  match configuredLimit config with
  | .error error => { ending := .broken (.config error), dice }
  | .ok limit =>
    match source.evaluate limit (" ".intercalate words) dice with
    | (.ok result, dice) =>
      { ending := .done 0
        stdout := (if asJson then (Json.obj result.members).indented
          else Render.text result user) ++ "\n"
        dice }
    | (.error (.dice error), dice) =>
      if asJson then
        { ending := .done 1, stdout := (Json.obj error.report.members).line ++ "\n", dice }
      else { ending := .done 1, stderr := Render.error error.report ++ "\n", dice }
    | (.error failure, dice) => { ending := .broken (.failure failure), dice }

/-- The host and the port to serve on: those of the command line, where it gives any. -/
def servingAddress (host : String) (port : Option Int) :
    Except Settings.ConfigError (Json × Json) := do
  let host ← if host = "" then Settings.required config "server" "host" else .ok (.str host)
  let port ← match port with
    | some n => if n = 0 then Settings.required config "server" "port" else .ok (.int n)
    | none => Settings.required config "server" "port"
  .ok (host, port)

def serveRun (host : String) (port : Option Int) (reload : Bool) : Run σ :=
  match servingAddress config host port with
  | .error error => { ending := .broken (.config error), dice }
  | .ok (host, port) =>
    printRun dice banner
      [.ok ("  Listening on " ++ host.display ++ ":" ++ port.display),
        webhookLine config "  Webhook: ", .ok ""]
      [{ host, port, reload }]

/-- What a running service answers, put in words, and the exit code. -/
def ringAnswer (network : Network) (url : String) : Except Settings.ConfigError (String × Nat) :=
  match network.outage with
  | some .connect => .ok ("  ✗  Nothing at " ++ url, 1)
  | some .send | some .read => .ok ("  ✗  Error: " ++ network.failureText.getD "timed out", 1)
  | _ =>
    let status := network.status.getD 200
    if status ≠ 200 then .ok ("  ✗  No answer — got HTTP " ++ Decimal.text status, 1)
    else
      match network.data with
      | .obj members =>
        .ok ("  🎲 " ++ url ++ " is UP (v" ++ ((Members.get? members "version").getD
          (.str "?")).display ++ ")", 0)
      | value => .error (.noSection value.typeName)

/-- Asks a running service how it is. -/
def ringRun (network : Network) (url : String) : Run σ :=
  let target := if url = "" then (serverAddress config).map ("http://" ++ ·) else .ok url
  match target with
  | .error error => { ending := .broken (.config error), dice }
  | .ok url =>
    let sent := [Transmission.get (url ++ "/health")]
    match ringAnswer network url with
    | .ok (line, code) => { ending := .done code, stdout := line ++ "\n", sent, dice }
    | .error error => { ending := .broken (.config error), sent, dice }

def Invocation.run (source : Source σ) (network : Network) (help : String) : Invocation → Run σ
  | .roll words user asJson => rollRun config dice source words user asJson
  | .serve host port reload => serveRun config dice host port reload
  | .ring url => ringRun config dice network url
  | .flash => printRun dice banner (flashLines config) []
  | .tone => { ending := .done 0, stdout := banner, dice }
  | .bare => { ending := .done 0, stdout := banner ++ help, dice }

/-- Runs a command line; `help` is what is printed where help is asked for. -/
def run (source : Source σ) (network : Network) (help : String) (arguments : List String) : Run σ :=
  match Invocation.ofArguments arguments with
  | .ok invocation => invocation.run config dice source network help
  | .error .help => { ending := .exited 0, stdout := help, dice }
  | .error .version => { ending := .exited 0, stdout := "rollbox " ++ version ++ "\n", dice }
  | .error .misuse => { ending := .exited 2, dice }

end Commands

end DiceTable.Command
