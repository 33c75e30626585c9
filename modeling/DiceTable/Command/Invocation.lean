import DiceTable.Command.Arguments

/-! # Command lines

A command line names a command, under its own name or another one, and gives the command its
options and words.
-/

namespace DiceTable.Command

/-- What a command line asks for. -/
inductive Invocation where
  | roll (words : List String) (user : String) (asJson : Bool)
  | serve (host : String) (port : Option Int) (reload : Bool)
  | ring (url : String)
  | flash
  | tone
  /-- No command at all. -/
  | bare
  deriving DecidableEq, Repr

inductive Verb where
  | roll
  | serve
  | ring
  | flash
  | tone
  deriving DecidableEq, Repr

namespace Verb

def ofName? : String → Option Verb
  | "roll" | "r" => some .roll
  | "serve" | "dial" | "start" | "up" => some .serve
  | "ring" | "status" | "ping" => some .ring
  | "flash" | "info" | "config" => some .flash
  | "tone" | "banner" => some .tone
  | _ => none

/-- The option that every command has. -/
def helpOption : OptionSpec := ⟨"help", ["-h", "--help"], .help⟩

def options : Verb → List OptionSpec
  | .roll => [helpOption, ⟨"user", ["--user", "-u"], .value⟩, ⟨"json", ["--json"], .switch⟩]
  | .serve =>
    [helpOption, ⟨"host", ["--host"], .value⟩, ⟨"port", ["--port", "-p"], .integer⟩,
      ⟨"reload", ["--reload"], .switch⟩]
  | .ring => [helpOption, ⟨"url", ["--url"], .value⟩]
  | .flash | .tone => [helpOption]

def wordUse : Verb → WordUse
  | .roll => .run
  | _ => .nothing

end Verb

/-- The options in front of a command. -/
def programOptions : List OptionSpec :=
  [Verb.helpOption, ⟨"version", ["--version", "-V"], .version⟩]

namespace Invocation

/-- The invocation of a command with what has been read for it. -/
def ofReading (verb : Verb) (reading : Reading) : Except Halt Invocation :=
  match verb with
  | .roll =>
    match reading.words with
    | none => .error .misuse
    | some words => .ok (.roll words ((reading.text? "user").getD "") (reading.isSet "json"))
  | .serve =>
    .ok (.serve ((reading.text? "host").getD "") (reading.number? "port") (reading.isSet "reload"))
  | .ring => .ok (.ring ((reading.text? "url").getD ""))
  | .flash => .ok .flash
  | .tone => .ok .tone

/-- The invocation of a command, and the arguments after it that nobody wants. -/
def ofCommand (name : String) (arguments : List String) :
    Except Halt (Invocation × List String) :=
  match Verb.ofName? name with
  | none => .error .misuse
  | some verb => do
    let reading ← readArguments verb.options verb.wordUse arguments
    let invocation ← ofReading verb reading
    .ok (invocation, reading.extras)

/-- The invocation that a command line spells. Arguments that nobody wants are a misuse. -/
def ofArguments (arguments : List String) : Except Halt Invocation := do
  let reading ← readArguments programOptions .command arguments
  let (invocation, extras) ← match reading.words with
    | some (name :: rest) => ofCommand name rest
    | _ => .ok (.bare, [])
  if reading.extras ++ extras = [] then .ok invocation else .error .misuse

end Invocation

end DiceTable.Command
