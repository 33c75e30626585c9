import DiceTable.Decimal.Integer

/-! # Reading command-line arguments

Arguments are words and options. A long option may be cut short to any beginning that no other
option shares, and takes a value after an equals sign; a short option takes its value in the same
argument, and switches may be run together. After two dashes everything is a word; as a value they
stand for none. Options act in the order in which they come, so the first request for help or the
first misuse ends the reading.
-/

namespace DiceTable.Command

/-- What an option does. -/
inductive OptionKind where
  | help
  | version
  | switch
  | value
  | integer
  deriving DecidableEq, Repr

/-- An option under all its names; it is stored under `key`. -/
structure OptionSpec where
  key : String
  names : List String
  kind : OptionKind
  deriving DecidableEq, Repr

/-- What the words of a command line are good for. -/
inductive WordUse where
  | nothing
  /-- One run of words, of at least one. -/
  | run
  /-- A command and everything after it, whatever its form. -/
  | command
  deriving DecidableEq, Repr

/-- Why reading ends early. -/
inductive Halt where
  | help
  | version
  | misuse
  deriving DecidableEq, Repr

/-- What an option was given. -/
inductive Given where
  | set
  /-- Two dashes in the place of a value. -/
  | nothing
  | text (text : String)
  | number (n : Int)
  deriving DecidableEq, Repr

/-- What an option of a kind is given by a value. Two dashes take back what it was given before. -/
def OptionKind.given (kind : OptionKind) (value : List Char) : Except Halt Given :=
  if value = ['-', '-'] then .ok .nothing
  else if kind = .integer then
    match Decimal.Integer.read value with
    | .ok n => .ok (.number n)
    | .error _ => .error .misuse
  else .ok (.text (String.ofList value))

/-- An option that an argument names, and the text that comes in the same argument. -/
structure Hit where
  option : OptionSpec
  name : List Char
  attached : Option (List Char) := none
  deriving DecidableEq, Repr

inductive Shape where
  | word
  | dashes
  | option (hit : Hit)
  | unknown
  deriving DecidableEq, Repr

/-- The option of an exact name. -/
def named? (options : List OptionSpec) (name : List Char) : Option OptionSpec :=
  options.find? fun option => option.names.any (·.toList == name)

/-- The parts before and after the first equals sign. -/
def splitAtEquals (cs : List Char) : Option (List Char × List Char) :=
  match cs.dropWhile (· != '=') with
  | [] => none
  | _ :: value => some (cs.takeWhile (· != '='), value)

def allNames (options : List OptionSpec) : List (OptionSpec × List Char) :=
  options.flatMap fun option => option.names.map fun name => (option, name.toList)

/-- The options that an argument which is no exact name may mean. -/
def candidates (options : List OptionSpec) (argument : List Char) : List Hit :=
  match argument with
  | '-' :: '-' :: _ =>
    let (stem, attached) := match splitAtEquals argument with
      | some (stem, value) => (stem, some value)
      | none => (argument, none)
    (allNames options).filterMap fun (option, name) =>
      if stem.isPrefixOf name then some ⟨option, name, attached⟩ else none
  | _ =>
    (allNames options).filterMap fun (option, name) =>
      if name == argument.take 2 then some ⟨option, name, some (argument.drop 2)⟩
      else if argument.isPrefixOf name then some ⟨option, name, none⟩
      else none

/-- Whether an argument looks like a negative number, which makes it a word. -/
def isNegativeNumber (argument : List Char) : Bool :=
  let body := (if argument.getLast? = some '\n' then argument.dropLast else argument).drop 1
  let isDigit (c : Char) : Bool := (Text.decimalDigit? c).isSome
  (body ≠ [] && body.all isDigit) ||
    match body.dropWhile isDigit with
    | '.' :: decimals => decimals ≠ [] && decimals.all isDigit
    | _ => false

/-- The form of an argument in front of any two dashes. -/
def shapeOf (options : List OptionSpec) (argument : List Char) : Except Halt Shape :=
  if argument.head? ≠ some '-' then .ok .word
  else
    match named? options argument with
    | some option => .ok (.option ⟨option, argument, none⟩)
    | none =>
      if argument.length = 1 then .ok .word
      else
        match (splitAtEquals argument).bind fun (name, value) =>
            (named? options name).map fun option => Hit.mk option name (some value) with
        | some hit => .ok (.option hit)
        | none =>
          match candidates options argument with
          | [hit] => .ok (.option hit)
          | _ :: _ :: _ => .error .misuse
          | [] =>
            if isNegativeNumber argument || argument.contains ' ' then .ok .word
            else .ok .unknown

abbrev Shaped := String × Shape

def shapes (options : List OptionSpec) : List String → Except Halt (List Shaped)
  | [] => .ok []
  | argument :: rest =>
    if argument = "--" then .ok ((argument, .dashes) :: rest.map fun word => (word, .word))
    else do
      let shape ← shapeOf options argument.toList
      let more ← shapes options rest
      .ok ((argument, shape) :: more)

structure Reading where
  /-- What options were given, the latest first. -/
  given : List (String × Given) := []
  words : Option (List String) := none
  extras : List String := []
  deriving DecidableEq, Repr

namespace Reading

/-- What an option was given last. -/
def get? (reading : Reading) (key : String) : Option Given :=
  reading.given.lookup key

def text? (reading : Reading) (key : String) : Option String :=
  match reading.get? key with
  | some (.text text) => some text
  | _ => none

def number? (reading : Reading) (key : String) : Option Int :=
  match reading.get? key with
  | some (.number n) => some n
  | _ => none

def isSet (reading : Reading) (key : String) : Bool :=
  (reading.get? key).isSome

/-- Lets an option act, with its value if it takes one. -/
def act (reading : Reading) (option : OptionSpec) (value : List Char) : Except Halt Reading :=
  let store (given : Given) : Reading :=
    { reading with given := (option.key, given) :: reading.given }
  match option.kind with
  | .help => .error .help
  | .version => .error .version
  | .switch => .ok (store .set)
  | kind => (kind.given value).map store

/-- Adds arguments that nobody wants. -/
def addExtras (reading : Reading) (extras : List String) : Reading :=
  { reading with extras := reading.extras ++ extras }

end Reading

def OptionKind.takesValue : OptionKind → Bool
  | .value | .integer => true
  | _ => false

/-- An option and the value it acts with. -/
abbrev Action := OptionSpec × List Char

/-- The options that one argument holds: the first, and those run together with it. The last may
still wait for its value. -/
structure Cluster where
  actions : List Action
  waiting : Option OptionSpec := none

/-- Takes apart the options of one argument, where `text` is what follows the first. An option that
takes a value takes all of the text; behind any other the text goes on with a short option. -/
def cluster (options : List OptionSpec) (option : OptionSpec) :
    (text : List Char) → Except Halt Cluster
  | [] =>
    if option.kind.takesValue then .ok { actions := [], waiting := some option }
    else .ok { actions := [(option, [])] }
  | c :: rest =>
    if option.kind.takesValue then .ok { actions := [(option, c :: rest)] }
    else
      match named? options ['-', c] with
      | none => .error .misuse
      | some next => do
        let more ← cluster options next rest
        .ok { more with actions := (option, []) :: more.actions }

def isShortName : List Char → Bool
  | '-' :: '-' :: _ => false
  | _ => true

/-- The options of an argument. Only a text behind a short option may hold options of its own, and
a text that is there but empty is nothing but a value. -/
def Hit.cluster (options : List OptionSpec) (hit : Hit) : Except Halt Cluster :=
  match hit.attached with
  | none => Command.cluster options hit.option []
  | some text =>
    if hit.option.kind.takesValue then .ok { actions := [(hit.option, text)] }
    else if text = [] ∨ ¬isShortName hit.name then .error .misuse
    else Command.cluster options hit.option text

def actAll (reading : Reading) : List Action → Except Halt Reading
  | [] => .ok reading
  | (option, value) :: rest => do
    let reading ← reading.act option value
    actAll reading rest

def readOption (options : List OptionSpec) (reading : Reading) (hit : Hit) (rest : List Shaped) :
    Except Halt (Reading × List Shaped) := do
  let found ← hit.cluster options
  match found.waiting, rest with
  | none, _ => do
    let reading ← actAll reading found.actions
    .ok (reading, rest)
  | some option, (value, .word) :: rest => do
    let reading ← actAll reading (found.actions ++ [(option, value.toList)])
    .ok (reading, rest)
  | some _, _ => .error .misuse

def isPlain : Shaped → Bool
  | (_, .word) | (_, .dashes) => true
  | _ => false

/-- Takes the words at the front of the arguments, if there is a use for them. -/
def takeWords (use : WordUse) (reading : Reading) (arguments : List Shaped) :
    Option (Reading × List Shaped) :=
  let lead := arguments.takeWhile isPlain
  if reading.words.isSome || !lead.any (fun argument => argument.2 == .word) then none
  else
    match use with
    | .nothing => none
    | .run =>
      some ({ reading with words := some ((lead.map Prod.fst).erase "--") },
        arguments.dropWhile isPlain)
    | .command => some ({ reading with words := some (arguments.map Prod.fst) }, [])

/-- Reads arguments, of which there are at most `fuel`. -/
def readShaped (options : List OptionSpec) (use : WordUse) :
    (fuel : Nat) → Reading → List Shaped → Except Halt Reading
  | 0, reading, _ => .ok reading
  | fuel + 1, reading, arguments =>
    match takeWords use reading arguments with
    | some (reading, rest) => readShaped options use fuel reading rest
    | none =>
      let reading := reading.addExtras ((arguments.takeWhile isPlain).map Prod.fst)
      match arguments.dropWhile isPlain with
      | (_, .option hit) :: rest => do
        let (reading, rest) ← readOption options reading hit rest
        readShaped options use fuel reading rest
      | (argument, _) :: rest => readShaped options use fuel (reading.addExtras [argument]) rest
      | [] => .ok reading

def readArguments (options : List OptionSpec) (use : WordUse) (arguments : List String) :
    Except Halt Reading := do
  let shaped ← shapes options arguments
  readShaped options use (shaped.length + 1) {} shaped

end DiceTable.Command
