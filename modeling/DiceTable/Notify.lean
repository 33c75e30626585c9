import DiceTable.Decimal.Integer
import DiceTable.Json.Writer
import DiceTable.Log
import DiceTable.Record

/-! # Announcing rolls

A notifier sends every roll to one address: by an HTTP post, or as a line of JSON over TCP. What
goes wrong on the way is logged and otherwise ignored. How the network behaves is an input, and
what would be sent is the output, so that nothing here touches a network.
-/

namespace DiceTable

inductive Outage where
  | socket
  | connect
  /-- There is a connection, but what is sent does not get through. -/
  | send
  /-- The answer to an HTTP get does not come. -/
  | read
  deriving DecidableEq, Repr

structure Network where
  outage : Option Outage := none
  /-- The text of the failure, where it has one of its own. -/
  failureText : Option String := none
  /-- The status of answers, where it is not the usual one. -/
  status : Option Int := none
  /-- The body of answers. -/
  data : Json := .obj []
  /-- Whether there are only the ports that there can be. -/
  checksPorts : Bool := true
  deriving Repr

namespace Network

/-- Whether a line can be sent to a port once there is a socket. -/
def takesLine (network : Network) (port : Int) : Bool :=
  (!network.checksPorts || (0 ≤ port && port ≤ 65535)) &&
    network.outage ≠ some .connect && network.outage ≠ some .send

def failure (network : Network) : String :=
  network.failureText.getD "refused"

/-- The text of a failure to send a line to a port. -/
def lineFailure (network : Network) (port : Int) : String :=
  if network.checksPorts && !(0 ≤ port && port ≤ 65535) then
    "connect(): port must be 0-65535."
  else network.failure

end Network

/-- What is sent to announce a roll. -/
structure Payload where
  time : String
  rollId : String
  expression : String
  rerolledFrom : Option String
  embed : Embed
  deriving DecidableEq, Repr

namespace Payload

/-- The announcement of a record at a time, with an embed that is made at a time of its own. -/
def ofRecord (record : RollRecord) (now embedTime : String) : Payload where
  time := now
  rollId := record.id
  expression := record.result.canonical
  rerolledFrom := record.rerolledFrom
  embed := Render.embed record.result record.user embedTime

def fieldJson (field : Field) : Json :=
  .obj [("name", .str field.name), ("value", .str field.value), ("inline", .bool field.inline)]

def embedJson (embed : Embed) : Json :=
  .obj [("title", .str embed.title), ("color", .int embed.colour),
    ("fields", .arr (embed.fields.map fieldJson)),
    ("footer", .obj [("text", .str embed.footer)]), ("timestamp", .str embed.timestamp)]

def json (payload : Payload) : Json :=
  .obj [("ts", .str payload.time), ("roll_id", .str payload.rollId),
    ("expression", .str payload.expression), ("rerolled_from", .optional payload.rerolledFrom),
    ("embeds", .arr [embedJson payload.embed])]

/-- The line that carries a payload over TCP. -/
def line (payload : Payload) : String :=
  payload.json.line ++ "\n"

end Payload

/-- One attempt to send something, as far as it gets. -/
inductive Transmission where
  /-- An HTTP post of a payload. -/
  | post (url : String) (payload : Payload)
  /-- A TCP socket that could not be opened. -/
  | refusedSocket
  /-- A TCP connection that is asked for, and the line that went over it if one did. -/
  | connection (host : String) (port : Int) (line : Option String)
  /-- An HTTP get. -/
  | get (url : String)
  deriving DecidableEq, Repr

/-- The attempt as it goes where no line can be sent. -/
def Transmission.withoutLine : Transmission → Transmission
  | .connection host port _ => .connection host port none
  | transmission => transmission

def dropTrailingSlashes (s : String) : String :=
  String.ofList (s.toList.reverse.dropWhile (· == '/')).reverse

/-- The text without any occurrence of a word, which are looked for from left to right. Each
character left is one fewer to look at, and `fuel` bounds their number. -/
def removeAll (word : List Char) : (fuel : Nat) → List Char → List Char
  | 0, cs => cs
  | _, [] => []
  | fuel + 1, c :: rest =>
    if word.isPrefixOf (c :: rest) then removeAll word fuel ((c :: rest).drop word.length)
    else c :: removeAll word fuel rest

/-- The parts before and after the last occurrence of a character. -/
def splitAtLast (mark : Char) (cs : List Char) : Option (List Char × List Char) :=
  if cs.contains mark then
    let tail := (cs.reverse.takeWhile (· != mark)).reverse
    some (cs.take (cs.length - tail.length - 1), tail)
  else none

inductive Address where
  | http
  | tcp (host : String) (port : Int)
  /-- What stands after the last colon is no port. -/
  | unusable (reason : Decimal.Integer.Unreadable)
  deriving DecidableEq, Repr

def defaultPort : Int := 9999

namespace Address

/-- The TCP address of a text: host and port with a colon between them, or a host. -/
def ofText (text : List Char) : Address :=
  let address := removeAll "tcp://".toList text.length text
  match splitAtLast ':' address with
  | none => .tcp (String.ofList address) defaultPort
  | some (host, port) =>
    match Decimal.Integer.read port with
    | .ok port => .tcp (String.ofList host) port
    | .error reason => .unusable reason

def ofUrl (url : String) : Address :=
  if "http".toList.isPrefixOf url.toList then .http else ofText url.toList

end Address

structure Notifier where
  url : String
  enabled : Bool
  deriving DecidableEq, Repr

structure Delivery where
  sent : List Transmission := []
  log : List LogEntry := []
  deriving DecidableEq, Repr

namespace Notifier

def channel : String := "rollbox.notifier"

/-- The notifier of a configured URL; an empty one switches it off. -/
def ofUrl (url : String) : Notifier :=
  ⟨dropTrailingSlashes url, url ≠ ""⟩

def opening (notifier : Notifier) : List LogEntry :=
  if notifier.enabled then [⟨.info, channel, "RollNotifier enabled: " ++ notifier.url⟩] else []

def failed (reason : String) : LogEntry :=
  ⟨.debug, channel, "Webhook notify failed (non-fatal): " ++ reason⟩

def post (network : Network) (url : String) (payload : Payload) : Delivery where
  sent := [.post url payload]
  log :=
    if network.outage = some .connect ∨ network.outage = some .send then [failed network.failure]
    else
      let status := network.status.getD 204
      if status ≥ 400 then
        [⟨.debug, channel, "Webhook returned HTTP " ++ Decimal.text status⟩]
      else []

def sendLine (network : Network) (host : String) (port : Int) (payload : Payload) : Delivery :=
  if network.outage = some .socket then ⟨[.refusedSocket], [failed network.failure]⟩
  else if network.takesLine port then ⟨[.connection host port (some payload.line)], []⟩
  else ⟨[.connection host port none], [failed (network.lineFailure port)]⟩

def deliver (notifier : Notifier) (network : Network) (payload : Payload) : Delivery :=
  if notifier.enabled then
    match Address.ofUrl notifier.url with
    | .http => post network notifier.url payload
    | .tcp host port => sendLine network host port payload
    | .unusable reason => ⟨[], [failed reason.message]⟩
  else {}

end Notifier

end DiceTable
