import DiceTable.Proofs.Json.RoundTrip
import DiceTable.Proofs.Service.Delivery

/-! # The line of an announcement

A payload is a value that is read back from its line: its only integer is the colour of the embed,
and all else that a record brings along are texts. So what goes over a TCP connection is one line,
with its line break as the only control character, and it stands for the payload and for nothing
else (`Notifier.deliver_line`).
-/

namespace DiceTable

namespace Payload

open Json (Plain)

variable {digitLimit : Option Nat} {depth : Nat}

theorem plain_optional (text : Option String) : Plain digitLimit depth (.optional text) := by
  cases text with
  | none => exact .null
  | some text => exact .str text

theorem plain_fieldJson (field : Field) : Plain digitLimit (depth + 1) (fieldJson field) := by
  have keys : ["name", "value", "inline"].Nodup := by
    decide
  refine .obj keys ?_
  simp only [List.forall_mem_cons]
  exact ⟨.str _, .str _, .bool _, nofun⟩

/-- An embed is read back where its colour is. -/
theorem plain_embedJson {embed : Embed}
    (short : ¬digitLimit.any ((Decimal.digits embed.colour).length > ·)) :
    Plain digitLimit (depth + 3) (embedJson embed) := by
  have keys : ["title", "color", "fields", "footer", "timestamp"].Nodup := by
    decide
  have fields : Plain digitLimit (depth + 2) (.arr (embed.fields.map fieldJson)) :=
    .arr (List.forall_mem_map.mpr fun field _ => plain_fieldJson field)
  have footer : Plain digitLimit (depth + 2) (.obj [("text", .str embed.footer)]) :=
    .obj (by decide : ["text"].Nodup) (List.forall_mem_singleton.mpr (.str _))
  refine .obj keys ?_
  simp only [List.forall_mem_cons]
  exact ⟨.str _, .int short, fields, footer, .str _, nofun⟩

/-- A payload is read back where the colour of its embed is. -/
theorem plain_json {payload : Payload}
    (short : ¬digitLimit.any ((Decimal.digits payload.embed.colour).length > ·)) :
    Plain digitLimit (depth + 5) payload.json := by
  have keys : ["ts", "roll_id", "expression", "rerolled_from", "embeds"].Nodup := by
    decide
  have embeds : Plain digitLimit (depth + 4) (.arr [embedJson payload.embed]) :=
    .arr (List.forall_mem_singleton.mpr (plain_embedJson short))
  refine .obj keys ?_
  simp only [List.forall_mem_cons]
  exact ⟨.str _, .str _, .str _, plain_optional _, embeds, nofun⟩

end Payload

namespace Notifier

variable {notifier : Notifier} {network : Network} {host : String} {port : Int}

/-- Where there is a socket and the network lets lines go, the line of a payload is sent. -/
theorem deliver_of_reachable (enabled : notifier.enabled)
    (address : Address.ofUrl notifier.url = .tcp host port)
    (reachable : network.outage ≠ some .socket ∧ network.takesLine port) (payload : Payload) :
    notifier.deliver network payload = ⟨[.connection host port (some payload.line)], []⟩ := by
  rw [deliver, if_pos enabled, address]
  change sendLine network host port payload = _
  rw [sendLine, if_neg reachable.1, if_pos reachable.2]

/-- A record is announced to a listener that can be reached by one line, of which the line break at
its end is the only control character. Whoever reads integers of seven digits and values nested five
levels deep reads the payload of the record from it. -/
theorem deliver_line (enabled : notifier.enabled)
    (address : Address.ofUrl notifier.url = .tcp host port)
    (reachable : network.outage ≠ some .socket ∧ network.takesLine port)
    (record : RollRecord) (now embedTime : String) :
    let payload := Payload.ofRecord record now embedTime
    ∃ body, (notifier.deliver network payload).sent =
        [.connection host port (some (body ++ "\n"))] ∧
      (∀ c ∈ body.toList, 0x20 ≤ c.toNat) ∧
      ∀ (digitLimit : Option Nat) (depth : Nat), (∀ most, digitLimit = some most → 7 ≤ most) →
        5 ≤ depth →
        Json.read? digitLimit depth (LooseText.ofString (body ++ "\n")) = some payload.json := by
  intro payload
  refine ⟨payload.json.line, ?_, ?_, fun digitLimit depth digits nested => ?_⟩
  · rw [deliver_of_reachable enabled address reachable]
    rfl
  · rw [Json.line, String.toList_ofList]
    exact Json.uncontrolled_lineChars payload.json
  · obtain ⟨depth, rfl⟩ := Nat.exists_eq_add_of_le' nested
    have colour : (Decimal.digits Render.embedColour).length = 7 := by
      decide +kernel
    have short : ¬digitLimit.any ((Decimal.digits payload.embed.colour).length > ·) := by
      change ¬digitLimit.any ((Decimal.digits Render.embedColour).length > ·)
      rw [colour]
      cases digitLimit with
      | none => exact Bool.false_ne_true
      | some most => simpa using digits most rfl
    have plain : payload.json.Plain digitLimit (depth + 5) := Payload.plain_json short
    have written : LooseText.ofString (payload.json.line ++ "\n") =
        LooseText.ofChars payload.json.lineChars ++ [.char '\n'] := by
      simp [LooseText.ofString, Json.line]
    rw [written]
    exact plain.read?_lineChars (Json.endsNumber_cons rfl _) rfl

/-- A user with a quote, a backslash, a line break and a control character of his own. -/
theorem deliver_line_control :
    let notifier := Notifier.ofUrl "tcp://localhost:9999/"
    let record : RollRecord :=
      { id := "1", user := "\"\\n\n\x01é", rerolledFrom := some "0"
        result := .arithmetic { canonical := "2+1", total := 3, breakdown := "2 + 1" } }
    let line := "\x7b\"ts\": \"now\", \"roll_id\": \"1\", \"expression\": \"2+1\", " ++
      "\"rerolled_from\": \"0\", \"embeds\": [\x7b\"title\": " ++
      "\"🎲 Roll by \\\"\\\\n\\n\\u0001é\", \"color\": 5793266, \"fields\": " ++
      "[\x7b\"name\": \"Total\", \"value\": \"3\", \"inline\": true\x7d, " ++
      "\x7b\"name\": \"Details\", \"value\": \"2 + 1\", \"inline\": false\x7d], " ++
      "\"footer\": \x7b\"text\": \"Expr: 2+1\"\x7d, \"timestamp\": \"later\"\x7d]\x7d\n"
    notifier.enabled ∧ Address.ofUrl notifier.url = .tcp "localhost" 9999 ∧
      (notifier.deliver {} (.ofRecord record "now" "later")).sent =
        [.connection "localhost" 9999 (some line)] ∧
      (∃ body, line = body ++ "\n" ∧ ∀ c ∈ body.toList, 0x20 ≤ c.toNat) ∧
      Json.read? (some 7) 5 (LooseText.ofString line) =
        some (Payload.ofRecord record "now" "later").json := by
  intro notifier record line
  have enabled : notifier.enabled := by
    decide +kernel
  have address : Address.ofUrl notifier.url = .tcp "localhost" 9999 := by
    decide +kernel
  have sent : (notifier.deliver {} (.ofRecord record "now" "later")).sent =
      [.connection "localhost" 9999 (some line)] := by
    decide +kernel
  obtain ⟨body, carried, visible, read⟩ := deliver_line enabled address
    (show ({} : Network).outage ≠ _ ∧ ({} : Network).takesLine 9999 from ⟨nofun, rfl⟩)
    record "now" "later"
  have same : body ++ "\n" = line := by
    rw [sent] at carried
    simp only [List.cons.injEq, Transmission.connection.injEq, Option.some.injEq] at carried
    exact carried.1.2.2.symm
  have again := read (some 7) 5 (fun most same => (Option.some.inj same).le) (Nat.le_refl _)
  rw [same] at again
  exact ⟨enabled, address, sent, ⟨body, same.symm, visible⟩, again⟩

end Notifier

end DiceTable
