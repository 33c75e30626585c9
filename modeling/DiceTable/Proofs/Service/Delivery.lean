import DiceTable.Proofs.Json.SingleLine
import DiceTable.Service
import Mathlib.Data.List.DropRight

/-! # One announcement

An announcement is tried once and never fails: an HTTP address gets one post, any other address at
most one connection that carries at most one line, and all that may come of it is an entry in the
log of the notifier (`Notifier.announces_deliver`). Whether an address is one of HTTP is the same
before and after the slashes at its end are dropped.
-/

namespace DiceTable

/-- The URL is what is left of it and slashes, of which none is left at the end. -/
theorem dropTrailingSlashes_spec (url : String) :
    (∃ n, url.toList = (dropTrailingSlashes url).toList ++ List.replicate n '/') ∧
      (dropTrailingSlashes url).toList.getLast? ≠ some '/' := by
  have left : (dropTrailingSlashes url).toList = url.toList.rdropWhile (· == '/') :=
    String.toList_ofList
  rw [left]
  constructor
  · refine ⟨(url.toList.rtakeWhile (· == '/')).length, ?_⟩
    have slashes : url.toList.rtakeWhile (· == '/') =
        List.replicate (url.toList.rtakeWhile (· == '/')).length '/' :=
      List.eq_replicate_length.mpr fun c member => by
        simpa using List.mem_rtakeWhile_imp member
    rw [← slashes]
    exact (List.rdropWhile_append_rtakeWhile ..).symm
  · intro last
    obtain ⟨nonempty, slash⟩ := List.mem_getLast?_eq_getLast last
    exact List.rdropWhile_last_not _ _ nonempty (beq_iff_eq.mpr slash.symm)

/-- Slashes at the end do not decide on whether an address is one of HTTP. -/
theorem http_prefix_dropTrailingSlashes (url : String) :
    "http".toList <+: (dropTrailingSlashes url).toList ↔ "http".toList <+: url.toList := by
  obtain ⟨⟨n, split⟩, _⟩ := dropTrailingSlashes_spec url
  have left : (dropTrailingSlashes url).toList <+: url.toList := ⟨_, split.symm⟩
  refine ⟨fun http => http.trans left, fun http => ?_⟩
  rcases List.prefix_or_prefix_of_prefix http left with whole | ⟨missing, http'⟩
  · exact whole
  · -- What is missing of the scheme would have to be slashes.
    obtain ⟨rest, written⟩ := http
    rw [← http', List.append_assoc, split, List.append_cancel_left_eq] at written
    have slashes : ∀ c ∈ missing, c = '/' := fun c member =>
      List.eq_of_mem_replicate (written ▸ List.mem_append_left rest member)
    cases missing using List.reverseRecOn with
    | nil => exact ⟨[], by simpa using http'.symm⟩
    | append_singleton front last =>
      have isLast : last = 'p' := by
        have ends := congrArg List.getLast? http'
        rw [← List.append_assoc, List.getLast?_concat] at ends
        exact Option.some.inj ends
      have isSlash := slashes last (by simp)
      rw [isLast] at isSlash
      exact absurd isSlash (by decide)

/-- One line of text, with its line break at the end. -/
def IsLine (text : String) : Prop :=
  ∃ body, text = body ++ "\n" ∧ '\n' ∉ body.toList

theorem Payload.isLine_line (payload : Payload) : IsLine payload.line := by
  refine ⟨payload.json.line, rfl, ?_⟩
  rw [Json.line, String.toList_ofList]
  exact (Json.uncontrolled_lineChars payload.json).newline_not_mem

theorem Address.ofText_ne_http {text : List Char} : ofText text ≠ .http := by
  unfold ofText
  dsimp only
  split
  · exact nofun
  · split <;> exact nofun

namespace Notifier

/-- What an announcement to a URL comes to: one post to the URL without slashes at its end if it is
one of HTTP, and otherwise at most one connection with at most one line. It never goes unnoticed,
and logs in the name of the notifier only. -/
structure Announces (url : String) (payload : Payload) (delivery : Delivery) : Prop where
  noticed : delivery ≠ {}
  log : ∀ entry ∈ delivery.log, entry.channel = channel
  posted : "http".toList <+: url.toList →
    delivery.sent = [.post (dropTrailingSlashes url) payload]
  connected : ¬"http".toList <+: url.toList →
    delivery.sent = [] ∨ delivery.sent = [.refusedSocket] ∨
      ∃ host port line, delivery.sent = [.connection host port line] ∧
        ∀ text, line = some text → text = payload.line ∧ IsLine text

theorem log_post (network : Network) (url : String) (payload : Payload) :
    ∀ entry ∈ (post network url payload).log, entry.channel = channel := by
  unfold post
  dsimp only
  split
  · exact List.forall_mem_singleton.mpr rfl
  · split
    · exact List.forall_mem_singleton.mpr rfl
    · exact nofun

theorem log_sendLine (network : Network) (host : String) (port : Int) (payload : Payload) :
    ∀ entry ∈ (sendLine network host port payload).log, entry.channel = channel := by
  unfold sendLine
  split
  · exact List.forall_mem_singleton.mpr rfl
  · split
    · exact nofun
    · exact List.forall_mem_singleton.mpr rfl

theorem sent_sendLine (network : Network) (host : String) (port : Int) (payload : Payload) :
    (sendLine network host port payload).sent = [.refusedSocket] ∨
      ∃ line, (sendLine network host port payload).sent = [.connection host port line] ∧
        ∀ text, line = some text → text = payload.line := by
  unfold sendLine
  split
  · exact .inl rfl
  · split
    · exact .inr ⟨some payload.line, rfl, fun _ same => (Option.some.inj same).symm⟩
    · exact .inr ⟨none, rfl, nofun⟩

/-- All that a notifier logs is in its own name. -/
theorem log_deliver (notifier : Notifier) (network : Network) (payload : Payload) :
    ∀ entry ∈ (notifier.deliver network payload).log, entry.channel = channel := by
  unfold deliver
  split
  · split
    · exact log_post network _ payload
    · exact log_sendLine network _ _ payload
    · exact List.forall_mem_singleton.mpr rfl
  · exact nofun

/-- A notifier that is switched on announces every payload, however the network behaves. -/
theorem announces_deliver {url : String} (enabled : url ≠ "") (network : Network)
    (payload : Payload) : Announces url payload ((ofUrl url).deliver network payload) := by
  have on : (ofUrl url).enabled = true := decide_eq_true enabled
  have log := log_deliver (ofUrl url) network payload
  by_cases http : "http".toList <+: url.toList
  · have address : Address.ofUrl (ofUrl url).url = .http :=
      if_pos (List.isPrefixOf_iff_prefix.mpr ((http_prefix_dropTrailingSlashes url).mpr http))
    have posted : (ofUrl url).deliver network payload = post network (ofUrl url).url payload := by
      simp only [deliver, on, if_true, address]
    rw [posted] at log ⊢
    exact ⟨fun nothing => absurd (congrArg Delivery.sent nothing) (List.cons_ne_nil _ _), log,
      fun _ => rfl, fun other => (other http).elim⟩
  · have address : Address.ofUrl (ofUrl url).url = .ofText (ofUrl url).url.toList :=
      if_neg fun starts =>
        http ((http_prefix_dropTrailingSlashes url).mp (List.isPrefixOf_iff_prefix.mp starts))
    cases named : Address.ofText (ofUrl url).url.toList with
    | http => exact (Address.ofText_ne_http named).elim
    | tcp host port =>
      have sentLine : (ofUrl url).deliver network payload = sendLine network host port payload := by
        simp only [deliver, on, if_true, address, named]
      have sent := sent_sendLine network host port payload
      rw [sentLine] at log ⊢
      refine ⟨fun nothing => ?_, log, fun scheme => (http scheme).elim, fun _ => .inr ?_⟩
      · have silent := congrArg Delivery.sent nothing
        rcases sent with refused | ⟨line, connected, _⟩
        · exact absurd (refused.symm.trans silent) (List.cons_ne_nil _ _)
        · exact absurd (connected.symm.trans silent) (List.cons_ne_nil _ _)
      · refine sent.imp id fun ⟨line, connected, carried⟩ => ⟨host, port, line, connected, ?_⟩
        intro text spoken
        rw [carried text spoken]
        exact ⟨rfl, payload.isLine_line⟩
    | unusable reason =>
      have noted : (ofUrl url).deliver network payload = ⟨[], [failed reason.message]⟩ := by
        simp only [deliver, on, if_true, address, named]
      rw [noted] at log ⊢
      exact ⟨fun nothing => absurd (congrArg Delivery.log nothing) (List.cons_ne_nil _ _), log,
        fun scheme => (http scheme).elim, fun _ => .inl rfl⟩

end Notifier

namespace RollService

theorem channel_ne : channel ≠ Notifier.channel := by
  decide

theorem memoryChannel_ne : memoryChannel ≠ Notifier.channel := by
  decide

/-- What a memory has dropped is not logged in the name of the notifier. -/
theorem channel_of_mem_evictions {ids : List String} {entry : LogEntry}
    (member : entry ∈ ids.map fun old =>
      (⟨.debug, memoryChannel, "RollMemory evicted " ++ old⟩ : LogEntry)) :
    entry.channel ≠ Notifier.channel := by
  obtain ⟨old, _, rfl⟩ := List.mem_map.mp member
  exact memoryChannel_ne

end RollService

end DiceTable
