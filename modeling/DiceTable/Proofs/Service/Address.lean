import DiceTable.Proofs.Grammar.Spelling
import DiceTable.Proofs.Service.Delivery

/-! # Addresses

An address is a host, or a host and a port with a colon between them. It is found again in a URL
that is put together from it, with the scheme in front and slashes behind or without them, however
many colons the host has (`Notifier.connectsTo_named`).
-/

namespace DiceTable

/-- Slashes that are put behind a URL are dropped again. -/
theorem dropTrailingSlashes_append {url : String} (last : url.toList.getLast? ≠ some '/')
    (slashes : Nat) :
    dropTrailingSlashes (url ++ String.ofList (List.replicate slashes '/')) = url := by
  have reversed : (url ++ String.ofList (List.replicate slashes '/')).toList.reverse =
      List.replicate slashes '/' ++ url.toList.reverse := by
    rw [String.toList_append, String.toList_ofList, List.reverse_append, List.reverse_replicate]
  have kept : url.toList.reverse.dropWhile (· == '/') = url.toList.reverse := by
    rw [← List.head?_reverse] at last
    cases spelled : url.toList.reverse with
    | nil => rfl
    | cons c rest =>
      rw [spelled] at last
      exact List.dropWhile_cons_of_neg fun slash => last (congrArg some (beq_iff_eq.mp slash))
  rw [dropTrailingSlashes, reversed, List.dropWhile_append_of_pos
    (fun c member => beq_iff_eq.mpr (List.eq_of_mem_replicate member)), kept, List.reverse_reverse,
    String.ofList_toList]

section Words

variable {word cs : List Char} {mark : Char}

/-- A word is not found in a text that lacks one of its characters. -/
theorem removeAll_of_notMem (inWord : mark ∈ word) (absent : mark ∉ cs) {fuel : Nat}
    (enough : cs.length ≤ fuel) : removeAll word fuel cs = cs := by
  induction cs generalizing fuel with
  | nil => cases fuel <;> rfl
  | cons c rest ih =>
    cases fuel with
    | zero => exact absurd enough (Nat.not_succ_le_zero _)
    | succ fuel =>
      have elsewhere : ¬word.isPrefixOf (c :: rest) = true := fun front =>
        absent ((List.isPrefixOf_iff_prefix.mp front).subset inWord)
      have later : mark ∉ rest := fun member => absent (List.mem_cons_of_mem c member)
      rw [removeAll, if_neg elsewhere, ih later (Nat.le_of_succ_le_succ enough)]

theorem removeAll_word_append (some : word ≠ []) (fuel : Nat) (cs : List Char) :
    removeAll word (fuel + 1) (word ++ cs) = removeAll word fuel cs := by
  obtain ⟨c, rest, rfl⟩ := List.exists_cons_of_ne_nil some
  have front : (c :: (rest ++ cs)) = (c :: rest) ++ cs := rfl
  have here : (c :: rest).isPrefixOf ((c :: rest) ++ cs) = true :=
    List.isPrefixOf_iff_prefix.mpr (List.prefix_append _ _)
  rw [List.cons_append, removeAll, front, if_pos here, List.drop_left]

theorem splitAtLast_of_notMem (absent : mark ∉ cs) : splitAtLast mark cs = none := by
  rw [splitAtLast, if_neg (by simpa using absent)]

/-- The last mark is the one behind which there is no other. -/
theorem splitAtLast_append {front tail : List Char} (last : mark ∉ tail) :
    splitAtLast mark (front ++ mark :: tail) = some (front, tail) := by
  have others : ∀ c ∈ tail.reverse, (c != mark) = true := fun c member =>
    bne_iff_ne.mpr fun same => last (same ▸ List.mem_reverse.mp member)
  have reversed : (front ++ mark :: tail).reverse = tail.reverse ++ mark :: front.reverse := by
    simp
  have behind : ((front ++ mark :: tail).reverse.takeWhile (· != mark)).reverse = tail := by
    rw [reversed, List.takeWhile_append_of_pos others,
      List.takeWhile_cons_of_neg (by simp), List.append_nil, List.reverse_reverse]
  have length : (front ++ mark :: tail).length - tail.length - 1 = front.length := by
    rw [List.length_append, List.length_cons]
    omega
  simp only [splitAtLast, behind, length, List.take_left]
  rw [if_pos (by simp)]

end Words

namespace Address

variable {text : List Char}

/-- The scheme of TCP is taken off. -/
theorem ofText_scheme_append (noSlash : '/' ∉ text) :
    ofText ("tcp://".toList ++ text) = ofText text := by
  have inScheme : '/' ∈ "tcp://".toList := by decide
  have length : ("tcp://".toList ++ text).length = text.length + 5 + 1 := by
    rw [List.length_append, Nat.add_comm]
    rfl
  unfold ofText
  rw [length, removeAll_word_append (by decide),
    removeAll_of_notMem inScheme noSlash (Nat.le_add_right _ _),
    removeAll_of_notMem inScheme noSlash (Nat.le_refl _)]

/-- An address without a colon is a host. -/
theorem ofText_host (noSlash : '/' ∉ text) (noColon : ':' ∉ text) :
    ofText text = .tcp (String.ofList text) defaultPort := by
  have inScheme : '/' ∈ "tcp://".toList := by decide
  simp only [ofText, removeAll_of_notMem inScheme noSlash (Nat.le_refl _),
    splitAtLast_of_notMem noColon]

/-- The port of an address is what stands behind its last colon. -/
theorem ofText_port (noSlash : '/' ∉ text) {port : List Char} (isRun : Decimal.IsRun port)
    (short : port.length ≤ Decimal.digitLimit) :
    ofText (text ++ ':' :: port) = .tcp (String.ofList text) (Decimal.value port) := by
  have noColon : ':' ∉ port := fun member => absurd (isRun.digits ':' member) (by decide)
  have inScheme : '/' ∈ "tcp://".toList := by decide
  have noSlashBehind : '/' ∉ text ++ ':' :: port := by
    intro member
    rcases List.mem_append.mp member with inHost | inPort
    · exact noSlash inHost
    · rcases List.mem_cons.mp inPort with colon | digit
      · exact absurd colon (by decide)
      · exact absurd (isRun.digits '/' digit) (by decide)
  simp only [ofText, removeAll_of_notMem inScheme noSlashBehind (Nat.le_refl _),
    splitAtLast_append noColon, Decimal.Integer.read_of_isDigit isRun.nonempty isRun.digits,
    if_neg (Nat.not_lt.mpr short)]

/-- A text that continues a host is not one of HTTP, unless the host is. -/
theorem not_http_prefix_append {host rest : List Char} (noHttp : ¬"http".toList <+: host)
    (colon : ∀ c, rest.head? = some c → c = ':') : ¬"http".toList <+: host ++ rest := by
  intro http
  rcases isPrefix_append_cases http with inHost | ⟨c, reach, more, starts, whole⟩
  · exact noHttp inHost
  · -- What is missing of the scheme would have to start with the colon.
    have isColon : c = ':' := colon c (by rw [starts]; rfl)
    have inScheme : ':' ∈ "http".toList := by
      rw [whole, isColon]
      simp
    exact absurd inScheme (by decide)

end Address

namespace Notifier

/-- A notifier asks for connections to one host and port, and posts nothing. There is no connection
where no socket is to be had, and a line goes over all those that the network lets it go over. -/
structure ConnectsTo (notifier : Notifier) (host : String) (port : Int) : Prop where
  asks : ∀ network payload, network.outage ≠ some .socket →
    (notifier.deliver network payload).sent =
      [.connection host port (if network.takesLine port then some payload.line else none)]
  refused : ∀ network payload, network.outage = some .socket →
    (notifier.deliver network payload).sent = [.refusedSocket]
  unposted : ∀ network payload url posted,
    .post url posted ∉ (notifier.deliver network payload).sent

variable {url host : String} {port : Int}

/-- A notifier connects to the address that its URL names, whether slashes follow or not. -/
theorem connectsTo_of_address (nonempty : url ≠ "") (last : url.toList.getLast? ≠ some '/')
    (address : Address.ofUrl url = .tcp host port) (slashes : Nat) :
    (ofUrl (url ++ String.ofList (List.replicate slashes '/'))).ConnectsTo host port := by
  have enabled : url ++ String.ofList (List.replicate slashes '/') ≠ "" := fun empty =>
    nonempty (String.append_eq_empty_iff.mp empty).1
  have delivers (network : Network) (payload : Payload) :
      (ofUrl (url ++ String.ofList (List.replicate slashes '/'))).deliver network payload =
        sendLine network host port payload := by
    simp only [deliver, ofUrl, dropTrailingSlashes_append last, address, decide_eq_true enabled,
      if_true]
  refine ⟨fun network payload socket => ?_, fun network payload socket => ?_,
    fun network payload other posted => ?_⟩
  · rw [delivers, sendLine, if_neg socket]
    split <;> rfl
  · rw [delivers, sendLine, if_pos socket]
  · rw [delivers]
    rcases sent_sendLine network host port payload with refused | ⟨_, connected, _⟩
    · simp [refused]
    · simp [connected]

/-- An address names the same with the scheme in front and, if it is not taken for one of HTTP,
without it. -/
theorem connectsTo_of_text {text : String} (nonempty : text ≠ "") (noSlash : '/' ∉ text.toList)
    (address : Address.ofText text.toList = .tcp host port) (slashes : Nat) :
    let ending := String.ofList (List.replicate slashes '/')
    (ofUrl ("tcp://" ++ text ++ ending)).ConnectsTo host port ∧
      (¬"http".toList <+: text.toList → (ofUrl (text ++ ending)).ConnectsTo host port) := by
  have last : text.toList.getLast? ≠ some '/' := fun slash =>
    noSlash (List.mem_of_getLast? slash)
  have spelled : text.toList ≠ [] := fun empty => nonempty (String.toList_eq_nil_iff.mp empty)
  constructor
  · have scheme : ("tcp://" ++ text).toList = "tcp://".toList ++ text.toList :=
      String.toList_append
    have named : Address.ofUrl ("tcp://" ++ text) = .tcp host port := by
      have noHttp : ¬"http".toList.isPrefixOf ("tcp://".toList ++ text.toList) = true :=
        Bool.false_ne_true
      rw [Address.ofUrl, scheme, if_neg noHttp, Address.ofText_scheme_append noSlash, address]
    have schemeLast : ("tcp://" ++ text).toList.getLast? ≠ some '/' := by
      rwa [scheme, List.getLast?_append_of_ne_nil _ spelled]
    exact connectsTo_of_address (fun empty => nonempty (String.append_eq_empty_iff.mp empty).2)
      schemeLast named slashes
  · intro noHttp
    have named : Address.ofUrl text = .tcp host port := by
      rw [Address.ofUrl, if_neg fun front => noHttp (List.isPrefixOf_iff_prefix.mp front), address]
    exact connectsTo_of_address nonempty last named slashes

/-- A notifier that is built from a host and a port, with the scheme in front or without it and with
any number of slashes behind, connects to this host and this port; it connects to port 9999 if only
a host is given. Without the scheme the host has to be told apart from an address of HTTP, and
without a port it has to be without colons. -/
theorem connectsTo_named (nonempty : host ≠ "") (noSlash : '/' ∉ host.toList) (slashes : Nat) :
    let ending := String.ofList (List.replicate slashes '/')
    (∀ run : List Char, Decimal.IsRun run → run.length ≤ Decimal.digitLimit →
      let address := host ++ ":" ++ String.ofList run
      (ofUrl ("tcp://" ++ address ++ ending)).ConnectsTo host (Decimal.value run) ∧
        (¬"http".toList <+: host.toList →
          (ofUrl (address ++ ending)).ConnectsTo host (Decimal.value run))) ∧
    (':' ∉ host.toList →
      (ofUrl ("tcp://" ++ host ++ ending)).ConnectsTo host 9999 ∧
        (¬"http".toList <+: host.toList → (ofUrl (host ++ ending)).ConnectsTo host 9999)) := by
  intro ending
  refine ⟨fun run isRun short => ?_, fun noColon => ?_⟩
  · intro address
    have spelled : address.toList = host.toList ++ ':' :: run := by
      simp [address]
    have noDigit (c : Char) (other : c.isDigit = false) : c ∉ run := fun member =>
      Bool.false_ne_true (other.symm.trans (isRun.digits c member))
    have noSlashes : '/' ∉ address.toList := by
      simp [spelled, noSlash, noDigit '/' (by decide)]
    have named : Address.ofText address.toList = .tcp host (Decimal.value run) := by
      rw [spelled, Address.ofText_port noSlash isRun short, String.ofList_toList]
    obtain ⟨withScheme, without⟩ := connectsTo_of_text
      (fun empty => nonempty (String.append_eq_empty_iff.mp
        (String.append_eq_empty_iff.mp empty).1).1) noSlashes named slashes
    refine ⟨withScheme, fun noHttp => without ?_⟩
    rw [spelled]
    exact Address.not_http_prefix_append noHttp fun c head => (Option.some.inj head).symm
  · have named : Address.ofText host.toList = .tcp host 9999 := by
      rw [Address.ofText_host noSlash noColon, String.ofList_toList]
      rfl
    exact connectsTo_of_text nonempty noSlash named slashes

/-- A host with colons that looks like the scheme, a port with zeros in front, and two slashes. -/
theorem connectsTo_named_colons :
    let host := "tcp:http:"
    let run := "08080".toList
    host ≠ "" ∧ '/' ∉ host.toList ∧ Decimal.IsRun run ∧ run.length ≤ Decimal.digitLimit ∧
      ¬"http".toList <+: host.toList ∧
      (ofUrl "tcp://tcp:http::08080//").ConnectsTo host 8080 ∧
      (ofUrl "tcp:http::08080//").ConnectsTo host 8080 := by
  intro host run
  have isRun : Decimal.IsRun run := ⟨by decide, List.all_eq_true.mp (by decide)⟩
  have noHttp : ¬"http".toList <+: host.toList := by decide
  have noSlash : '/' ∉ host.toList := by decide
  obtain ⟨connects, _⟩ := connectsTo_named (by decide) noSlash 2
  obtain ⟨withScheme, without⟩ := connects run isRun (by decide)
  exact ⟨by decide, noSlash, isRun, by decide, noHttp, withScheme, without noHttp⟩

end Notifier

end DiceTable
