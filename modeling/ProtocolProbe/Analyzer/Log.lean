import ProtocolProbe.Wire.Stream
import ProtocolProbe.Wire.Text

/-!
# The connection log of `multiport_analyzer.py`

The analyzer runs one listener thread per port, and each accepted connection or received
datagram is handled in a thread of its own.  Handlers record what they see with
`log_connection`, which appends one entry to the global `connection_log` while it holds the
lock.  So the log is built by `log_connection` calls alone, from any number of threads in
any interleaving: `Reachable` describes those logs.  An entry keeps its client as
`str(addr)`, the Python text of the socket address pair.
-/

namespace ProtocolProbe.Analyzer

/-! ### `bytes.hex()` -/

/-- The two lowercase hex digits of a byte. -/
def hexByte (b : UInt8) : List Char := [Nat.digitChar (b.toNat / 16), Nat.digitChar (b.toNat % 16)]

/-- `data.hex()`. -/
def hex (data : List UInt8) : List Char := data.flatMap hexByte

@[simp] theorem length_hex (data : List UInt8) : (hex data).length = 2 * data.length := by
  induction data with
  | nil => rfl
  | cons b data ih => simp [hex, hexByte, List.flatMap_cons] at ih ⊢; omega

/-! ### Entries -/

/-- A socket address as `accept` and `recvfrom` return it for an `AF_INET` socket. -/
structure Addr where
  host : List Char
  port : Nat
deriving DecidableEq, Repr, Inhabited

/-- `str(addr)`: Python's text of the pair, `('host', port)`. -/
def Addr.str (a : Addr) : List Char :=
  "('".toList ++ a.host ++ "', ".toList ++ Nat.toDigits 10 a.port ++ [')']

/-- The text of every address holds the comma that separates its two parts. -/
theorem comma_mem_addr_str (a : Addr) : ',' ∈ a.str := by
  simp [Addr.str]

/-- An entry of `connection_log`. -/
structure LogEntry where
  timestamp : List Char
  port : Nat
  protocol : List Char
  client : List Char
  dataLen : Nat
  dataHex : List Char
  status : List Char
deriving DecidableEq, Repr, Inhabited

/-- `log_connection`: the log with one entry appended.  `now` is what
`datetime.now().isoformat()` returned; the prints are left out. -/
def logConnection (log : List LogEntry) (now : List Char) (port : Nat) (protocol : List Char)
    (clientAddr : Addr) (dataLen : Nat) (dataHex status : List Char) : List LogEntry :=
  log ++ [{ timestamp := now, port, protocol, client := clientAddr.str,
            dataLen, dataHex, status }]

/-- The logs the analyzer can build: `log_connection` appends under the lock, so whatever
the threads and however they interleave, the log grows one call at a time. -/
inductive Reachable : List LogEntry → Prop
  | nil : Reachable []
  | logged {log : List LogEntry} (h : Reachable log) (now : List Char) (port : Nat)
      (protocol : List Char) (clientAddr : Addr) (dataLen : Nat) (dataHex status : List Char) :
      Reachable (logConnection log now port protocol clientAddr dataLen dataHex status)

/-- Every entry of a reachable log was logged with a socket address. -/
theorem Reachable.client {log : List LogEntry} (h : Reachable log) :
    ∀ e ∈ log, ∃ a : Addr, e.client = a.str := by
  induction h with
  | nil => simp
  | logged _ now port protocol clientAddr dataLen dataHex status ih =>
      intro e he
      simp only [logConnection, List.mem_append, List.mem_singleton] at he
      rcases he with he | rfl
      · exact ih e he
      · exact ⟨clientAddr, rfl⟩

/-- Every log made of entries that name socket addresses is one `log_connection` calls
can build. -/
theorem reachable_of_client {log : List LogEntry} (h : ∀ e ∈ log, ∃ a : Addr, e.client = a.str) :
    Reachable log := by
  induction log using List.reverseRecOn with
  | nil => exact .nil
  | append_singleton init e ih =>
      obtain ⟨a, ha⟩ := h e (List.mem_append_right _ (List.mem_singleton_self e))
      have hinit := ih fun e' he' ↦ h e' (List.mem_append_left _ he')
      have he : e = ⟨e.timestamp, e.port, e.protocol, a.str, e.dataLen, e.dataHex, e.status⟩ := by
        rw [← ha]
      rw [he]
      exact hinit.logged e.timestamp e.port e.protocol a e.dataLen e.dataHex e.status

theorem Reachable.append {log entries : List LogEntry} (h : Reachable log)
    (he : ∀ e ∈ entries, ∃ a : Addr, e.client = a.str) : Reachable (log ++ entries) :=
  reachable_of_client fun e hmem ↦ (List.mem_append.mp hmem).elim (h.client e) (he e)

/-! ### The handlers -/

/-- How a socket call raised: `socket.timeout`, `ConnectionRefusedError`, or another
exception, with its text `str(e)`. -/
inductive SockError
  | timeout
  | refused
  | other (msg : List Char)
deriving DecidableEq, Repr

/-- `str(e)` of the exception. -/
def SockError.str : SockError → List Char
  | .timeout => "timed out".toList
  | .refused => "[Errno 111] Connection refused".toList
  | .other msg => msg

/-- `f"ECHO:{protocol_name}:".encode() + data`, the echo both listeners send. -/
def echoResponse (protocolName : List Char) (data : List UInt8) : List UInt8 :=
  encodeUtf8 ("ECHO:".toList ++ protocolName ++ [':']) ++ data

/-- The status the except clauses of `handle_tcp` log. -/
def tcpFailure : SockError → List Char
  | .timeout => "TIMEOUT".toList
  | e => "ERROR:".toList ++ e.str

/-- `handle_tcp`: the log after one connection whose bytes arrive as `segments`, or whose
`recv(4096)` raised, and whose `sendall` ended as `sent`.  `now₁` and `now₂` are the clock
reads of its two `log_connection` calls.  `data.hex() if data else ""` is `hex data`, which
is empty exactly when `data` is. -/
def handleTcp (log : List LogEntry) (now₁ now₂ : List Char) (addr : Addr) (port : Nat)
    (protocolName : List Char) (received : Except SockError (List (List UInt8)))
    (sent : Except SockError Unit) : List LogEntry :=
  let protocol := "TCP-".toList ++ protocolName
  match received with
  | .error e => logConnection log now₁ port protocol addr 0 [] (tcpFailure e)
  | .ok segments =>
      let data := (recv 4096 segments).1
      let log := logConnection log now₁ port protocol addr data.length (hex data)
        "RECEIVED".toList
      if data = [] then log
      else
        match sent with
        | .ok () => logConnection log now₂ port protocol addr
            (echoResponse protocolName data).length [] "SENT_ECHO".toList
        | .error e => logConnection log now₂ port protocol addr 0 [] (tcpFailure e)

/-- One turn of the `udp_listener` loop: `recvfrom(4096)` returned the first 4096 bytes of
a datagram and its sender, or raised; `sendto` ended as `sent`.  Its except clause only
prints, so a failed turn logs nothing more. -/
def udpListenerStep (log : List LogEntry) (now₁ now₂ : List Char) (port : Nat)
    (protocolName : List Char) (received : Except SockError (List UInt8 × Addr))
    (sent : Except SockError Unit) : List LogEntry :=
  let protocol := "UDP-".toList ++ protocolName
  match received with
  | .error _ => log
  | .ok (datagram, addr) =>
      let data := datagram.take 4096
      let log := logConnection log now₁ port protocol addr data.length (hex data)
        "RECEIVED".toList
      if data = [] then log
      else
        match sent with
        | .ok () => logConnection log now₂ port protocol addr
            (echoResponse protocolName data).length [] "SENT_ECHO".toList
        | .error _ => log

/-! ### What one handler call logs -/

theorem handleTcp_append (log : List LogEntry) (now₁ now₂ : List Char) (addr : Addr) (port : Nat)
    (protocolName : List Char) (received : Except SockError (List (List UInt8)))
    (sent : Except SockError Unit) :
    handleTcp log now₁ now₂ addr port protocolName received sent =
      log ++ handleTcp [] now₁ now₂ addr port protocolName received sent := by
  unfold handleTcp
  dsimp only
  split
  · simp [logConnection]
  · split
    · simp [logConnection]
    · split <;> simp [logConnection]

theorem udpListenerStep_append (log : List LogEntry) (now₁ now₂ : List Char) (port : Nat)
    (protocolName : List Char) (received : Except SockError (List UInt8 × Addr))
    (sent : Except SockError Unit) :
    udpListenerStep log now₁ now₂ port protocolName received sent =
      log ++ udpListenerStep [] now₁ now₂ port protocolName received sent := by
  unfold udpListenerStep
  dsimp only
  split
  · simp
  · split
    · simp [logConnection]
    · split <;> simp [logConnection]

theorem tcpFailure_ne_received (e : SockError) : tcpFailure e ≠ "RECEIVED".toList := by
  cases e with
  | timeout => decide
  | _ => exact fun h ↦ by simpa [tcpFailure] using congrArg (List.take 1) h

/-- What one connection logs: the failure of its `recv`, or a `RECEIVED` entry with the
bytes read and at most one more entry, which is not `RECEIVED`.  Every entry names the
listener's port and protocol and the client. -/
theorem handleTcp_cases (now₁ now₂ : List Char) (addr : Addr) (port : Nat)
    (protocolName : List Char) (received : Except SockError (List (List UInt8)))
    (sent : Except SockError Unit) :
    (∃ err, received = .error err ∧ handleTcp [] now₁ now₂ addr port protocolName received sent =
      [⟨now₁, port, "TCP-".toList ++ protocolName, addr.str, 0, [], tcpFailure err⟩]) ∨
    ∃ segments rest, received = .ok segments ∧
      handleTcp [] now₁ now₂ addr port protocolName received sent =
        ⟨now₁, port, "TCP-".toList ++ protocolName, addr.str, (recv 4096 segments).1.length,
          hex (recv 4096 segments).1, "RECEIVED".toList⟩ :: rest ∧ rest.length ≤ 1 ∧
      ∀ e ∈ rest, e.port = port ∧ e.protocol = "TCP-".toList ++ protocolName ∧
        e.client = addr.str ∧ e.status ≠ "RECEIVED".toList := by
  unfold handleTcp logConnection
  dsimp only
  split
  · exact .inl ⟨_, rfl, rfl⟩
  · next segments =>
    refine .inr ⟨segments, ?_⟩
    split
    · exact ⟨[], rfl, rfl, by simp, by simp⟩
    · split
      · exact ⟨[_], rfl, rfl, by simp, by simp⟩
      · exact ⟨[_], rfl, rfl, by simp, by simpa using tcpFailure_ne_received _⟩

/-- What one turn logs: nothing if `recvfrom` raised, else a `RECEIVED` entry with the bytes
read and at most one more entry, which is not `RECEIVED`.  Every entry names the
listener's port and protocol and the datagram's sender. -/
theorem udpListenerStep_cases (now₁ now₂ : List Char) (port : Nat) (protocolName : List Char)
    (received : Except SockError (List UInt8 × Addr)) (sent : Except SockError Unit) :
    (∃ err, received = .error err ∧
      udpListenerStep [] now₁ now₂ port protocolName received sent = []) ∨
    ∃ datagram addr rest, received = .ok (datagram, addr) ∧
      udpListenerStep [] now₁ now₂ port protocolName received sent =
        ⟨now₁, port, "UDP-".toList ++ protocolName, addr.str, (datagram.take 4096).length,
          hex (datagram.take 4096), "RECEIVED".toList⟩ :: rest ∧ rest.length ≤ 1 ∧
      ∀ e ∈ rest, e.port = port ∧ e.protocol = "UDP-".toList ++ protocolName ∧
        e.client = addr.str ∧ e.status ≠ "RECEIVED".toList := by
  unfold udpListenerStep logConnection
  dsimp only
  split
  · exact .inl ⟨_, rfl, rfl⟩
  · next datagram addr =>
    refine .inr ⟨datagram, addr, ?_⟩
    split
    · exact ⟨[], rfl, rfl, by simp, by simp⟩
    · split
      · exact ⟨[_], rfl, rfl, by simp, by simp⟩
      · exact ⟨[], rfl, rfl, by simp, by simp⟩

/-- Every entry of a connection names the listener's port and protocol and the client. -/
theorem mem_handleTcp {now₁ now₂ : List Char} {addr : Addr} {port : Nat}
    {protocolName : List Char} {received : Except SockError (List (List UInt8))}
    {sent : Except SockError Unit} {e : LogEntry}
    (he : e ∈ handleTcp [] now₁ now₂ addr port protocolName received sent) :
    e.port = port ∧ e.protocol = "TCP-".toList ++ protocolName ∧ e.client = addr.str := by
  rcases handleTcp_cases now₁ now₂ addr port protocolName received sent with
    ⟨err, -, h⟩ | ⟨segments, rest, -, h, -, hrest⟩ <;> rw [h] at he
  · obtain rfl := List.mem_singleton.mp he
    exact ⟨rfl, rfl, rfl⟩
  · rcases List.mem_cons.mp he with rfl | he
    · exact ⟨rfl, rfl, rfl⟩
    · exact ⟨(hrest e he).1, (hrest e he).2.1, (hrest e he).2.2.1⟩

/-- Every entry of a turn names the listener's port and protocol and the datagram's sender. -/
theorem mem_udpListenerStep {now₁ now₂ : List Char} {port : Nat} {protocolName : List Char}
    {received : Except SockError (List UInt8 × Addr)} {sent : Except SockError Unit}
    {e : LogEntry} (he : e ∈ udpListenerStep [] now₁ now₂ port protocolName received sent) :
    e.port = port ∧ e.protocol = "UDP-".toList ++ protocolName ∧
      ∃ addr : Addr, e.client = addr.str := by
  rcases udpListenerStep_cases now₁ now₂ port protocolName received sent with
    ⟨err, -, h⟩ | ⟨datagram, addr, rest, -, h, -, hrest⟩ <;> rw [h] at he
  · cases he
  · rcases List.mem_cons.mp he with rfl | he
    · exact ⟨rfl, rfl, addr, rfl⟩
    · exact ⟨(hrest e he).1, (hrest e he).2.1, addr, (hrest e he).2.2.1⟩

theorem handleTcp_reachable {log : List LogEntry} (h : Reachable log) (now₁ now₂ : List Char)
    (addr : Addr) (port : Nat) (protocolName : List Char)
    (received : Except SockError (List (List UInt8))) (sent : Except SockError Unit) :
    Reachable (handleTcp log now₁ now₂ addr port protocolName received sent) := by
  rw [handleTcp_append]
  exact h.append fun e he ↦ ⟨addr, (mem_handleTcp he).2.2⟩

/-- A connection logs `RECEIVED` once if its `recv` returned, and not at all if it raised. -/
theorem countP_handleTcp (now₁ now₂ : List Char) (addr : Addr) (port : Nat)
    (protocolName : List Char) (received : Except SockError (List (List UInt8)))
    (sent : Except SockError Unit) :
    (handleTcp [] now₁ now₂ addr port protocolName received sent).countP
      (·.status = "RECEIVED".toList) = if received.isOk then 1 else 0 := by
  rcases handleTcp_cases now₁ now₂ addr port protocolName received sent with
    ⟨err, rfl, h⟩ | ⟨segments, rest, rfl, h, -, hrest⟩ <;> rw [h]
  · simpa [Except.isOk, Except.toBool] using tcpFailure_ne_received err
  · rw [List.countP_cons, List.countP_eq_zero.mpr fun e he ↦ by simpa using (hrest e he).2.2.2]
    rfl

/-- A turn logs `RECEIVED` once if its `recvfrom` returned, and not at all if it raised. -/
theorem countP_udpListenerStep (now₁ now₂ : List Char) (port : Nat)
    (protocolName : List Char) (received : Except SockError (List UInt8 × Addr))
    (sent : Except SockError Unit) :
    (udpListenerStep [] now₁ now₂ port protocolName received sent).countP
      (·.status = "RECEIVED".toList) = if received.isOk then 1 else 0 := by
  rcases udpListenerStep_cases now₁ now₂ port protocolName received sent with
    ⟨err, rfl, h⟩ | ⟨datagram, addr, rest, rfl, h, -, hrest⟩ <;> rw [h]
  · rfl
  · rw [List.countP_cons, List.countP_eq_zero.mpr fun e he ↦ by simpa using (hrest e he).2.2.2]
    rfl

end ProtocolProbe.Analyzer
