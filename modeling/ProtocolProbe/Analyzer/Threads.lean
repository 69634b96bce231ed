import ProtocolProbe.Analyzer.Stats

/-!
# The analyzer's threads

`__main__` starts one listener thread per entry of `ports`.  A TCP listener runs
`handle_tcp` in a thread of its own for each connection, and a UDP listener handles its
datagrams in turn.  A handler is started with the inputs its socket calls will see, which
fixes the entries it will log.  A step lets a listener start a handler, or lets a running
handler log its next entry: the lock of `log_connection` makes each call one step, and is
not modelled further.  The log only grows (`Threads.statsRows_grow`), and once all handlers
have finished it holds one `RECEIVED` entry per read that returned and `dump_stats` prints
the rows of the sequential log (`Threads.statsRows_finished`).
-/

namespace ProtocolProbe.Analyzer

/-- `ports` of `__main__`: the port, name and transport of each listener it starts. -/
def ports : List (Nat × String × String) :=
  [(53, "DNS", "tcp"), (53, "DNS", "udp"), (22, "SSH", "tcp"), (2222, "SSH-ALT", "tcp"),
    (443, "HTTPS", "tcp"), (8443, "HTTPS-ALT", "tcp"), (5353, "TEST-DNS", "tcp"),
    (5353, "TEST-DNS", "udp")]

/-- The key `dump_stats` gives the entries of a listener's handlers: a `tcp` listener hands
its connections to `handle_tcp`, which logs protocol `TCP-name`, and any other runs
`udp_listener`, which logs `UDP-name`. -/
def listenerKey (listener : Nat × String × String) : List Char :=
  statKey ((if listener.2.2 = "tcp" then "TCP-" else "UDP-").toList ++ listener.2.1.toList,
    listener.1)

/-- One handler call with the inputs its socket calls see: a `handle_tcp`, or one turn of
`udp_listener`. -/
inductive Handler
  | tcp (now₁ now₂ : List Char) (addr : Addr) (port : Nat) (protocolName : List Char)
      (received : Except SockError (List (List UInt8))) (sent : Except SockError Unit)
  | udp (now₁ now₂ : List Char) (port : Nat) (protocolName : List Char)
      (received : Except SockError (List UInt8 × Addr)) (sent : Except SockError Unit)

def Handler.run : Handler → List LogEntry → List LogEntry
  | .tcp now₁ now₂ addr port protocolName received sent, log =>
      handleTcp log now₁ now₂ addr port protocolName received sent
  | .udp now₁ now₂ port protocolName received sent, log =>
      udpListenerStep log now₁ now₂ port protocolName received sent

def Handler.listener : Handler → Nat × String × String
  | .tcp _ _ _ port protocolName _ _ => (port, ⟨protocolName⟩, "tcp")
  | .udp _ _ port protocolName _ _ => (port, ⟨protocolName⟩, "udp")

theorem Handler.run_append (h : Handler) (log : List LogEntry) : h.run log = log ++ h.run [] := by
  cases h
  · exact handleTcp_append ..
  · exact udpListenerStep_append ..

theorem Handler.mem_run {h : Handler} {e : LogEntry} (he : e ∈ h.run []) :
    statKey e.pair = listenerKey h.listener ∧ ∃ a : Addr, e.client = a.str := by
  cases h with
  | tcp now₁ now₂ addr port protocolName received sent =>
      obtain ⟨hport, hprotocol, hclient⟩ := mem_handleTcp he
      exact ⟨by simp [LogEntry.pair, listenerKey, Handler.listener, hport, hprotocol],
        addr, hclient⟩
  | udp now₁ now₂ port protocolName received sent =>
      obtain ⟨hport, hprotocol, hclient⟩ := mem_udpListenerStep he
      exact ⟨by simp [LogEntry.pair, listenerKey, Handler.listener, hport, hprotocol], hclient⟩

/-- Whether the handler's read returned: `recv(4096)`, or `recvfrom(4096)`. -/
def Handler.received : Handler → Bool
  | .tcp _ _ _ _ _ received _ => received.isOk
  | .udp _ _ _ _ received _ => received.isOk

theorem Handler.countP_run (h : Handler) :
    (h.run []).countP (·.status = "RECEIVED".toList) = if h.received then 1 else 0 := by
  cases h
  · exact countP_handleTcp ..
  · exact countP_udpListenerStep ..

theorem countP_flatten_run (handlers : List Handler) :
    ((handlers.map (·.run [])).flatten).countP (·.status = "RECEIVED".toList) =
      handlers.countP Handler.received := by
  induction handlers with
  | nil => rfl
  | cons h handlers ih =>
      rw [List.map_cons, List.flatten_cons, List.countP_append, ih, Handler.countP_run,
        List.countP_cons, Nat.add_comm]

/-- The log the handlers build when each runs to its end before the next starts. -/
def runSequentially (handlers : List Handler) : List LogEntry :=
  handlers.foldl (fun log h ↦ h.run log) []

theorem runSequentially_eq (handlers : List Handler) :
    runSequentially handlers = (handlers.map (·.run [])).flatten := by
  suffices h : ∀ log, handlers.foldl (fun log h ↦ h.run log) log =
      log ++ (handlers.map (·.run [])).flatten from h []
  induction handlers with
  | nil => simp
  | cons h handlers ih => intro log; simp [ih, Handler.run_append h log]

/-- The shared state: the log, the entries each running handler has still to log, and the
handler calls started so far. -/
structure Threads where
  log : List LogEntry
  running : List (List LogEntry)
  spawned : List Handler

/-- A listener of `listeners` starts a handler, or a running handler logs its next entry. -/
inductive Threads.Step (listeners : List (Nat × String × String)) : Threads → Threads → Prop
  | spawn (s : Threads) (h : Handler) (hl : h.listener ∈ listeners) :
      Step listeners s ⟨s.log, h.run [] :: s.running, s.spawned ++ [h]⟩
  | log (s : Threads) (i : Nat) (e : LogEntry) (rest : List LogEntry)
      (h : s.running.get? i = some (e :: rest)) :
      Step listeners s ⟨s.log ++ [e], s.running.set i rest, s.spawned⟩

def Threads.init : Threads := ⟨[], [], []⟩

/-- What every step keeps: the log and the entries still to come are the entries of the
handlers started, reordered, and each handler was started by one of the listeners. -/
structure Threads.Inv (listeners : List (Nat × String × String)) (s : Threads) : Prop where
  perm : (s.log ++ s.running.flatten).Perm (s.spawned.map (·.run [])).flatten
  spawned : ∀ h ∈ s.spawned, h.listener ∈ listeners

section Run

variable {listeners : List (Nat × String × String)}

theorem perm_flatten_set {l : List (List LogEntry)} {i : Nat} {e : LogEntry}
    {rest : List LogEntry} (h : l.get? i = some (e :: rest)) :
    (e :: (l.set i rest).flatten).Perm l.flatten := by
  induction l generalizing i with
  | nil => cases h
  | cons x l ih =>
      cases i with
      | zero =>
          cases h
          rfl
      | succ i =>
          simp only [List.set_cons_succ, List.flatten_cons]
          exact List.perm_middle.symm.trans ((ih h).append_left x)

theorem Threads.Inv.step {s s' : Threads} (h : s.Inv listeners) (hs : Threads.Step listeners s s') :
    s'.Inv listeners := by
  cases hs with
  | spawn handler hl =>
      refine ⟨?_, fun h' hh' ↦ ?_⟩
      · simp only [List.flatten_cons, List.map_append, List.map_cons, List.map_nil,
          List.flatten_append, List.flatten_nil, List.append_nil]
        exact (List.perm_append_comm.append_left s.log).trans
          (by simpa only [List.append_assoc] using h.perm.append_right (handler.run []))
      · rcases List.mem_append.mp hh' with hh' | hh'
        · exact h.spawned h' hh'
        · exact List.mem_singleton.mp hh' ▸ hl
  | log i e rest hi =>
      have hperm : (s.log ++ [e] ++ (s.running.set i rest).flatten).Perm
          (s.log ++ s.running.flatten) := by
        simpa only [List.append_assoc, List.singleton_append] using
          (perm_flatten_set hi).append_left s.log
      exact ⟨hperm.trans h.perm, h.spawned⟩

theorem Threads.inv_of_run {s : Threads}
    (h : Relation.ReflTransGen (Threads.Step listeners) Threads.init s) : s.Inv listeners := by
  induction h with
  | refl => exact ⟨by simp [Threads.init], by simp [Threads.init]⟩
  | tail _ hs ih => exact ih.step hs

theorem Threads.Step.log_prefix {s s' : Threads} (hs : Threads.Step listeners s s') :
    s.log <+: s'.log := by
  cases hs with
  | spawn => exact List.prefix_refl _
  | log => exact List.prefix_append _ _

theorem Threads.log_prefix_of_run {s s' : Threads}
    (h : Relation.ReflTransGen (Threads.Step listeners) s s') : s.log <+: s'.log := by
  induction h with
  | refl => exact List.prefix_refl _
  | tail _ hs ih => exact ih.trans hs.log_prefix

/-- Whatever happens between two calls of `dump_stats`, each row the first prints, the second
prints too, under the same key and with a count, bytes and clients at least as large. -/
theorem Threads.statsRows_grow {s s' : Threads}
    (h : Relation.ReflTransGen (Threads.Step listeners) s s') :
    ∀ row ∈ statsRows s.log, ∃ row' ∈ statsRows s'.log, row'.1 = row.1 ∧ row.2.1 ≤ row'.2.1 ∧
      row.2.2.1 ≤ row'.2.2.1 ∧ row.2.2.2 ≤ row'.2.2.2 :=
  fun _ hrow ↦ statsRows_sublist (Threads.log_prefix_of_run h).sublist hrow

theorem Threads.statsRows_grow_echo :
    Relation.ReflTransGen (Threads.Step ports)
        ⟨[⟨"t3".toList, 53, "UDP-DNS".toList, "('10.0.0.3', 5353)".toList, 2, "6869".toList,
            "RECEIVED".toList⟩],
          [[⟨"t4".toList, 53, "UDP-DNS".toList, "('10.0.0.3', 5353)".toList, 11, [],
            "SENT_ECHO".toList⟩]],
          [.udp "t3".toList "t4".toList 53 "DNS".toList
            (.ok ([0x68, 0x69], ⟨"10.0.0.3".toList, 5353⟩)) (.ok ())]⟩
        ⟨[⟨"t3".toList, 53, "UDP-DNS".toList, "('10.0.0.3', 5353)".toList, 2, "6869".toList,
            "RECEIVED".toList⟩,
          ⟨"t4".toList, 53, "UDP-DNS".toList, "('10.0.0.3', 5353)".toList, 11, [],
            "SENT_ECHO".toList⟩],
          [[]],
          [.udp "t3".toList "t4".toList 53 "DNS".toList
            (.ok ([0x68, 0x69], ⟨"10.0.0.3".toList, 5353⟩)) (.ok ())]⟩ ∧
      ∀ row ∈ statsRows [⟨"t3".toList, 53, "UDP-DNS".toList, "('10.0.0.3', 5353)".toList, 2,
          "6869".toList, "RECEIVED".toList⟩],
        ∃ row' ∈ statsRows [⟨"t3".toList, 53, "UDP-DNS".toList, "('10.0.0.3', 5353)".toList, 2,
            "6869".toList, "RECEIVED".toList⟩,
          ⟨"t4".toList, 53, "UDP-DNS".toList, "('10.0.0.3', 5353)".toList, 11, [],
            "SENT_ECHO".toList⟩],
          row'.1 = row.1 ∧ row.2.1 ≤ row'.2.1 ∧ row.2.2.1 ≤ row'.2.2.1 ∧
            row.2.2.2 ≤ row'.2.2.2 := by
  refine ⟨?run, Threads.statsRows_grow ?run⟩
  exact .single (Threads.Step.log _ 0 _ _ rfl)

theorem Threads.log_perm_of_finished {s : Threads}
    (h : Relation.ReflTransGen (Threads.Step listeners) Threads.init s)
    (hdone : ∀ entries ∈ s.running, entries = []) :
    s.log.Perm (runSequentially s.spawned) := by
  have hperm := (Threads.inv_of_run h).perm
  rwa [List.flatten_eq_nil_iff.mpr hdone, List.append_nil, ← runSequentially_eq] at hperm

/-- However the threads interleave, once every handler has finished the log holds exactly
one `RECEIVED` entry for each connection and each datagram whose read returned: none is
lost and none is logged twice. -/
theorem Threads.received_count {s : Threads}
    (h : Relation.ReflTransGen (Threads.Step listeners) Threads.init s)
    (hdone : ∀ entries ∈ s.running, entries = []) :
    s.log.countP (·.status = "RECEIVED".toList) = s.spawned.countP Handler.received := by
  rw [(Threads.log_perm_of_finished h hdone).countP_eq, runSequentially_eq, countP_flatten_run]

theorem Threads.received_count_echo :
    Relation.ReflTransGen (Threads.Step ports) Threads.init
        ⟨[⟨"t3".toList, 53, "UDP-DNS".toList, "('10.0.0.3', 5353)".toList, 2, "6869".toList,
            "RECEIVED".toList⟩,
          ⟨"t4".toList, 53, "UDP-DNS".toList, "('10.0.0.3', 5353)".toList, 11, [],
            "SENT_ECHO".toList⟩,
          ⟨"t1".toList, 53, "TCP-DNS".toList, "('10.0.0.2', 40000)".toList, 0, [],
            "TIMEOUT".toList⟩],
          [[], []],
          [.udp "t3".toList "t4".toList 53 "DNS".toList
              (.ok ([0x68, 0x69], ⟨"10.0.0.3".toList, 5353⟩)) (.ok ()),
            .tcp "t1".toList "t2".toList ⟨"10.0.0.2".toList, 40000⟩ 53 "DNS".toList
              (.error .timeout) (.ok ())]⟩ ∧
      (∀ entries ∈ ([[], []] : List (List LogEntry)), entries = []) ∧
      [(⟨"t3".toList, 53, "UDP-DNS".toList, "('10.0.0.3', 5353)".toList, 2, "6869".toList,
          "RECEIVED".toList⟩ : LogEntry),
        ⟨"t4".toList, 53, "UDP-DNS".toList, "('10.0.0.3', 5353)".toList, 11, [],
          "SENT_ECHO".toList⟩,
        ⟨"t1".toList, 53, "TCP-DNS".toList, "('10.0.0.2', 40000)".toList, 0, [],
          "TIMEOUT".toList⟩].countP (·.status = "RECEIVED".toList) =
        [Handler.udp "t3".toList "t4".toList 53 "DNS".toList
            (.ok ([0x68, 0x69], ⟨"10.0.0.3".toList, 5353⟩)) (.ok ()),
          .tcp "t1".toList "t2".toList ⟨"10.0.0.2".toList, 40000⟩ 53 "DNS".toList
            (.error .timeout) (.ok ())].countP Handler.received :=
  have hrun := Relation.ReflTransGen.head (Threads.Step.spawn Threads.init (.udp "t3".toList
    "t4".toList 53 "DNS".toList (.ok ([0x68, 0x69], ⟨"10.0.0.3".toList, 5353⟩)) (.ok ()))
      (by decide)) <|
    Relation.ReflTransGen.head (Threads.Step.log _ 0 _ _ rfl) <|
    Relation.ReflTransGen.head (Threads.Step.log _ 0 _ _ rfl) <|
    Relation.ReflTransGen.head (Threads.Step.spawn _ (.tcp "t1".toList "t2".toList
      ⟨"10.0.0.2".toList, 40000⟩ 53 "DNS".toList (.error .timeout) (.ok ())) (by decide)) <|
    Relation.ReflTransGen.head (Threads.Step.log _ 0 _ _ rfl) .refl
  have hdone : ∀ entries ∈ ([[], []] : List (List LogEntry)), entries = [] := by decide
  ⟨hrun, hdone, Threads.received_count hrun hdone⟩

/-- However the handler threads interleave their `log_connection` calls, once all of them
have finished `dump_stats` prints the rows of the log they would have built one after
another, in the order they were started. -/
theorem Threads.statsRows_finished {s : Threads}
    (h : Relation.ReflTransGen (Threads.Step listeners) Threads.init s)
    (hdone : ∀ entries ∈ s.running, entries = []) :
    statsRows s.log = statsRows (runSequentially s.spawned) :=
  statsRows_perm (Threads.log_perm_of_finished h hdone)

theorem Threads.statsRows_interleaved :
    Relation.ReflTransGen (Threads.Step ports) Threads.init
        ⟨[⟨"t3".toList, 53, "UDP-DNS".toList, "('10.0.0.3', 5353)".toList, 2, "6869".toList,
            "RECEIVED".toList⟩,
          ⟨"t1".toList, 53, "TCP-DNS".toList, "('10.0.0.2', 40000)".toList, 0, [],
            "TIMEOUT".toList⟩,
          ⟨"t4".toList, 53, "UDP-DNS".toList, "('10.0.0.3', 5353)".toList, 11, [],
            "SENT_ECHO".toList⟩],
          [[], []],
          [.tcp "t1".toList "t2".toList ⟨"10.0.0.2".toList, 40000⟩ 53 "DNS".toList
              (.error .timeout) (.ok ()),
            .udp "t3".toList "t4".toList 53 "DNS".toList
              (.ok ([0x68, 0x69], ⟨"10.0.0.3".toList, 5353⟩)) (.ok ())]⟩ ∧
      (∀ entries ∈ ([[], []] : List (List LogEntry)), entries = []) ∧
      statsRows [⟨"t3".toList, 53, "UDP-DNS".toList, "('10.0.0.3', 5353)".toList, 2,
          "6869".toList, "RECEIVED".toList⟩,
        ⟨"t1".toList, 53, "TCP-DNS".toList, "('10.0.0.2', 40000)".toList, 0, [],
          "TIMEOUT".toList⟩,
        ⟨"t4".toList, 53, "UDP-DNS".toList, "('10.0.0.3', 5353)".toList, 11, [],
          "SENT_ECHO".toList⟩] =
        statsRows (runSequentially
          [.tcp "t1".toList "t2".toList ⟨"10.0.0.2".toList, 40000⟩ 53 "DNS".toList
              (.error .timeout) (.ok ()),
            .udp "t3".toList "t4".toList 53 "DNS".toList
              (.ok ([0x68, 0x69], ⟨"10.0.0.3".toList, 5353⟩)) (.ok ())]) :=
  have hrun := Relation.ReflTransGen.head (Threads.Step.spawn Threads.init (.tcp "t1".toList
    "t2".toList ⟨"10.0.0.2".toList, 40000⟩ 53 "DNS".toList (.error .timeout) (.ok ()))
      (by decide)) <|
    Relation.ReflTransGen.head (Threads.Step.spawn _ (.udp "t3".toList "t4".toList 53
      "DNS".toList (.ok ([0x68, 0x69], ⟨"10.0.0.3".toList, 5353⟩)) (.ok ())) (by decide)) <|
    Relation.ReflTransGen.head (Threads.Step.log _ 0 _ _ rfl) <|
    Relation.ReflTransGen.head (Threads.Step.log _ 1 _ _ rfl) <|
    Relation.ReflTransGen.head (Threads.Step.log _ 0 _ _ rfl) .refl
  have hdone : ∀ entries ∈ ([[], []] : List (List LogEntry)), entries = [] := by decide
  ⟨hrun, hdone, Threads.statsRows_finished hrun hdone⟩

end Run

end ProtocolProbe.Analyzer
