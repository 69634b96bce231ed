import ProtocolProbe.Analyzer.Threads

/-!
# The order of the log

`log_connection` appends under the lock, so the calls of different threads interleave while
the calls of one thread keep their order.  `Threads.Tagged` names the handler that logged
each entry; once every handler has finished, the log is a merge of the handlers' entry
lists, each in its order (`Threads.log_merge`).

`Threads.SeqStep` is the step as the source takes it: a UDP listener starts its next turn
only once its earlier turns have nothing left to log.  Its runs are runs of `Threads.Step`,
and in them a UDP listener's entries come in the order of its datagrams, provided the
listeners' keys differ, as those of `ports` do (`Threads.udp_in_order`).
-/

namespace ProtocolProbe.Analyzer

/-- The entries of `log` whose tag in `tags` is `k`, in log order. -/
def entriesTagged (log : List LogEntry) (tags : List Nat) (k : Nat) : List LogEntry :=
  ((log.zip tags).filter (·.2 = k)).map (·.1)

theorem entriesTagged_append {log : List LogEntry} {tags : List Nat}
    (h : tags.length = log.length) (e : LogEntry) (t k : Nat) :
    entriesTagged (log ++ [e]) (tags ++ [t]) k =
      entriesTagged log tags k ++ if t = k then [e] else [] := by
  by_cases ht : t = k <;> simp [entriesTagged, List.zip_append h.symm, ht]

theorem entriesTagged_eq_nil {log : List LogEntry} {tags : List Nat} {k : Nat}
    (h : ∀ t ∈ tags, t < k) : entriesTagged log tags k = [] := by
  simp only [entriesTagged, List.map_eq_nil_iff, List.filter_eq_nil_iff, decide_eq_true_eq]
  exact fun p hp ↦ (h p.2 (List.of_mem_zip hp).2).ne

theorem exists_eq_append_cons {l : List (List LogEntry)} {i : Nat} {r : List LogEntry}
    (h : l.get? i = some r) (x : List LogEntry) :
    ∃ A B, l = A ++ r :: B ∧ l.set i x = A ++ x :: B := by
  obtain ⟨hi, rfl⟩ := List.get?_eq_some.mp h
  refine ⟨l.take i, l.drop (i + 1), ?_, by rw [List.set_eq_take_append_cons_drop, if_pos hi]⟩
  conv_lhs => rw [← List.take_append_drop i l, List.drop_eq_getElem_cons hi]
  rfl

theorem getElem?_append_cons_of_ne {α : Type} {l₁ l₂ : List α} {x y : α} {k : Nat}
    (hk : k ≠ l₁.length) : (l₁ ++ x :: l₂)[k]? = (l₁ ++ y :: l₂)[k]? := by
  rcases Nat.lt_or_gt_of_ne hk with hk | hk
  · rw [List.getElem?_append_left hk, List.getElem?_append_left hk]
  · rw [List.getElem?_append_right hk.le, List.getElem?_append_right hk.le]
    obtain ⟨m, hm⟩ : ∃ m, k - l₁.length = m + 1 := ⟨k - l₁.length - 1, by omega⟩
    rw [hm, List.getElem?_cons_succ, List.getElem?_cons_succ]

/-! ### Each handler's entries keep their order -/

/-- Tags for the log of `s`, one per entry, each naming a handler started by its place in
`spawned`: the entries tagged `k`, then what handler `k` has still to log, are the entries of
handler `k`.  A step puts a started handler at the front of `running`, so handler `k` has
its entries still to come at `running.reverse[k]`. -/
structure Threads.Tagged (s : Threads) (tags : List Nat) : Prop where
  length_tags : tags.length = s.log.length
  lt : ∀ t ∈ tags, t < s.spawned.length
  length_running : s.running.length = s.spawned.length
  split : ∀ k, (s.spawned.map (·.run []))[k]? =
    s.running.reverse[k]?.map (entriesTagged s.log tags k ++ ·)

section Tagged

variable {listeners : List (Nat × String × String)} {s : Threads} {tags : List Nat}

theorem Threads.Tagged.spawn (ht : s.Tagged tags) (h : Handler) :
    Threads.Tagged ⟨s.log, h.run [] :: s.running, s.spawned ++ [h]⟩ tags where
  length_tags := ht.length_tags
  lt t htag := by simpa using Nat.lt_succ_of_lt (ht.lt t htag)
  length_running := by simp [ht.length_running]
  split k := by
    have hn : (s.spawned.map (·.run [])).length = s.spawned.length := List.length_map _ _
    have hr : s.running.reverse.length = s.spawned.length := by
      rw [List.length_reverse, ht.length_running]
    simp only [List.reverse_cons, List.map_append, List.map_cons, List.map_nil]
    rcases Nat.lt_or_ge k s.spawned.length with hk | hk
    · rw [List.getElem?_append_left (hn ▸ hk), List.getElem?_append_left (hr ▸ hk), ht.split k]
    · rw [List.getElem?_append_right (hn ▸ hk), List.getElem?_append_right (hr ▸ hk), hn, hr]
      obtain ⟨m, rfl⟩ := Nat.exists_eq_add_of_le hk
      rw [Nat.add_sub_cancel_left]
      cases m with
      | zero =>
          rw [List.getElem?_cons_zero, Option.map_some', Nat.add_zero, entriesTagged_eq_nil ht.lt,
            List.nil_append]
      | succ m => simp only [List.getElem?_cons_succ, List.getElem?_nil, Option.map_none']

theorem Threads.Tagged.log (ht : s.Tagged tags) {i : Nat} {e : LogEntry} {rest : List LogEntry}
    (h : s.running.get? i = some (e :: rest)) :
    ∃ t, Threads.Tagged ⟨s.log ++ [e], s.running.set i rest, s.spawned⟩ (tags ++ [t]) := by
  obtain ⟨A, B, hrun, hset⟩ := exists_eq_append_cons h rest
  have hB : B.length < s.spawned.length := by
    rw [← ht.length_running, hrun]; simp only [List.length_append, List.length_cons]; omega
  have hlength : (tags ++ [B.length]).length = (s.log ++ [e]).length := by
    rw [List.length_append, List.length_append, ht.length_tags]
    rfl
  refine ⟨B.length, ⟨hlength, fun t htag ↦ ?_, by rw [List.length_set, ht.length_running],
    fun k ↦ ?_⟩⟩
  · rcases List.mem_append.mp htag with htag | htag
    · exact ht.lt t htag
    · exact List.mem_singleton.mp htag ▸ hB
  · have hsplit := ht.split k
    rw [hrun, List.reverse_append, List.reverse_cons, List.append_assoc,
      List.singleton_append] at hsplit
    rw [hset, List.reverse_append, List.reverse_cons, List.append_assoc, List.singleton_append,
      entriesTagged_append ht.length_tags, hsplit]
    by_cases hk : B.length = k
    · subst hk
      have hlen : B.reverse.length ≤ B.length := (List.length_reverse B).le
      rw [List.getElem?_append_right hlen, List.getElem?_append_right hlen,
        List.length_reverse, Nat.sub_self, List.getElem?_cons_zero, List.getElem?_cons_zero,
        Option.map_some', Option.map_some', if_pos rfl, List.append_assoc, List.singleton_append]
    · rw [if_neg hk, List.append_nil,
        getElem?_append_cons_of_ne (by rw [List.length_reverse]; exact Ne.symm hk)]

theorem Threads.Tagged.step {s' : Threads} (ht : s.Tagged tags)
    (hs : Threads.Step listeners s s') : ∃ tags', s'.Tagged tags' := by
  cases hs with
  | spawn h _ => exact ⟨tags, ht.spawn h⟩
  | log i e rest hi =>
      obtain ⟨t, ht'⟩ := ht.log hi
      exact ⟨_, ht'⟩

theorem Threads.tagged_of_run (h : Relation.ReflTransGen (Threads.Step listeners) Threads.init s) :
    ∃ tags, s.Tagged tags := by
  induction h with
  | refl => exact ⟨[], ⟨rfl, by simp [Threads.init], rfl, fun k ↦ by simp [Threads.init]⟩⟩
  | tail _ hs ih =>
      obtain ⟨tags, ht⟩ := ih
      exact ht.step hs

theorem Threads.Tagged.mem_running (ht : s.Tagged tags) {r : List LogEntry}
    (hr : r ∈ s.running) :
    ∃ k, ∃ hk : k < s.spawned.length, s.running.reverse[k]? = some r ∧
      r <:+ s.spawned[k].run [] := by
  obtain ⟨k, hk⟩ := List.mem_iff_getElem?.mp (List.mem_reverse.mpr hr)
  have hsplit := ht.split k
  rw [hk, List.getElem?_map, Option.map_some', Option.map_eq_some'] at hsplit
  obtain ⟨h, hh, hrun⟩ := hsplit
  obtain ⟨hlt, rfl⟩ := List.getElem?_eq_some_iff.mp hh
  exact ⟨k, hlt, hk, hrun ▸ List.suffix_append _ _⟩

/-- However the handler threads interleave their `log_connection` calls, once all of them
have finished the log is a merge of their entry lists: each entry can be tagged with one
handler started, so that the entries tagged with a handler are all its entries, in the
order it logged them. -/
theorem Threads.log_merge
    (h : Relation.ReflTransGen (Threads.Step listeners) Threads.init s)
    (hdone : ∀ entries ∈ s.running, entries = []) :
    ∃ tags : List Nat, tags.length = s.log.length ∧ (∀ t ∈ tags, t < s.spawned.length) ∧
      ∀ k (hk : k < s.spawned.length), entriesTagged s.log tags k = s.spawned[k].run [] := by
  obtain ⟨tags, ht⟩ := Threads.tagged_of_run h
  refine ⟨tags, ht.length_tags, ht.lt, fun k hk ↦ ?_⟩
  have hk' : k < s.running.reverse.length := by simpa [ht.length_running] using hk
  have hsplit := ht.split k
  rw [List.getElem?_eq_getElem hk', hdone _ (List.mem_reverse.mp (List.getElem_mem hk')),
    List.getElem?_map, List.getElem?_eq_getElem hk] at hsplit
  simpa using hsplit.symm

theorem Threads.log_merge_interleaved :
    Relation.ReflTransGen (Threads.Step ports) Threads.init
        ⟨[⟨"t3".toList, 53, "UDP-DNS".toList, "('10.0.0.3', 5353)".toList, 2, "6869".toList,
            "RECEIVED".toList⟩,
          ⟨"t1".toList, 53, "TCP-DNS".toList, "('10.0.0.2', 40000)".toList, 0, [],
            "TIMEOUT".toList⟩,
          ⟨"t4".toList, 53, "UDP-DNS".toList, "('10.0.0.3', 5353)".toList, 11, [],
            "SENT_ECHO".toList⟩],
          [[], []],
          [.tcp "t1".toList "t2".toList ⟨"10.0.0.2".toList, 40000⟩ 53 "DNS".toList
              (.error .timeout) (.ok ()),
            .udp "t3".toList "t4".toList 53 "DNS".toList
              (.ok ([0x68, 0x69], ⟨"10.0.0.3".toList, 5353⟩)) (.ok ())]⟩ ∧
      (∀ entries ∈ ([[], []] : List (List LogEntry)), entries = []) ∧
      ∃ tags : List Nat, tags.length = 3 ∧ (∀ t ∈ tags, t < 2) ∧
        ∀ k (hk : k < 2), entriesTagged
          [⟨"t3".toList, 53, "UDP-DNS".toList, "('10.0.0.3', 5353)".toList, 2, "6869".toList,
              "RECEIVED".toList⟩,
            ⟨"t1".toList, 53, "TCP-DNS".toList, "('10.0.0.2', 40000)".toList, 0, [],
              "TIMEOUT".toList⟩,
            ⟨"t4".toList, 53, "UDP-DNS".toList, "('10.0.0.3', 5353)".toList, 11, [],
              "SENT_ECHO".toList⟩] tags k =
          ([.tcp "t1".toList "t2".toList ⟨"10.0.0.2".toList, 40000⟩ 53 "DNS".toList
              (.error .timeout) (.ok ()),
            .udp "t3".toList "t4".toList 53 "DNS".toList
              (.ok ([0x68, 0x69], ⟨"10.0.0.3".toList, 5353⟩)) (.ok ())] :
            List Handler)[k].run [] :=
  have hrun := Relation.ReflTransGen.head (Threads.Step.spawn Threads.init (.tcp "t1".toList
    "t2".toList ⟨"10.0.0.2".toList, 40000⟩ 53 "DNS".toList (.error .timeout) (.ok ()))
      (by decide)) <|
    Relation.ReflTransGen.head (Threads.Step.spawn _ (.udp "t3".toList "t4".toList 53
      "DNS".toList (.ok ([0x68, 0x69], ⟨"10.0.0.3".toList, 5353⟩)) (.ok ())) (by decide)) <|
    Relation.ReflTransGen.head (Threads.Step.log _ 0 _ _ rfl) <|
    Relation.ReflTransGen.head (Threads.Step.log _ 1 _ _ rfl) <|
    Relation.ReflTransGen.head (Threads.Step.log _ 0 _ _ rfl) .refl
  have hdone : ∀ entries ∈ ([[], []] : List (List LogEntry)), entries = [] := by decide
  ⟨hrun, hdone, Threads.log_merge hrun hdone⟩

end Tagged

/-! ### A UDP listener handles its datagrams in turn -/

/-- A step as the source takes it.  A TCP listener hands each connection to a thread of its
own, so its handlers run side by side as in `Threads.Step`; a UDP listener handles each
datagram in its own loop, so it starts its next turn only once each turn it started before
has nothing left to log. -/
inductive Threads.SeqStep (listeners : List (Nat × String × String)) :
    Threads → Threads → Prop
  | spawn (s : Threads) (h : Handler) (hl : h.listener ∈ listeners)
      (hidle : h.listener.2.2 = "udp" → ∀ k (hk : k < s.spawned.length),
        s.spawned[k].listener = h.listener → s.running.reverse[k]? = some []) :
      SeqStep listeners s ⟨s.log, h.run [] :: s.running, s.spawned ++ [h]⟩
  | log (s : Threads) (i : Nat) (e : LogEntry) (rest : List LogEntry)
      (h : s.running.get? i = some (e :: rest)) :
      SeqStep listeners s ⟨s.log ++ [e], s.running.set i rest, s.spawned⟩

section InOrder

variable {listeners : List (Nat × String × String)} {s s' : Threads}

theorem Threads.SeqStep.step (hs : Threads.SeqStep listeners s s') :
    Threads.Step listeners s s' := by
  cases hs with
  | spawn h hl => exact .spawn s h hl
  | log i e rest h => exact .log s i e rest h

/-- The runs of the listener threads as the source runs them are runs of `Threads.Step`. -/
theorem Threads.run_of_seqRun (h : Relation.ReflTransGen (Threads.SeqStep listeners) s s') :
    Relation.ReflTransGen (Threads.Step listeners) s s' :=
  h.mono fun _ _ ↦ Threads.SeqStep.step

theorem runSequentially_append (hs ks : List Handler) :
    runSequentially (hs ++ ks) = runSequentially hs ++ runSequentially ks := by
  simp [runSequentially_eq]

/-- What the steps of `Threads.SeqStep` keep for a UDP listener `L`: at most one handler has
entries of `L`'s key still to log, and the entries of that key logged and still to come are
those of `L`'s turns, one after another. -/
structure Threads.InOrder (L : Nat × String × String) (s : Threads) : Prop where
  pending : s.running.countP (fun r ↦ r.any fun e ↦ statKey e.pair = listenerKey L) ≤ 1
  filter : s.log.filter (fun e ↦ statKey e.pair = listenerKey L) ++
      s.running.flatten.filter (fun e ↦ statKey e.pair = listenerKey L) =
    runSequentially (s.spawned.filter (·.listener = L))

theorem key_run_iff (hkeys : (listeners.map listenerKey).Nodup) {L : Nat × String × String}
    (hL : L ∈ listeners) {h : Handler} (hh : h.listener ∈ listeners) {e : LogEntry}
    (he : e ∈ h.run []) : statKey e.pair = listenerKey L ↔ h.listener = L := by
  rw [(Handler.mem_run he).1]
  exact ⟨fun hk ↦ List.inj_on_of_nodup_map hkeys hh hL hk, fun hk ↦ hk ▸ rfl⟩

theorem Threads.Tagged.none_pending (hkeys : (listeners.map listenerKey).Nodup)
    {L : Nat × String × String} (hL : L ∈ listeners) {tags : List Nat} (ht : s.Tagged tags)
    (hinv : s.Inv listeners) (hidle : ∀ k (hk : k < s.spawned.length),
      s.spawned[k].listener = L → s.running.reverse[k]? = some []) :
    ∀ r ∈ s.running, ∀ e ∈ r, ¬statKey e.pair = listenerKey L := by
  intro r hr e he hkey
  obtain ⟨k, hk, hrk, hsuf⟩ := ht.mem_running hr
  have hkL := (key_run_iff hkeys hL (hinv.spawned _ (List.getElem_mem hk)) (hsuf.subset he)).mp hkey
  rw [hidle k hk hkL, Option.some.injEq] at hrk
  exact List.not_mem_nil e (hrk ▸ he)

theorem Threads.InOrder.spawn_self (hkeys : (listeners.map listenerKey).Nodup)
    {L : Nat × String × String} (hL : L ∈ listeners) (ho : s.InOrder L) {h : Handler}
    (hhL : h.listener = L)
    (hnone : ∀ r ∈ s.running, ∀ e ∈ r, ¬statKey e.pair = listenerKey L) :
    Threads.InOrder L ⟨s.log, h.run [] :: s.running, s.spawned ++ [h]⟩ := by
  have hrun : (h.run []).filter (fun e ↦ statKey e.pair = listenerKey L) = h.run [] :=
    List.filter_eq_self.mpr fun e he ↦ by
      simpa using (key_run_iff hkeys hL (hhL ▸ hL) he).mpr hhL
  have hrest : s.running.flatten.filter (fun e ↦ statKey e.pair = listenerKey L) = [] :=
    List.filter_eq_nil_iff.mpr fun e he ↦ by
      obtain ⟨r, hr, he⟩ := List.mem_flatten.mp he
      simpa using hnone r hr e he
  have hzero : s.running.countP (fun r ↦ r.any fun e ↦ statKey e.pair = listenerKey L) = 0 :=
    List.countP_eq_zero.mpr fun r hr ↦ by simpa using hnone r hr
  have hfilter := ho.filter
  rw [hrest, List.append_nil] at hfilter
  refine ⟨by simp only [List.countP_cons, hzero]; split <;> omega, ?_⟩
  simp only [List.flatten_cons, List.filter_append, hrun, hrest, List.append_nil,
    List.filter_singleton, hhL, decide_True, cond_true, runSequentially_append, hfilter]
  simp [runSequentially_eq]

theorem Threads.InOrder.spawn_other (hkeys : (listeners.map listenerKey).Nodup)
    {L : Nat × String × String} (hL : L ∈ listeners) (ho : s.InOrder L) {h : Handler}
    (hl : h.listener ∈ listeners) (hhL : h.listener ≠ L) :
    Threads.InOrder L ⟨s.log, h.run [] :: s.running, s.spawned ++ [h]⟩ := by
  have hnot : ∀ e ∈ h.run [], ¬statKey e.pair = listenerKey L :=
    fun e he ↦ (key_run_iff hkeys hL hl he).not.mpr hhL
  have hrun : (h.run []).filter (fun e ↦ statKey e.pair = listenerKey L) = [] :=
    List.filter_eq_nil_iff.mpr fun e he ↦ by simpa using hnot e he
  have hany : (h.run []).any (fun e ↦ statKey e.pair = listenerKey L) = false :=
    List.any_eq_false.mpr fun e he ↦ by simpa using hnot e he
  refine ⟨by simpa only [List.countP_cons, hany] using ho.pending, ?_⟩
  simp only [List.flatten_cons, List.filter_append, hrun, List.nil_append,
    List.filter_singleton, hhL, decide_False, cond_false, List.append_nil]
  exact ho.filter

/-- A handler logs its next entry: when it has `L`'s key, no other handler has entries of that
key still to come, so it is the next of `L`'s entries. -/
theorem Threads.InOrder.log {L : Nat × String × String} (ho : s.InOrder L) {i : Nat}
    {e : LogEntry} {rest : List LogEntry} (hi : s.running.get? i = some (e :: rest)) :
    Threads.InOrder L ⟨s.log ++ [e], s.running.set i rest, s.spawned⟩ := by
  obtain ⟨A, B, hrun, hset⟩ := exists_eq_append_cons hi rest
  have hpending := ho.pending
  have hfilter := ho.filter
  rw [hrun] at hpending hfilter
  simp only [List.countP_append, List.countP_cons, List.any_cons] at hpending
  refine ⟨?_, ?_⟩
  · simp only [hset, List.countP_append, List.countP_cons]
    cases hr : rest.any fun e ↦ statKey e.pair = listenerKey L <;>
      simp only [hr, Bool.or_true, Bool.or_false, Bool.false_eq_true, ite_true, if_false]
        at hpending ⊢ <;>
      omega
  · simp only [hset, List.flatten_append, List.flatten_cons, List.filter_append] at hfilter ⊢
    by_cases hP : statKey e.pair = listenerKey L
    · have hzero : A.countP (fun r ↦ r.any fun e ↦ statKey e.pair = listenerKey L) = 0 := by
        simp only [hP, decide_True, Bool.true_or, ite_true] at hpending
        omega
      have hA : A.flatten.filter (fun e ↦ statKey e.pair = listenerKey L) = [] := by
        rw [List.filter_flatten, List.flatten_eq_nil_iff]
        intro l hl
        obtain ⟨r, hr, rfl⟩ := List.mem_map.mp hl
        simpa using List.countP_eq_zero.mp hzero r hr
      rw [List.filter_cons_of_pos (by exact decide_eq_true hP), hA] at hfilter
      rw [List.filter_singleton, hA, decide_eq_true hP, cond_true]
      simpa only [List.nil_append, List.append_assoc, List.singleton_append] using hfilter
    · rw [List.filter_cons_of_neg (by simpa using hP)] at hfilter
      rw [List.filter_singleton, decide_eq_false hP, cond_false, List.append_nil]
      exact hfilter

theorem Threads.InOrder.step (hkeys : (listeners.map listenerKey).Nodup)
    {L : Nat × String × String} (hL : L ∈ listeners) (hudp : L.2.2 = "udp") {tags : List Nat}
    (ht : s.Tagged tags) (hinv : s.Inv listeners) (ho : s.InOrder L)
    (hs : Threads.SeqStep listeners s s') : s'.InOrder L := by
  cases hs with
  | spawn h hl hidle =>
      by_cases hhL : h.listener = L
      · refine ho.spawn_self hkeys hL hhL (ht.none_pending hkeys hL hinv fun k hk hk' ↦ ?_)
        exact hidle (hhL ▸ hudp) k hk (hk'.trans hhL.symm)
      · exact ho.spawn_other hkeys hL hl hhL
  | log i e rest hi => exact ho.log hi

theorem Threads.inOrder_of_run (hkeys : (listeners.map listenerKey).Nodup)
    {L : Nat × String × String} (hL : L ∈ listeners) (hudp : L.2.2 = "udp")
    (h : Relation.ReflTransGen (Threads.SeqStep listeners) Threads.init s) : s.InOrder L := by
  induction h with
  | refl => exact ⟨by simp [Threads.init], by simp [Threads.init, runSequentially]⟩
  | tail hrun hs ih =>
      obtain ⟨tags, ht⟩ := Threads.tagged_of_run (Threads.run_of_seqRun hrun)
      exact ih.step hkeys hL hudp ht (Threads.inv_of_run (Threads.run_of_seqRun hrun)) hs

/-- As the source runs the listener threads, a UDP listener's entries come in the order of
its datagrams: whatever the other threads log in between, the entries under its key are the
start of what its turns log one after another. -/
theorem Threads.udp_in_order (hkeys : (listeners.map listenerKey).Nodup)
    {L : Nat × String × String} (hL : L ∈ listeners) (hudp : L.2.2 = "udp")
    (h : Relation.ReflTransGen (Threads.SeqStep listeners) Threads.init s) :
    s.log.filter (fun e ↦ statKey e.pair = listenerKey L) <+:
      runSequentially (s.spawned.filter (·.listener = L)) :=
  (Threads.inOrder_of_run hkeys hL hudp h).filter ▸ List.prefix_append _ _

theorem Threads.udp_in_order_two :
    (ports.map listenerKey).Nodup ∧ (53, "DNS", "udp") ∈ ports ∧
      (53, "DNS", "udp").2.2 = "udp" ∧
      Relation.ReflTransGen (Threads.SeqStep ports) Threads.init
        ⟨[⟨"t3".toList, 53, "UDP-DNS".toList, "('10.0.0.3', 5353)".toList, 2, "6869".toList,
            "RECEIVED".toList⟩,
          ⟨"t1".toList, 53, "TCP-DNS".toList, "('10.0.0.2', 40000)".toList, 0, [],
            "TIMEOUT".toList⟩,
          ⟨"t4".toList, 53, "UDP-DNS".toList, "('10.0.0.3', 5353)".toList, 11, [],
            "SENT_ECHO".toList⟩,
          ⟨"t5".toList, 53, "UDP-DNS".toList, "('10.0.0.4', 5353)".toList, 2, "6f6b".toList,
            "RECEIVED".toList⟩],
          [[⟨"t6".toList, 53, "UDP-DNS".toList, "('10.0.0.4', 5353)".toList, 11, [],
            "SENT_ECHO".toList⟩], [], []],
          [.udp "t3".toList "t4".toList 53 "DNS".toList
              (.ok ([0x68, 0x69], ⟨"10.0.0.3".toList, 5353⟩)) (.ok ()),
            .tcp "t1".toList "t2".toList ⟨"10.0.0.2".toList, 40000⟩ 53 "DNS".toList
              (.error .timeout) (.ok ()),
            .udp "t5".toList "t6".toList 53 "DNS".toList
              (.ok ([0x6f, 0x6b], ⟨"10.0.0.4".toList, 5353⟩)) (.ok ())]⟩ ∧
      [(⟨"t3".toList, 53, "UDP-DNS".toList, "('10.0.0.3', 5353)".toList, 2, "6869".toList,
          "RECEIVED".toList⟩ : LogEntry),
        ⟨"t1".toList, 53, "TCP-DNS".toList, "('10.0.0.2', 40000)".toList, 0, [],
          "TIMEOUT".toList⟩,
        ⟨"t4".toList, 53, "UDP-DNS".toList, "('10.0.0.3', 5353)".toList, 11, [],
          "SENT_ECHO".toList⟩,
        ⟨"t5".toList, 53, "UDP-DNS".toList, "('10.0.0.4', 5353)".toList, 2, "6f6b".toList,
          "RECEIVED".toList⟩].filter
          (fun e ↦ statKey e.pair = listenerKey (53, "DNS", "udp")) <+:
        runSequentially ([Handler.udp "t3".toList "t4".toList 53 "DNS".toList
            (.ok ([0x68, 0x69], ⟨"10.0.0.3".toList, 5353⟩)) (.ok ()),
          .tcp "t1".toList "t2".toList ⟨"10.0.0.2".toList, 40000⟩ 53 "DNS".toList
            (.error .timeout) (.ok ()),
          .udp "t5".toList "t6".toList 53 "DNS".toList
            (.ok ([0x6f, 0x6b], ⟨"10.0.0.4".toList, 5353⟩)) (.ok ())].filter
          (·.listener = (53, "DNS", "udp"))) :=
  have hkeys : (ports.map listenerKey).Nodup := by decide
  have hL : (53, "DNS", "udp") ∈ ports := by decide
  have hrun := Relation.ReflTransGen.head (Threads.SeqStep.spawn Threads.init (.udp "t3".toList
    "t4".toList 53 "DNS".toList (.ok ([0x68, 0x69], ⟨"10.0.0.3".toList, 5353⟩)) (.ok ()))
      (by decide) (by decide)) <|
    Relation.ReflTransGen.head (Threads.SeqStep.log _ 0 _ _ rfl) <|
    Relation.ReflTransGen.head (Threads.SeqStep.spawn _ (.tcp "t1".toList "t2".toList
      ⟨"10.0.0.2".toList, 40000⟩ 53 "DNS".toList (.error .timeout) (.ok ())) (by decide)
      (by decide)) <|
    Relation.ReflTransGen.head (Threads.SeqStep.log _ 0 _ _ rfl) <|
    Relation.ReflTransGen.head (Threads.SeqStep.log _ 1 _ _ rfl) <|
    Relation.ReflTransGen.head (Threads.SeqStep.spawn _ (.udp "t5".toList "t6".toList 53
      "DNS".toList (.ok ([0x6f, 0x6b], ⟨"10.0.0.4".toList, 5353⟩)) (.ok ())) (by decide)
      (by decide)) <|
    Relation.ReflTransGen.head (Threads.SeqStep.log _ 0 _ _ rfl) .refl
  ⟨hkeys, hL, rfl, hrun, Threads.udp_in_order hkeys hL rfl hrun⟩

end InOrder

end ProtocolProbe.Analyzer
