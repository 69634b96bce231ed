import ProtocolProbe.Analyzer.Log

/-!
# The statistics of `dump_stats`

Every 30 seconds `dump_stats` takes the lock and groups the log into a dict keyed by
`f"{protocol}:{port}"`.  Each bucket counts its entries and their bytes and collects
their clients, and the buckets are printed sorted by key.  The dict is an association
list in insertion order.  `groupStats` states what the grouping is for: one tally per
distinct (protocol, port) pair.  The loop computes it up to order.  The key never merges
two pairs, even for protocol labels that hold `:`, because the port's text is all digits.
-/

namespace ProtocolProbe.Analyzer

/-- The (protocol, port) pair `dump_stats` groups by. -/
def LogEntry.pair (e : LogEntry) : List Char × Nat := (e.protocol, e.port)

/-- `f"{entry['protocol']}:{entry['port']}"` for the entry's pair. -/
def statKey (p : List Char × Nat) : List Char := p.1 ++ ':' :: Nat.toDigits 10 p.2

/-- A value of the `stats` dict: `{'count': ..., 'bytes': ..., 'clients': set(...)}`. -/
structure Bucket where
  count : Nat
  bytes : Nat
  clients : Finset (List Char)
deriving DecidableEq, Inhabited

/-- `{'count': 0, 'bytes': 0, 'clients': set()}`. -/
def Bucket.empty : Bucket := ⟨0, 0, ∅⟩

/-- The three updates of `stats[key]` for `entry`. -/
def Bucket.record (b : Bucket) (e : LogEntry) : Bucket :=
  ⟨b.count + 1, b.bytes + e.dataLen, insert e.client b.clients⟩

/-- `if key not in stats: stats[key] = {...}`. -/
def openBucket (stats : List (List Char × Bucket)) (key : List Char) :
    List (List Char × Bucket) :=
  if key ∈ stats.map Prod.fst then stats else stats ++ [(key, Bucket.empty)]

/-- `stats[key]` replaced by `f stats[key]`. -/
def updateBucket (stats : List (List Char × Bucket)) (key : List Char) (f : Bucket → Bucket) :
    List (List Char × Bucket) :=
  stats.map fun kb ↦ if kb.1 = key then (kb.1, f kb.2) else kb

/-- One pass of the loop of `dump_stats`. -/
def addEntry (stats : List (List Char × Bucket)) (e : LogEntry) : List (List Char × Bucket) :=
  let key := statKey e.pair
  updateBucket (openBucket stats key) key (·.record e)

/-- The `stats` dict `dump_stats` builds from the log it reads under the lock. -/
def dumpStats (log : List LogEntry) : List (List Char × Bucket) := log.foldl addEntry []

/-! ### What the grouping is for -/

/-- The bucket a list of entries should give: how many there are, their bytes, and the set
of their clients. -/
def tally (entries : List LogEntry) : Bucket :=
  ⟨entries.length, (entries.map LogEntry.dataLen).sum, (entries.map LogEntry.client).toFinset⟩

/-- One bucket for each distinct (protocol, port) pair of the log, under that pair's key,
tallying the entries with that pair. -/
def groupStats (log : List LogEntry) : List (List Char × Bucket) :=
  (log.map LogEntry.pair).dedup.map fun p ↦ (statKey p, tally (log.filter (·.pair = p)))

@[simp] theorem tally_nil : tally [] = Bucket.empty := rfl

theorem tally_append_singleton (entries : List LogEntry) (e : LogEntry) :
    tally (entries ++ [e]) = (tally entries).record e := by
  simp [tally, Bucket.record, List.toFinset_append, Finset.union_comm, Finset.insert_eq]

/-! ### The key never merges two pairs -/

/-- Joins at a separator that neither tail holds have equal heads and equal tails. -/
theorem append_cons_cancel {sep : Char} {p q s t : List Char} (hs : sep ∉ s) (ht : sep ∉ t)
    (h : p ++ sep :: s = q ++ sep :: t) : p = q ∧ s = t := by
  induction p generalizing q with
  | nil =>
      cases q with
      | nil => simpa using h
      | cons c q =>
          simp only [List.nil_append, List.cons_append, List.cons.injEq] at h
          exact absurd (h.2 ▸ List.mem_append_right q (List.mem_cons_self sep t)) hs
  | cons a p ih =>
      cases q with
      | nil =>
          simp only [List.nil_append, List.cons_append, List.cons.injEq] at h
          exact absurd (h.2 ▸ List.mem_append_right p (List.mem_cons_self sep s)) ht
      | cons c q =>
          simp only [List.cons_append, List.cons.injEq] at h
          obtain ⟨rfl, h⟩ := h
          simpa using ih h

theorem statKey_injective : Function.Injective statKey := fun p q h ↦ by
  have hcolon : ∀ n, ':' ∉ Nat.toDigits 10 n := not_mem_toDigits (by decide)
  obtain ⟨h1, h2⟩ := append_cons_cancel (hcolon _) (hcolon _) h
  exact Prod.ext h1 (toDigits_injective h2)

/-! ### One pass of the loop -/

@[simp] theorem map_fst_updateBucket (stats : List (List Char × Bucket)) (key : List Char)
    (f : Bucket → Bucket) : (updateBucket stats key f).map Prod.fst = stats.map Prod.fst := by
  simp only [updateBucket, List.map_map]
  exact List.map_congr_left fun kb _ ↦ by by_cases h : kb.1 = key <;> simp [h]

theorem of_mem_updateBucket {stats : List (List Char × Bucket)} {key k : List Char}
    {f : Bucket → Bucket} {b : Bucket} (h : (k, b) ∈ updateBucket stats key f) :
    ∃ b', (k, b') ∈ stats ∧ b = if k = key then f b' else b' := by
  obtain ⟨⟨k', b'⟩, hmem, heq⟩ := List.mem_map.mp h
  by_cases hk : k' = key
  · subst hk
    obtain ⟨rfl, rfl⟩ := Prod.mk.inj (by simpa using heq)
    exact ⟨b', hmem, by simp⟩
  · obtain ⟨rfl, rfl⟩ := Prod.mk.inj (by simpa [hk] using heq)
    exact ⟨b', hmem, by simp [hk]⟩

theorem mem_map_fst_openBucket {stats : List (List Char × Bucket)} {key k : List Char} :
    k ∈ (openBucket stats key).map Prod.fst ↔ k ∈ stats.map Prod.fst ∨ k = key := by
  unfold openBucket
  split
  · next hk => exact ⟨.inl, fun h ↦ h.elim id fun h ↦ h ▸ hk⟩
  · simp only [List.map_append, List.map_cons, List.map_nil, List.mem_append, List.mem_singleton]

theorem nodup_openBucket {stats : List (List Char × Bucket)} (h : (stats.map Prod.fst).Nodup)
    (key : List Char) : ((openBucket stats key).map Prod.fst).Nodup := by
  unfold openBucket
  split
  · exact h
  · next hk =>
      rw [List.map_append]
      exact h.append (List.nodup_singleton key) (List.disjoint_singleton.mpr hk)

theorem mem_openBucket {stats : List (List Char × Bucket)} {key k : List Char} {b : Bucket} :
    (k, b) ∈ openBucket stats key ↔
      (k, b) ∈ stats ∨ key ∉ stats.map Prod.fst ∧ k = key ∧ b = Bucket.empty := by
  unfold openBucket
  split
  · next hk => exact ⟨.inl, fun h ↦ h.elim id fun h ↦ absurd hk h.1⟩
  · next hk =>
      simp only [List.mem_append, List.mem_singleton, Prod.mk.injEq, hk, not_false_eq_true,
        true_and]

/-- What the loop of `dump_stats` keeps after the entries `log`: one bucket for each key of
the log, and under each key the tally of the entries with that key. -/
structure StatsInv (log : List LogEntry) (stats : List (List Char × Bucket)) : Prop where
  nodup : (stats.map Prod.fst).Nodup
  mem_keys : ∀ k, k ∈ stats.map Prod.fst ↔ ∃ e ∈ log, statKey e.pair = k
  bucket : ∀ k b, (k, b) ∈ stats → b = tally (log.filter (statKey ·.pair = k))

theorem filter_append_singleton_key (log : List LogEntry) (e : LogEntry) (k : List Char) :
    (log ++ [e]).filter (statKey ·.pair = k) =
      if statKey e.pair = k then log.filter (statKey ·.pair = k) ++ [e]
      else log.filter (statKey ·.pair = k) := by
  by_cases h : statKey e.pair = k <;> simp [List.filter_append, h]

/-- One pass of the loop keeps the invariant. -/
theorem StatsInv.addEntry {log : List LogEntry} {stats : List (List Char × Bucket)}
    (h : StatsInv log stats) (e : LogEntry) : StatsInv (log ++ [e]) (addEntry stats e) where
  nodup := by
    simpa [Analyzer.addEntry] using nodup_openBucket h.nodup _
  mem_keys k := by
    simp only [Analyzer.addEntry, map_fst_updateBucket, mem_map_fst_openBucket, h.mem_keys,
      List.mem_append, List.mem_singleton, or_and_right, exists_or, exists_eq_left, eq_comm,
      exists_eq_left']
  bucket k b hkb := by
    have hkb : (k, b) ∈ updateBucket (openBucket stats (statKey e.pair)) _ (·.record e) := hkb
    obtain ⟨b', hmem, rfl⟩ := of_mem_updateBucket hkb
    rw [filter_append_singleton_key]
    rcases mem_openBucket.mp hmem with hold | ⟨hnew, rfl, rfl⟩
    · rw [h.bucket k b' hold]
      by_cases hk : k = statKey e.pair
      · simp [hk, tally_append_singleton]
      · simp [hk, Ne.symm hk]
    · have hnone : log.filter (statKey ·.pair = statKey e.pair) = [] := by
        refine List.filter_eq_nil_iff.mpr fun e' he' heq ↦ hnew ?_
        exact (h.mem_keys _).mpr ⟨e', he', of_decide_eq_true heq⟩
      simpa [hnone] using (tally_append_singleton [] e).symm

theorem StatsInv.foldl {log : List LogEntry} {stats : List (List Char × Bucket)}
    (h : StatsInv log stats) (entries : List LogEntry) :
    StatsInv (log ++ entries) (entries.foldl Analyzer.addEntry stats) := by
  induction entries generalizing log stats with
  | nil => simpa using h
  | cons e entries ih => simpa using ih (h.addEntry e)

theorem statsInv_dumpStats (log : List LogEntry) : StatsInv log (dumpStats log) := by
  have h0 : StatsInv [] [] := ⟨List.nodup_nil, by simp, by simp⟩
  simpa using h0.foldl log

/-! ### The loop computes the grouping -/

theorem filter_key_eq_filter_pair (log : List LogEntry) (p : List Char × Nat) :
    log.filter (statKey ·.pair = statKey p) = log.filter (·.pair = p) :=
  List.filter_congr fun e _ ↦ by simpa using statKey_injective.eq_iff (a := e.pair) (b := p)

theorem nodup_groupStats (log : List LogEntry) : (groupStats log).Nodup :=
  (List.nodup_dedup _).map fun _ _ h ↦ statKey_injective (Prod.mk.inj h).1

theorem mem_groupStats {log : List LogEntry} {k : List Char} {b : Bucket} :
    (k, b) ∈ groupStats log ↔
      (∃ e ∈ log, statKey e.pair = k) ∧
        b = tally (log.filter (statKey ·.pair = k)) := by
  simp only [groupStats, List.mem_map, List.mem_dedup, Prod.mk.injEq]
  constructor
  · rintro ⟨p, ⟨e, he, rfl⟩, rfl, rfl⟩
    exact ⟨⟨e, he, rfl⟩, by rw [filter_key_eq_filter_pair]⟩
  · rintro ⟨⟨e, he, rfl⟩, rfl⟩
    exact ⟨e.pair, ⟨e, he, rfl⟩, rfl, by rw [← filter_key_eq_filter_pair]⟩

theorem dumpStats_perm (log : List LogEntry) : (dumpStats log).Perm (groupStats log) := by
  have hinv := statsInv_dumpStats log
  refine (List.perm_ext_iff_of_nodup hinv.nodup.of_map (nodup_groupStats log)).mpr ?_
  rintro ⟨k, b⟩
  rw [mem_groupStats, ← hinv.mem_keys]
  constructor
  · intro hkb
    exact ⟨List.mem_map_of_mem Prod.fst hkb, hinv.bucket k b hkb⟩
  · rintro ⟨hk, rfl⟩
    obtain ⟨⟨k', b'⟩, hmem, rfl⟩ := List.mem_map.mp hk
    rwa [← hinv.bucket k' b' hmem]

theorem sum_count_groupStats (log : List LogEntry) :
    ((groupStats log).map (·.2.count)).sum = log.length := by
  have hcount := List.sum_map_count_dedup_eq_length (log.map LogEntry.pair)
  rw [List.length_map] at hcount
  rw [← hcount, groupStats, List.map_map]
  congr 1
  refine List.map_congr_left fun p _ ↦ ?_
  simp only [tally, List.count, List.countP_eq_length_filter, List.filter_map, List.length_map]
  rfl

/-- `dump_stats` keeps one bucket per distinct (protocol, port) pair of the log, under a
key no other pair has, and each bucket tallies exactly the entries with its pair; so the
counts add up to the length of the log. -/
theorem dumpStats_groups (log : List LogEntry) :
    (dumpStats log).Perm (groupStats log) ∧
      Function.Injective statKey ∧
      ((dumpStats log).map Prod.fst).Nodup ∧
      ((dumpStats log).map (·.2.count)).sum = log.length :=
  ⟨dumpStats_perm log, statKey_injective, (statsInv_dumpStats log).nodup,
    by rw [((dumpStats_perm log).map _).sum_eq, sum_count_groupStats]⟩

/-! ### The printed table does not depend on the interleaving -/

/-- The order of `sorted(stats.items())` on two items with distinct keys: Python compares
the key strings by code point. -/
def keyLe (a b : List Char × Bucket) : Bool := decide (a.1 ≤ b.1)

/-- The rows `dump_stats` prints, in its order: `sorted(stats.items())`, then each key with
its count, bytes and number of clients.  Keys are distinct, so the sort compares keys only,
and a stable sort by key gives Python's order. -/
def statsRows (log : List LogEntry) : List (List Char × Nat × Nat × Nat) :=
  ((dumpStats log).mergeSort keyLe).map fun kb ↦
    (kb.1, kb.2.count, kb.2.bytes, kb.2.clients.card)

theorem tally_perm {l₁ l₂ : List LogEntry} (h : l₁.Perm l₂) : tally l₁ = tally l₂ := by
  simp only [tally, h.length_eq, (h.map _).sum_eq, List.toFinset_eq_of_perm _ _ (h.map _)]

theorem groupStats_perm {log₁ log₂ : List LogEntry} (h : log₁.Perm log₂) :
    (groupStats log₁).Perm (groupStats log₂) := by
  have hf : (fun p ↦ (statKey p, tally (log₁.filter (·.pair = p)))) =
      fun p ↦ (statKey p, tally (log₂.filter (·.pair = p))) :=
    funext fun p ↦ by rw [tally_perm (h.filter _)]
  unfold groupStats
  rw [hf]
  exact (h.map _).dedup.map _

/-- Sorted by key with no key twice, the buckets are sorted strictly by key. -/
theorem pairwise_lt_mergeSort {stats : List (List Char × Bucket)}
    (h : (stats.map Prod.fst).Nodup) :
    (stats.mergeSort keyLe).Pairwise fun a b ↦ a.1 < b.1 := by
  have hsorted := @List.sorted_mergeSort _ keyLe
    (fun _ _ _ hab hbc ↦ decide_eq_true (le_trans (of_decide_eq_true hab) (of_decide_eq_true hbc)))
    (fun a b ↦ by simpa [keyLe] using le_total a.1 b.1) stats
  have hnodup := ((List.mergeSort_perm stats keyLe).map Prod.fst).nodup_iff.mpr h
  rw [List.Nodup, List.pairwise_map] at hnodup
  exact (hsorted.and hnodup).imp fun hab ↦ lt_of_le_of_ne (of_decide_eq_true hab.1) hab.2

theorem mem_statsRows {log : List LogEntry} {row : List Char × Nat × Nat × Nat} :
    row ∈ statsRows log ↔
      ∃ k b, (k, b) ∈ groupStats log ∧ row = (k, b.count, b.bytes, b.clients.card) := by
  simp only [statsRows, List.mem_map,
    ((List.mergeSort_perm _ keyLe).trans (dumpStats_perm log)).mem_iff]
  constructor
  · rintro ⟨⟨k, b⟩, hkb, rfl⟩
    exact ⟨k, b, hkb, rfl⟩
  · rintro ⟨k, b, hkb, rfl⟩
    exact ⟨⟨k, b⟩, hkb, rfl⟩

/-- Fewer entries tally fewer connections, bytes and clients. -/
theorem tally_le_of_sublist {l₁ l₂ : List LogEntry} (h : l₁.Sublist l₂) :
    (tally l₁).count ≤ (tally l₂).count ∧ (tally l₁).bytes ≤ (tally l₂).bytes ∧
      (tally l₁).clients.card ≤ (tally l₂).clients.card :=
  ⟨h.length_le, (h.map _).sum_le_sum fun _ _ ↦ Nat.zero_le _,
    Finset.card_le_card fun _ hc ↦
      List.mem_toFinset.mpr ((h.map _).subset (List.mem_toFinset.mp hc))⟩

/-- Each row printed for part of a log is printed for the whole log too, under the same key,
with a count, bytes and clients at least as large. -/
theorem statsRows_sublist {log₁ log₂ : List LogEntry} (h : log₁.Sublist log₂)
    {row : List Char × Nat × Nat × Nat} (hrow : row ∈ statsRows log₁) :
    ∃ row' ∈ statsRows log₂, row'.1 = row.1 ∧ row.2.1 ≤ row'.2.1 ∧ row.2.2.1 ≤ row'.2.2.1 ∧
      row.2.2.2 ≤ row'.2.2.2 := by
  obtain ⟨k, b, hkb, rfl⟩ := mem_statsRows.mp hrow
  obtain ⟨⟨e, he, hek⟩, rfl⟩ := mem_groupStats.mp hkb
  exact ⟨_, mem_statsRows.mpr ⟨k, _, mem_groupStats.mpr ⟨⟨e, h.subset he, hek⟩, rfl⟩, rfl⟩, rfl,
    tally_le_of_sublist (h.filter _)⟩

/-- Two logs holding the same entries, in whatever order, make `dump_stats` print the same
rows. -/
theorem statsRows_perm {log₁ log₂ : List LogEntry} (h : log₁.Perm log₂) :
    statsRows log₁ = statsRows log₂ := by
  have hperm := ((List.mergeSort_perm _ keyLe).trans (((dumpStats_perm log₁).trans
    (groupStats_perm h)).trans (dumpStats_perm log₂).symm)).trans
      (List.mergeSort_perm _ keyLe).symm
  have : IsAntisymm (List Char × Bucket) fun a b ↦ a.1 < b.1 :=
    ⟨fun _ _ hab hba ↦ absurd (hab.trans hba) (lt_irrefl _)⟩
  rw [statsRows, statsRows, List.eq_of_perm_of_sorted hperm
    (pairwise_lt_mergeSort (statsInv_dumpStats log₁).nodup)
    (pairwise_lt_mergeSort (statsInv_dumpStats log₂).nodup)]

end ProtocolProbe.Analyzer
