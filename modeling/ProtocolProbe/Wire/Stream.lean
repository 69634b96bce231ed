import Mathlib

/-!
# Byte strings and TCP streams

Python `bytes` are lists of `UInt8`, and the slices `b[:k]` and `b[k:]` are `take` and
`drop`.  A TCP connection hands the peer's bytes over in segments: `recv(n)` returns at
most `n` bytes, and only bytes that have already arrived.  Here a `recv` reads from the
first segment still buffered.  Segments that arrived together before a `recv` read as one
longer segment, so quantifying over every segmentation covers every arrival schedule.
-/

namespace ProtocolProbe

/-- `struct.pack('!H', n)` once `n` is known to fit: two big-endian bytes. -/
def lengthPrefix (n : Nat) : List UInt8 := [(n / 256).toUInt8, (n % 256).toUInt8]

/-- `struct.pack('!H', n)`, which raises `struct.error` when `n` needs more than 16 bits. -/
def packH (n : Nat) : Except String (List UInt8) :=
  if n < 65536 then .ok (lengthPrefix n)
  else .error "'H' format requires 0 <= number <= 65535"

/-- `struct.unpack('!H', b)[0]` for the two bytes of `b`. -/
def unpackH (hi lo : UInt8) : Nat := hi.toNat * 256 + lo.toNat

@[simp] theorem length_lengthPrefix (n : Nat) : (lengthPrefix n).length = 2 := rfl

theorem packH_of_lt {n : Nat} (h : n < 65536) : packH n = .ok (lengthPrefix n) := if_pos h

theorem unpackH_lengthPrefix {n : Nat} (h : n < 65536) :
    unpackH (n / 256).toUInt8 (n % 256).toUInt8 = n := by
  simp only [unpackH, Nat.toUInt8, UInt8.toNat_ofNat_of_lt (show n / 256 < UInt8.size by
    simp [UInt8.size]; omega), UInt8.toNat_ofNat_of_lt (show n % 256 < UInt8.size by
    simp [UInt8.size]; omega)]
  omega

/-- `conn.recv(n)` on a connection whose unread bytes are `segments`: the bytes it
returns and the segments left.  Once the peer has closed and nothing is left it
returns `b''`. -/
def recv (n : Nat) : List (List UInt8) → List UInt8 × List (List UInt8)
  | [] => ([], [])
  | seg :: rest => if n < seg.length then (seg.take n, seg.drop n :: rest) else (seg, rest)

@[simp] theorem recv_nil (n : Nat) : recv n [] = ([], []) := rfl

theorem recv_cons_of_le {n : Nat} {seg : List UInt8} (h : seg.length ≤ n)
    (rest : List (List UInt8)) : recv n (seg :: rest) = (seg, rest) := by
  simp [recv, show ¬n < seg.length by omega]

theorem recv_cons_of_lt {n : Nat} {seg : List UInt8} (h : n < seg.length)
    (rest : List (List UInt8)) : recv n (seg :: rest) = (seg.take n, seg.drop n :: rest) := by
  simp [recv, h]

/-- A `recv` neither loses nor invents bytes: what it returns, then what is left, is
what was there. -/
theorem recv_append_flatten (n : Nat) (ss : List (List UInt8)) :
    (recv n ss).1 ++ (recv n ss).2.flatten = ss.flatten := by
  cases ss with
  | nil => rfl
  | cons seg rest =>
      by_cases h : n < seg.length
      · simp only [recv_cons_of_lt h, List.flatten_cons, ← List.append_assoc,
          List.take_append_drop]
      · simp [recv_cons_of_le (not_lt.mp h)]

theorem recv_length_le (n : Nat) (ss : List (List UInt8)) : (recv n ss).1.length ≤ n := by
  cases ss with
  | nil => simp
  | cons seg rest =>
      by_cases h : n < seg.length
      · simp only [recv_cons_of_lt h, List.length_take]
        omega
      · simpa [recv_cons_of_le (not_lt.mp h)] using not_lt.mp h

theorem recv_zero (ss : List (List UInt8)) : (recv 0 ss).1 = [] := by
  cases ss with
  | nil => rfl
  | cons seg rest =>
      by_cases h : 0 < seg.length
      · simp [recv_cons_of_lt h]
      · simpa [recv_cons_of_le (not_lt.mp h)] using not_lt.mp h

theorem recv_prefixOf (n : Nat) (ss : List (List UInt8)) : (recv n ss).1 <+: ss.flatten :=
  ⟨_, recv_append_flatten n ss⟩

/-- A `recv` returns the first `n` bytes of the first segment. -/
theorem recv_fst (n : Nat) (ss : List (List UInt8)) : (recv n ss).1 = (ss.headD []).take n := by
  cases ss with
  | nil => simp
  | cons seg rest =>
      by_cases h : n < seg.length
      · simp [recv_cons_of_lt h]
      · simp [recv_cons_of_le (not_lt.mp h), List.take_of_length_le (not_lt.mp h)]

theorem recv_snd_ne_nil {n : Nat} {ss : List (List UInt8)} (h : ∀ s ∈ ss, s ≠ []) :
    ∀ s ∈ (recv n ss).2, s ≠ [] := by
  cases ss with
  | nil => simp
  | cons seg rest =>
      by_cases hn : n < seg.length
      · rw [recv_cons_of_lt hn]
        exact List.forall_mem_cons.2
          ⟨by simpa [← List.length_pos] using hn, (List.forall_mem_cons.1 h).2⟩
      · rw [recv_cons_of_le (not_lt.mp hn)]
        exact (List.forall_mem_cons.1 h).2

/-- A way the network can cut `bytes` into non-empty segments. -/
structure Segmentation (bytes : List UInt8) where
  segments : List (List UInt8)
  flatten_eq : segments.flatten = bytes
  ne_nil : ∀ s ∈ segments, s ≠ []

/-- A length-prefixed read as `handle_dns_tcp` and `test_real_dns_query` both do it:
`recv(2)`, and when that gave two bytes, one `recv` of the declared length.  The result
is the declared length and the bytes that one `recv` returned. -/
def recvFrame (ss : List (List UInt8)) : Option (Nat × List UInt8) :=
  match recv 2 ss with
  | ([hi, lo], rest) => some (unpackH hi lo, (recv (unpackH hi lo) rest).1)
  | _ => none

/-- A frame that arrives in one segment is read whole. -/
theorem recvFrame_whole {p : List UInt8} (hp : p.length < 65536) (later : List (List UInt8)) :
    recvFrame ((lengthPrefix p.length ++ p) :: later) = some (p.length, p) := by
  by_cases h0 : p = []
  · subst h0
    rw [recvFrame, List.append_nil, recv_cons_of_le (length_lengthPrefix _).le]
    have h00 : unpackH (0 / 256).toUInt8 (0 % 256).toUInt8 = 0 := unpackH_lengthPrefix hp
    simp only [lengthPrefix, List.length_nil, h00, recv_zero]
  · have h2 : 2 < (lengthPrefix p.length ++ p).length := by
      simp [List.length_pos.mpr h0]
    rw [recvFrame, recv_cons_of_lt h2, List.take_left' (length_lengthPrefix _),
      List.drop_left' (length_lengthPrefix _)]
    simp only [lengthPrefix, unpackH_lengthPrefix hp, recv_cons_of_le le_rfl]

/-- A frame whose body is cut after its first `k` bytes is read as those `k` bytes. -/
theorem recvFrame_cut {p : List UInt8} (hp : p.length < 65536) (k : Nat)
    (later : List (List UInt8)) :
    recvFrame (lengthPrefix p.length :: p.take k :: p.drop k :: later) =
      some (p.length, p.take k) := by
  rw [recvFrame, recv_cons_of_le (length_lengthPrefix _).le]
  simp only [lengthPrefix, unpackH_lengthPrefix hp,
    recv_cons_of_le (List.length_take_le' k p)]

/-- Whatever the segmentation of a frame and the bytes after it, a length-prefixed read
returns a prefix of the frame's body, no byte after it, and some byte of a non-empty body. -/
theorem recv_fst_ne_nil {n : Nat} {ss : List (List UInt8)} (hn : n ≠ 0) (h : ∀ s ∈ ss, s ≠ [])
    (hss : ss ≠ []) : (recv n ss).1 ≠ [] := by
  obtain ⟨seg, rest, rfl⟩ := List.exists_cons_of_ne_nil hss
  simp [recv_fst, List.take_eq_nil_iff, hn, h seg (List.mem_cons_self _ _)]

theorem recvFrame_prefixOf {p more : List UInt8} (hp : p.length < 65536)
    (s : Segmentation (lengthPrefix p.length ++ p ++ more)) {n : Nat} {q : List UInt8}
    (h : recvFrame s.segments = some (n, q)) : n = p.length ∧ q <+: p ∧ (p ≠ [] → q ≠ []) := by
  unfold recvFrame at h
  have hflat : (recv 2 s.segments).1 ++ (recv 2 s.segments).2.flatten =
      lengthPrefix p.length ++ (p ++ more) := by
    rw [recv_append_flatten, s.flatten_eq, List.append_assoc]
  split at h
  · rename_i hi lo rest hr
    simp only [Option.some.injEq, Prod.mk.injEq] at h
    obtain ⟨rfl, rfl⟩ := h
    rw [hr] at hflat
    have hpre : [hi, lo] = lengthPrefix p.length ∧ rest.flatten = p ++ more :=
      List.append_inj hflat rfl
    simp only [lengthPrefix, List.cons.injEq, and_true] at hpre
    obtain ⟨⟨rfl, rfl⟩, hrest⟩ := hpre
    rw [unpackH_lengthPrefix hp]
    have hq : (recv p.length rest).1 <+: p ++ more := hrest ▸ recv_prefixOf _ _
    refine ⟨rfl, List.prefix_of_prefix_length_le hq (List.prefix_append _ _)
      (recv_length_le _ _), fun hne ↦ recv_fst_ne_nil (by simpa using hne) ?_ ?_⟩
    · simpa only [hr] using recv_snd_ne_nil (n := 2) s.ne_nil
    · rintro rfl
      simp [hne] at hrest
  · simp at h

end ProtocolProbe
