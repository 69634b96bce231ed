import ProtocolProbe.Wire.Stream

/-!
# DNS messages on the wire

The meaning of a DNS message as RFC 1035 gives it: a 12-byte header of six 16-bit fields,
then the question, answer, authority and additional sections, with as many entries as the
header's counts declare.  A name is a run of length-prefixed labels ended by a zero byte,
or ended early by a compression pointer (two bytes, top bits `11`) to the rest of the name
elsewhere in the message.  `parseMessage` reads a whole message this way and says where it
stopped, so that "no bytes left over" is a statement about its result.
-/

namespace ProtocolProbe.Dns

structure Header where
  id : Nat
  flags : Nat
  qdcount : Nat
  ancount : Nat
  nscount : Nat
  arcount : Nat
  deriving DecidableEq, Repr

structure Question where
  qname : List (List UInt8)
  qtype : Nat
  qclass : Nat
  deriving DecidableEq, Repr

structure ResourceRecord where
  name : List (List UInt8)
  rtype : Nat
  rclass : Nat
  ttl : Nat
  rdata : List UInt8
  deriving DecidableEq, Repr

structure Message where
  header : Header
  questions : List Question
  answers : List ResourceRecord
  authority : List ResourceRecord
  additional : List ResourceRecord
  deriving DecidableEq, Repr

/-- The 16-bit big-endian number at `pos`, and the position after it. -/
def readU16 (msg : List UInt8) (pos : Nat) : Option (Nat × Nat) :=
  match msg.drop pos with
  | hi :: lo :: _ => some (unpackH hi lo, pos + 2)
  | _ => none

def readU32 (msg : List UInt8) (pos : Nat) : Option (Nat × Nat) := do
  let (hi, p) ← readU16 msg pos
  let (lo, p) ← readU16 msg p
  pure (hi * 65536 + lo, p)

def readBytes (msg : List UInt8) (pos n : Nat) : Option (List UInt8 × Nat) :=
  if pos + n ≤ msg.length then some ((msg.drop pos).take n, pos + n) else none

/-- The name at `pos`: its labels, and the position just after it in the message (after
the pointer, when it ends in one).  Label lengths `0x40..0xBF` are reserved; `fuel`
bounds the labels and pointers followed, so that a pointer loop is refused. -/
def readNameAux (msg : List UInt8) : Nat → Nat → Option (List (List UInt8) × Nat)
  | 0, _ => none
  | fuel + 1, pos =>
    match msg.drop pos with
    | [] => none
    | b :: rest =>
      if b.toNat = 0 then some ([], pos + 1)
      else if b.toNat < 64 then
        if b.toNat ≤ rest.length then do
          let (labels, p) ← readNameAux msg fuel (pos + 1 + b.toNat)
          pure (rest.take b.toNat :: labels, p)
        else none
      else if 192 ≤ b.toNat then
        match rest with
        | [] => none
        | lo :: _ => do
          let (labels, _) ← readNameAux msg fuel ((b.toNat - 192) * 256 + lo.toNat)
          pure (labels, pos + 2)
      else none

/-- Every step of a name reads at least one byte of the message, so its length is enough
fuel for any name in it. -/
def readName (msg : List UInt8) (pos : Nat) : Option (List (List UInt8) × Nat) :=
  readNameAux msg msg.length pos

def readQuestion (msg : List UInt8) (pos : Nat) : Option (Question × Nat) := do
  let (qname, p) ← readName msg pos
  let (qtype, p) ← readU16 msg p
  let (qclass, p) ← readU16 msg p
  pure (⟨qname, qtype, qclass⟩, p)

def readRecord (msg : List UInt8) (pos : Nat) : Option (ResourceRecord × Nat) := do
  let (name, p) ← readName msg pos
  let (rtype, p) ← readU16 msg p
  let (rclass, p) ← readU16 msg p
  let (ttl, p) ← readU32 msg p
  let (rdlength, p) ← readU16 msg p
  let (rdata, p) ← readBytes msg p rdlength
  pure (⟨name, rtype, rclass, ttl, rdata⟩, p)

/-- `count` entries read one after the other from `pos`. -/
def readMany {α : Type} (read : Nat → Option (α × Nat)) : Nat → Nat → Option (List α × Nat)
  | 0, pos => some ([], pos)
  | count + 1, pos => do
    let (x, p) ← read pos
    let (xs, p) ← readMany read count p
    pure (x :: xs, p)

def readHeader (msg : List UInt8) : Option Header := do
  let (id, p) ← readU16 msg 0
  let (flags, p) ← readU16 msg p
  let (qdcount, p) ← readU16 msg p
  let (ancount, p) ← readU16 msg p
  let (nscount, p) ← readU16 msg p
  let (arcount, _) ← readU16 msg p
  pure ⟨id, flags, qdcount, ancount, nscount, arcount⟩

/-- The four sections after the header, as many entries in each as `header` declares. -/
def readSections (msg : List UInt8) (header : Header) : Option (Message × Nat) := do
  let (questions, p) ← readMany (readQuestion msg) header.qdcount 12
  let (answers, p) ← readMany (readRecord msg) header.ancount p
  let (authority, p) ← readMany (readRecord msg) header.nscount p
  let (additional, p) ← readMany (readRecord msg) header.arcount p
  pure (⟨header, questions, answers, authority, additional⟩, p)

/-- The message in `msg`, and the position where reading it stopped. -/
def parseMessage (msg : List UInt8) : Option (Message × Nat) := do
  let header ← readHeader msg
  readSections msg header

theorem parseMessage_eq (i0 i1 f0 f1 q0 q1 a0 a1 n0 n1 r0 r1 : UInt8) (body : List UInt8) :
    parseMessage ([i0, i1, f0, f1, q0, q1, a0, a1, n0, n1, r0, r1] ++ body) =
      readSections ([i0, i1, f0, f1, q0, q1, a0, a1, n0, n1, r0, r1] ++ body)
        ⟨unpackH i0 i1, unpackH f0 f1, unpackH q0 q1, unpackH a0 a1, unpackH n0 n1,
          unpackH r0 r1⟩ := rfl

@[simp] theorem readMany_zero {α : Type} (read : Nat → Option (α × Nat)) (pos : Nat) :
    readMany read 0 pos = some ([], pos) := rfl

theorem readMany_one {α : Type} (read : Nat → Option (α × Nat)) (pos : Nat) :
    readMany read 1 pos = (read pos).map fun r ↦ ([r.1], r.2) := by
  cases h : read pos <;> simp [readMany, h]

/-! ### Uncompressed names -/

/-- A name written out in full: each label after its length byte, then the zero byte. -/
def encodeName : List (List UInt8) → List UInt8
  | [] => [0]
  | label :: labels => label.length.toUInt8 :: label ++ encodeName labels

/-- Labels a name may be written with: none empty, none longer than 63 bytes. -/
def ValidLabels (labels : List (List UInt8)) : Prop :=
  ∀ label ∈ labels, 0 < label.length ∧ label.length ≤ 63

instance : DecidablePred ValidLabels := fun labels ↦
  inferInstanceAs (Decidable (∀ label ∈ labels, 0 < label.length ∧ label.length ≤ 63))

@[simp] theorem encodeName_nil : encodeName [] = [0] := rfl

@[simp] theorem encodeName_cons (label : List UInt8) (labels : List (List UInt8)) :
    encodeName (label :: labels) = label.length.toUInt8 :: label ++ encodeName labels := rfl

theorem length_encodeName (labels : List (List UInt8)) :
    (encodeName labels).length = labels.length + 1 + (labels.map List.length).sum := by
  induction labels with
  | nil => rfl
  | cons label labels ih =>
      simp only [encodeName_cons, List.length_cons, List.length_append, ih, List.map_cons,
        List.sum_cons]
      omega

theorem ValidLabels.tail {label : List UInt8} {labels : List (List UInt8)}
    (h : ValidLabels (label :: labels)) : ValidLabels labels :=
  fun l hl ↦ h l (List.mem_cons_of_mem _ hl)

theorem toNat_toUInt8 {n : Nat} (h : n < 256) : n.toUInt8.toNat = n :=
  UInt8.toNat_ofNat_of_lt (by simpa [UInt8.size] using h)

/-- A length byte of 1 to 63 with that many bytes after it reads as a label of those bytes,
and the name goes on after them. -/
theorem readNameAux_label {msg rest : List UInt8} {pos : Nat} {b : UInt8}
    (hmsg : msg.drop pos = b :: rest) (h0 : b.toNat ≠ 0) (h64 : b.toNat < 64)
    (hlen : b.toNat ≤ rest.length) (fuel : Nat) :
    readNameAux msg (fuel + 1) pos =
      (readNameAux msg fuel (pos + 1 + b.toNat)).map fun r ↦ (rest.take b.toNat :: r.1, r.2) := by
  rw [readNameAux, hmsg]
  simp only [h0, h64, hlen, if_true, if_false]
  cases readNameAux msg fuel (pos + 1 + b.toNat) <;> rfl

/-- A name written out in full reads back as its labels, wherever it sits and whatever
follows it. -/
theorem readNameAux_encodeName {labels : List (List UInt8)} (hv : ValidLabels labels)
    (pre post : List UInt8) (fuel : Nat) (hf : labels.length < fuel) :
    readNameAux (pre ++ encodeName labels ++ post) fuel pre.length =
      some (labels, pre.length + (encodeName labels).length) := by
  induction labels generalizing pre fuel with
  | nil =>
      obtain ⟨fuel, rfl⟩ : ∃ f, fuel = f + 1 := ⟨fuel - 1, by omega⟩
      simp [readNameAux, List.drop_left']
  | cons label labels ih =>
      obtain ⟨fuel, rfl⟩ : ∃ f, fuel = f + 1 := ⟨fuel - 1, by omega⟩
      obtain ⟨hpos, hle⟩ := hv label (List.mem_cons_self _ _)
      have hb : label.length.toUInt8.toNat = label.length := toNat_toUInt8 (by omega)
      have hrec := ih hv.tail (pre ++ label.length.toUInt8 :: label) fuel
        (Nat.lt_of_succ_lt_succ hf)
      have hdrop : (pre ++ encodeName (label :: labels) ++ post).drop pre.length =
          label.length.toUInt8 :: (label ++ (encodeName labels ++ post)) := by simp
      simp only [List.append_assoc, List.cons_append, List.length_append,
        List.length_cons] at hrec
      rw [readNameAux_label hdrop (by omega) (by omega) (by rw [hb, List.length_append]; omega), hb]
      simp [Nat.add_assoc, Nat.add_comm 1, hrec]

/-- A compression pointer reads the name it points at, and ends two bytes after itself. -/
theorem readNameAux_pointer {msg rest : List UInt8} {pos : Nat} {hi lo : UInt8}
    (hmsg : msg.drop pos = hi :: lo :: rest) (hhi : 192 ≤ hi.toNat) (fuel : Nat) :
    readNameAux msg (fuel + 1) pos =
      (readNameAux msg fuel ((hi.toNat - 192) * 256 + lo.toNat)).map
        fun r ↦ (r.1, pos + 2) := by
  rw [readNameAux, hmsg]
  simp only [show hi.toNat ≠ 0 by omega, show ¬hi.toNat < 64 by omega, hhi, if_true,
    if_false]
  cases readNameAux msg fuel ((hi.toNat - 192) * 256 + lo.toNat) <;> rfl

/-- A name reads only labels of 1 to 63 bytes: the empty label ends it, and a longer length
byte is a pointer or is refused. -/
theorem readNameAux_valid {msg : List UInt8} {fuel pos : Nat} {labels : List (List UInt8)}
    {p : Nat} (h : readNameAux msg fuel pos = some (labels, p)) : ValidLabels labels := by
  induction fuel generalizing pos labels p with
  | zero => cases h
  | succ fuel ih =>
      rw [readNameAux] at h
      split at h
      · cases h
      · split_ifs at h with h0 h64 hlen h192
        · -- the zero byte that ends the name
          cases h
          exact fun _ h ↦ absurd h (List.not_mem_nil _)
        · -- a label of 1 to 63 bytes, then the rest of the name
          obtain ⟨⟨labels', p'⟩, hrec, heq⟩ := Option.bind_eq_some.mp h
          cases heq
          exact List.forall_mem_cons.2
            ⟨by simp only [List.length_take, min_eq_left hlen]; omega, ih hrec⟩
        · -- a pointer, whose target gives the labels
          split at h
          · cases h
          · obtain ⟨⟨labels', p'⟩, hrec, heq⟩ := Option.bind_eq_some.mp h
            cases heq
            exact ih hrec

theorem readU16_of_drop {msg rest : List UInt8} {pos : Nat} {hi lo : UInt8}
    (hmsg : msg.drop pos = hi :: lo :: rest) : readU16 msg pos = some (unpackH hi lo, pos + 2) := by
  simp [readU16, hmsg]

theorem length_lt_length_encodeName (labels : List (List UInt8)) :
    labels.length < (encodeName labels).length := by
  rw [length_encodeName]
  omega

theorem readName_encodeName {labels : List (List UInt8)} (hv : ValidLabels labels)
    (pre post : List UInt8) :
    readName (pre ++ encodeName labels ++ post) pre.length =
      some (labels, pre.length + (encodeName labels).length) := by
  have := length_lt_length_encodeName labels
  exact readNameAux_encodeName hv pre post _ (by simp only [List.length_append]; omega)

theorem drop_add_of_drop {msg rest : List UInt8} {p : Nat} (hd : msg.drop p = rest) (k : Nat) :
    msg.drop (p + k) = rest.drop k := by
  rw [← hd, List.drop_drop]

/-- Once its name is read, a question is its type and class. -/
theorem readQuestion_of_readName {msg : List UInt8} {pos p : Nat} {labels : List (List UInt8)}
    (hname : readName msg pos = some (labels, p)) {t0 t1 c0 c1 : UInt8} {rest : List UInt8}
    (hd : msg.drop p = t0 :: t1 :: c0 :: c1 :: rest) :
    readQuestion msg pos = some (⟨labels, unpackH t0 t1, unpackH c0 c1⟩, p + 2 + 2) := by
  simp [readQuestion, hname, readU16_of_drop hd, readU16_of_drop (drop_add_of_drop hd 2)]

/-- Once its name is read, a record is its ten fixed bytes and the data they measure. -/
theorem readRecord_of_readName {msg : List UInt8} {pos p : Nat} {name : List (List UInt8)}
    (hname : readName msg pos = some (name, p)) {t0 t1 c0 c1 l0 l1 l2 l3 d0 d1 : UInt8}
    {rest : List UInt8} (hd : msg.drop p = t0 :: t1 :: c0 :: c1 :: l0 :: l1 :: l2 :: l3 ::
      d0 :: d1 :: rest) (hrd : unpackH d0 d1 ≤ rest.length) :
    readRecord msg pos = some (⟨name, unpackH t0 t1, unpackH c0 c1,
      unpackH l0 l1 * 65536 + unpackH l2 l3, rest.take (unpackH d0 d1)⟩,
      p + 2 + 2 + 2 + 2 + 2 + unpackH d0 d1) := by
  have h2 := drop_add_of_drop hd 2
  have h4 := drop_add_of_drop h2 2
  have h6 := drop_add_of_drop h4 2
  have h8 := drop_add_of_drop h6 2
  have hdata : msg.drop (p + 2 + 2 + 2 + 2 + 2) = rest := drop_add_of_drop h8 2
  have hlen : p + 2 + 2 + 2 + 2 + 2 + unpackH d0 d1 ≤ msg.length := by
    have := congrArg List.length hd
    simp only [List.length_drop, List.length_cons] at this
    omega
  simp only [readRecord, readU32, readBytes, hname, readU16_of_drop hd, readU16_of_drop h2,
    readU16_of_drop h4, readU16_of_drop h6, readU16_of_drop h8, bind, Option.bind, if_pos hlen,
    hdata]
  rfl

/-- The question right after a 12-byte header, written out in full. -/
theorem readQuestion_after_header {labels : List (List UInt8)} (hv : ValidLabels labels)
    (header : List UInt8) (hh : header.length = 12) (t0 t1 c0 c1 : UInt8) (post : List UInt8) :
    readQuestion (header ++ (encodeName labels ++ t0 :: t1 :: c0 :: c1 :: post)) 12 =
      some (⟨labels, unpackH t0 t1, unpackH c0 c1⟩,
        12 + (encodeName labels).length + 2 + 2) := by
  have hq := readQuestion_of_readName (readName_encodeName hv header
    (t0 :: t1 :: c0 :: c1 :: post)) (List.drop_left' (List.length_append _ _))
  rwa [List.append_assoc, hh] at hq

end ProtocolProbe.Dns