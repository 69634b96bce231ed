import ProtocolProbe.Dns.Message
import ProtocolProbe.Wire.Text

/-!
# The DNS queries the probes send

`make_dns_query` splits a domain on `'.'` and writes each label as the byte `len(label)`
followed by `label.encode()`.  `len` counts characters and `encode` writes UTF-8, so the
length byte matches the label's bytes only when every character is ASCII.  Nothing checks
the labels: an empty label or one of more than 63 bytes is sent, until a label reaches 256
characters and `bytes([...])` raises.  `makeDnsQuery` takes a `str` with no lone surrogate;
`makeDnsQueryStr` takes any `str`, and raises where `encode()` meets a surrogate.
-/

namespace ProtocolProbe.Dns

/-- `bytes([n])`, which raises `ValueError` unless `n < 256`. -/
def byteOf (n : Nat) : Except String UInt8 :=
  if n < 256 then .ok n.toUInt8 else .error "bytes must be in range(0, 256)"

/-- The loop of `make_dns_query` over the labels, then the closing zero byte. -/
def encodeQname : List (List Char) → Except String (List UInt8)
  | [] => .ok [0]
  | label :: labels => do
    let length ← byteOf label.length
    let rest ← encodeQname labels
    pure (length :: encodeUtf8 label ++ rest)

/-- `make_dns_query(domain)` for a `domain` with no lone surrogate, with `os.urandom(2)`
returning the bytes of `tid`. -/
def makeDnsQuery (tid : UInt8 × UInt8) (domain : List Char) : Except String (List UInt8) := do
  let flags : List UInt8 := [0x01, 0x00]
  let qdcount : List UInt8 := [0x00, 0x01]
  let ancount : List UInt8 := [0x00, 0x00]
  let nscount : List UInt8 := [0x00, 0x00]
  let arcount : List UInt8 := [0x00, 0x00]
  let qname ← encodeQname (domain.splitOn '.')
  let qtype : List UInt8 := [0x00, 0x01]
  let qclass : List UInt8 := [0x00, 0x01]
  pure ([tid.1, tid.2] ++ flags ++ qdcount ++ ancount ++ nscount ++ arcount ++ qname ++ qtype ++
    qclass)

/-- The query `test_real_dns_query` sends: id `AABB`, a standard query for `google.com`,
type A, class IN. -/
def realDnsQuery : List UInt8 :=
  [0xaa, 0xbb] ++ [0x01, 0x00] ++ [0x00, 0x01] ++ [0x00, 0x00] ++ [0x00, 0x00] ++ [0x00, 0x00] ++
    [0x06, 0x67, 0x6f, 0x6f, 0x67, 0x6c, 0x65, 0x03, 0x63, 0x6f, 0x6d, 0x00] ++ [0x00, 0x01] ++
      [0x00, 0x01]

/-! ### What the loop writes -/

/-- The bytes the loop writes when no label is too long for `bytes([...])`. -/
def qnameBytes : List (List Char) → List UInt8
  | [] => [0]
  | label :: labels => label.length.toUInt8 :: encodeUtf8 label ++ qnameBytes labels

theorem encodeQname_of_lt {labels : List (List Char)} (h : ∀ label ∈ labels, label.length < 256) :
    encodeQname labels = .ok (qnameBytes labels) := by
  induction labels with
  | nil => rfl
  | cons label labels ih =>
      simp only [encodeQname, byteOf, if_pos (h label (List.mem_cons_self _ _)),
        ih (fun l hl ↦ h l (List.mem_cons_of_mem _ hl))]
      rfl

theorem encodeQname_of_le {labels : List (List Char)} (h : ∃ label ∈ labels, 256 ≤ label.length) :
    encodeQname labels = .error "bytes must be in range(0, 256)" := by
  induction labels with
  | nil => simp at h
  | cons label labels ih =>
      by_cases hl : 256 ≤ label.length
      · simp [encodeQname, byteOf, show ¬label.length < 256 by omega]
        rfl
      · have hrest : ∃ l ∈ labels, 256 ≤ l.length := by
          obtain ⟨l, hl', hle⟩ := h
          rcases List.mem_cons.mp hl' with rfl | hmem
          · exact absurd hle hl
          · exact ⟨l, hmem, hle⟩
        simp [encodeQname, byteOf, show label.length < 256 by omega, ih hrest]
        rfl

/-- The header `make_dns_query` writes before the name. -/
def queryHeader (tid : UInt8 × UInt8) : List UInt8 :=
  [tid.1, tid.2, 0x01, 0x00, 0x00, 0x01, 0x00, 0x00, 0x00, 0x00, 0x00, 0x00]

theorem makeDnsQuery_of_lt (tid : UInt8 × UInt8) {domain : List Char}
    (h : ∀ label ∈ domain.splitOn '.', label.length < 256) :
    makeDnsQuery tid domain =
      .ok (queryHeader tid ++ qnameBytes (domain.splitOn '.') ++ [0x00, 0x01, 0x00, 0x01]) := by
  simp only [makeDnsQuery, encodeQname_of_lt h]
  simp [queryHeader]

theorem makeDnsQuery_of_le (tid : UInt8 × UInt8) {domain : List Char}
    (h : ∃ label ∈ domain.splitOn '.', 256 ≤ label.length) :
    makeDnsQuery tid domain = .error "bytes must be in range(0, 256)" := by
  simp only [makeDnsQuery, encodeQname_of_le h]
  rfl

/-! ### What the name should decode to -/

/-- Domains the claims call valid: every label of `domain.split('.')` non-empty and at most
63 bytes once encoded. -/
def ValidDomain (domain : List Char) : Prop := ValidLabels ((domain.splitOn '.').map encodeUtf8)

instance : DecidablePred ValidDomain := fun domain ↦
  inferInstanceAs (Decidable (ValidLabels ((domain.splitOn '.').map encodeUtf8)))

/-- `query` is the header, then a name that reads back as exactly the UTF-8 labels of
`domain`, then type A and class IN. -/
def EncodesDomain (tid : UInt8 × UInt8) (domain : List Char) (query : List UInt8) : Prop :=
  ∃ qname, query = queryHeader tid ++ qname ++ [0x00, 0x01, 0x00, 0x01] ∧
    readName qname 0 = some ((domain.splitOn '.').map encodeUtf8, qname.length)

theorem ValidDomain.lt {domain : List Char} (hd : ValidDomain domain) :
    ∀ label ∈ domain.splitOn '.', label.length < 256 := fun label hl ↦ by
  have := (hd _ (List.mem_map_of_mem _ hl)).2
  have := length_le_length_encodeUtf8 label
  omega

/-- Reading back what the loop wrote: at the first label whose character count differs
from its byte count, the length byte cuts the label short. -/
theorem readNameAux_qnameBytes_ne {labels : List (List Char)}
    (hv : ValidLabels (labels.map encodeUtf8))
    (hbad : ∃ label ∈ labels, label.length ≠ (encodeUtf8 label).length)
    (pre post : List UInt8) (fuel : Nat) {names : List (List UInt8)} {e : Nat}
    (h : readNameAux (pre ++ qnameBytes labels ++ post) fuel pre.length = some (names, e)) :
    names ≠ labels.map encodeUtf8 := by
  induction labels generalizing pre fuel names e with
  | nil => obtain ⟨_, ⟨⟩, _⟩ := hbad
  | cons label labels ih =>
      obtain ⟨fuel, rfl⟩ : ∃ f, fuel = f + 1 := by
        cases fuel with
        | zero => simp [readNameAux] at h
        | succ f => exact ⟨f, rfl⟩
      obtain ⟨hpos, hle⟩ := hv _ (List.mem_cons_self _ _)
      have hchars := length_le_length_encodeUtf8 label
      have hne : label.length ≠ 0 := fun h0 ↦ by simp [List.length_eq_zero.mp h0] at hpos
      have hb : label.length.toUInt8.toNat = label.length := toNat_toUInt8 (by omega)
      have hmsg : pre ++ qnameBytes (label :: labels) ++ post =
          (pre ++ label.length.toUInt8 :: encodeUtf8 label) ++ qnameBytes labels ++ post := by
        simp [qnameBytes]
      have hdrop : (pre ++ qnameBytes (label :: labels) ++ post).drop pre.length =
          label.length.toUInt8 :: (encodeUtf8 label ++ (qnameBytes labels ++ post)) := by
        simp [qnameBytes]
      rw [readNameAux_label hdrop (by rw [hb]; exact hne) (by omega) (by rw [hb, List.length_append]; omega), hb,
        hmsg] at h
      obtain ⟨⟨names', e'⟩, hrec, ⟨⟩⟩ := Option.map_eq_some'.mp h
      rw [List.map_cons]
      intro hcons
      obtain ⟨hhead, htail⟩ := List.cons.inj hcons
      by_cases hgood : label.length = (encodeUtf8 label).length
      · refine @ih (fun l hl ↦ hv l (List.mem_cons_of_mem _ hl)) (by simpa only [List.mem_cons, exists_eq_or_imp, hgood, ne_eq, not_true_eq_false,
          false_or] using hbad)
          (pre ++ label.length.toUInt8 :: encodeUtf8 label) fuel names' e' ?_ htail
        simpa [hgood, Nat.add_assoc, Nat.add_comm 1] using hrec
      · have hlen := congrArg List.length hhead
        rw [List.take_append_of_le_length hchars, List.length_take, Nat.min_eq_left hchars] at hlen
        exact hgood hlen

/-- With a label whose characters are not all ASCII, `make_dns_query` still returns a query,
and its name does not read back as the domain's UTF-8 labels. -/
theorem makeDnsQuery_misencodes (tid : UInt8 × UInt8) {domain : List Char}
    (hd : ValidDomain domain)
    (hna : ∃ label ∈ domain.splitOn '.', label.length ≠ (encodeUtf8 label).length) :
    ∃ query, makeDnsQuery tid domain = .ok query ∧ ¬ EncodesDomain tid domain query := by
  refine ⟨_, makeDnsQuery_of_lt tid hd.lt, ?_⟩
  rintro ⟨qname, hq, hread⟩
  have hqname : qname = qnameBytes (domain.splitOn '.') :=
    (List.append_cancel_left (List.append_cancel_right hq)).symm
  subst hqname
  have h := readNameAux_qnameBytes_ne hd hna [] [] _ (by simpa [readName] using hread)
  exact h rfl

/-- The domain `é.com`: `len('é')` is 1 but its UTF-8 is two bytes. -/
theorem makeDnsQuery_misencodes_accent :
    ValidDomain ['é', '.', 'c', 'o', 'm'] ∧
      (∃ label ∈ ['é', '.', 'c', 'o', 'm'].splitOn '.', label.length ≠ (encodeUtf8 label).length) ∧
      ∃ query, makeDnsQuery (0xaa, 0xbb) ['é', '.', 'c', 'o', 'm'] = .ok query ∧
        ¬ EncodesDomain (0xaa, 0xbb) ['é', '.', 'c', 'o', 'm'] query :=
  have hd : ValidDomain ['é', '.', 'c', 'o', 'm'] := by decide
  have hna : ∃ label ∈ ['é', '.', 'c', 'o', 'm'].splitOn '.',
      label.length ≠ (encodeUtf8 label).length := by decide
  ⟨hd, hna, makeDnsQuery_misencodes (0xaa, 0xbb) hd hna⟩

/-- A domain with an empty label or a label of more than 63 bytes is sent all the same, as
long as no label reaches 256 characters, and its name does not read back as its labels. -/
theorem makeDnsQuery_sends_invalid (tid : UInt8 × UInt8) {domain : List Char}
    (hd : ¬ValidDomain domain) (hlt : ∀ label ∈ domain.splitOn '.', label.length < 256) :
    ∃ query, makeDnsQuery tid domain = .ok query ∧ ¬EncodesDomain tid domain query := by
  refine ⟨_, makeDnsQuery_of_lt tid hlt, ?_⟩
  rintro ⟨qname, -, hread⟩
  exact hd (readNameAux_valid hread)

theorem makeDnsQuery_sends_empty_label :
    ¬ValidDomain "a..b".toList ∧ (∀ label ∈ "a..b".toList.splitOn '.', label.length < 256) ∧
      ∃ query, makeDnsQuery (0xaa, 0xbb) "a..b".toList = .ok query ∧
        ¬EncodesDomain (0xaa, 0xbb) "a..b".toList query :=
  have hd : ¬ValidDomain "a..b".toList := by decide
  have hlt : ∀ label ∈ "a..b".toList.splitOn '.', label.length < 256 := by decide
  ⟨hd, hlt, makeDnsQuery_sends_invalid (0xaa, 0xbb) hd hlt⟩

/-! ### ASCII domains and the query's length -/

theorem qnameBytes_eq_encodeName {labels : List (List Char)}
    (h : ∀ label ∈ labels, label.length = (encodeUtf8 label).length) :
    qnameBytes labels = encodeName (labels.map encodeUtf8) := by
  induction labels with
  | nil => rfl
  | cons label labels ih =>
      simp [qnameBytes, h label (List.mem_cons_self _ _),
        ih (fun l hl ↦ h l (List.mem_cons_of_mem _ hl))]

/-- For a domain whose labels are ASCII, the name reads back as the labels. -/
theorem makeDnsQuery_ascii (tid : UInt8 × UInt8) {domain : List Char} (hd : ValidDomain domain)
    (hascii : ∀ label ∈ domain.splitOn '.', ∀ c ∈ label, c.toNat < 128) :
    ∃ query, makeDnsQuery tid domain = .ok query ∧ EncodesDomain tid domain query := by
  refine ⟨_, makeDnsQuery_of_lt tid hd.lt, _, rfl, ?_⟩
  rw [qnameBytes_eq_encodeName (fun l hl ↦ length_encodeUtf8_of_ascii (hascii l hl))]
  simpa using readName_encodeName hd [] []

theorem makeDnsQuery_ascii_google :
    ValidDomain "google.com".toList ∧
      (∀ label ∈ "google.com".toList.splitOn '.', ∀ c ∈ label, c.toNat < 128) ∧
      ∃ query, makeDnsQuery (0xaa, 0xbb) "google.com".toList = .ok query ∧
        EncodesDomain (0xaa, 0xbb) "google.com".toList query :=
  have hd : ValidDomain "google.com".toList := by decide
  have hascii : ∀ label ∈ "google.com".toList.splitOn '.', ∀ c ∈ label, c.toNat < 128 := by
    decide
  ⟨hd, hascii, makeDnsQuery_ascii (0xaa, 0xbb) hd hascii⟩

theorem length_qnameBytes (labels : List (List Char)) :
    (qnameBytes labels).length = (labels.map fun l ↦ (encodeUtf8 l).length + 1).sum + 1 := by
  induction labels with
  | nil => rfl
  | cons label labels ih =>
      simp only [qnameBytes, List.length_cons, List.length_append, ih, List.map_cons,
        List.sum_cons]
      omega

/-- A dotted name is one byte longer in UTF-8 than its labels, each with one byte added,
less one. -/
theorem length_encodeUtf8_intercalate :
    ∀ {labels : List (List Char)}, labels ≠ [] →
      (encodeUtf8 (['.'].intercalate labels)).length + 1 =
        (labels.map fun l ↦ (encodeUtf8 l).length + 1).sum
  | [], h => absurd rfl h
  | [label], _ => by simp [List.intercalate]
  | label :: next :: labels, _ => by
      have ih := @length_encodeUtf8_intercalate (next :: labels) (List.cons_ne_nil _ _)
      have hsplit := intercalate_cons_cons '.' label next labels
      have hdot : (String.utf8EncodeChar '.').length = 1 := rfl
      rw [hsplit, encodeUtf8_append, encodeUtf8_cons, List.map_cons, List.sum_cons, ← ih]
      simp only [List.length_append, hdot]
      omega

/-- The length law: whenever `make_dns_query` returns, its query is the 12-byte header, the
domain's UTF-8 bytes and two more, and type and class. -/
theorem length_makeDnsQuery (tid : UInt8 × UInt8) {domain : List Char} {query : List UInt8}
    (h : makeDnsQuery tid domain = .ok query) :
    query.length = 12 + (encodeUtf8 domain).length + 2 + 4 := by
  by_cases hlt : ∀ label ∈ domain.splitOn '.', label.length < 256
  · rw [makeDnsQuery_of_lt tid hlt] at h
    cases h
    have hne : domain.splitOn '.' ≠ [] := List.splitOnP_ne_nil _ _
    have hcut := length_encodeUtf8_intercalate hne
    rw [List.intercalate_splitOn] at hcut
    simp only [List.length_append, length_qnameBytes, queryHeader, List.length_cons,
      List.length_nil]
    omega
  · push_neg at hlt
    rw [makeDnsQuery_of_le tid hlt] at h
    cases h

/-! ### Any Python `str` -/

/-- The loop of `make_dns_query` over the labels of any `str`: `bytes([len(label)])` first,
then `label.encode()`. -/
def encodeQnameStr : List (List PyChar) → Except String (List UInt8)
  | [] => .ok [0]
  | label :: labels => do
    let length ← byteOf label.length
    let bytes ← encodeStr label
    let rest ← encodeQnameStr labels
    pure (length :: bytes ++ rest)

/-- `make_dns_query(domain)` for any `str`, lone surrogates included. -/
def makeDnsQueryStr (tid : UInt8 × UInt8) (domain : List PyChar) :
    Except String (List UInt8) := do
  let flags : List UInt8 := [0x01, 0x00]
  let qdcount : List UInt8 := [0x00, 0x01]
  let ancount : List UInt8 := [0x00, 0x00]
  let nscount : List UInt8 := [0x00, 0x00]
  let arcount : List UInt8 := [0x00, 0x00]
  let qname ← encodeQnameStr (domain.splitOn (.scalar '.'))
  let qtype : List UInt8 := [0x00, 0x01]
  let qclass : List UInt8 := [0x00, 0x01]
  pure ([tid.1, tid.2] ++ flags ++ qdcount ++ ancount ++ nscount ++ arcount ++ qname ++ qtype ++
    qclass)

theorem encodeQnameStr_map (labels : List (List Char)) :
    encodeQnameStr (labels.map (List.map .scalar)) = encodeQname labels := by
  induction labels with
  | nil => rfl
  | cons label labels ih =>
      simp only [List.map_cons, encodeQnameStr, encodeQname, List.length_map, encodeStr_scalar, ih]
      rfl

/-- On a `str` of scalar values the two models agree. -/
theorem makeDnsQueryStr_scalar (tid : UInt8 × UInt8) (domain : List Char) :
    makeDnsQueryStr tid (domain.map .scalar) = makeDnsQuery tid domain := by
  simp only [makeDnsQueryStr, makeDnsQuery, splitOn_map_scalar, encodeQnameStr_map]

theorem exists_of_bind_eq_ok {ε α β : Type} {x : Except ε α} {f : α → Except ε β} {b : β}
    (h : x >>= f = .ok b) : ∃ a, x = .ok a ∧ f a = .ok b := by
  cases x with
  | error e => cases h
  | ok a => exact ⟨a, rfl, h⟩

theorem encodeQnameStr_ok {labels : List (List PyChar)} {qname : List UInt8}
    (h : encodeQnameStr labels = .ok qname) : ∀ label ∈ labels, ∀ c ∈ label, ∃ ch, c = .scalar ch := by
  induction labels generalizing qname with
  | nil => simp
  | cons label labels ih =>
      rw [encodeQnameStr] at h
      obtain ⟨_, -, h⟩ := exists_of_bind_eq_ok h
      obtain ⟨_, hs, h⟩ := exists_of_bind_eq_ok h
      obtain ⟨_, hr, -⟩ := exists_of_bind_eq_ok h
      exact List.forall_mem_cons.2 ⟨encodeStr_ok hs, ih hr⟩

/-- `make_dns_query` returns exactly for a `str` with no lone surrogate whose labels are all
shorter than 256 characters, and then returns the bytes `makeDnsQuery` describes. -/
theorem makeDnsQueryStr_ok (tid : UInt8 × UInt8) (domain : List PyChar) (query : List UInt8) :
    makeDnsQueryStr tid domain = .ok query ↔
      ∃ d : List Char, domain = d.map .scalar ∧ (∀ label ∈ d.splitOn '.', label.length < 256) ∧
        query = queryHeader tid ++ qnameBytes (d.splitOn '.') ++ [0x00, 0x01, 0x00, 0x01] := by
  constructor
  · intro h
    have hscalar : ∀ c ∈ domain, ∃ ch, c = .scalar ch := by
      obtain ⟨_, hq, -⟩ := exists_of_bind_eq_ok h
      intro c hc
      by_cases hsep : c = .scalar '.'
      · exact ⟨'.', hsep⟩
      · obtain ⟨part, hpart, hcp⟩ := @exists_mem_splitOnP _ (· == .scalar '.') _ _ hc
          (by simpa using hsep)
        exact encodeQnameStr_ok hq part hpart c hcp
    rw [← map_scalar_filterMap hscalar, makeDnsQueryStr_scalar] at h
    refine ⟨_, (map_scalar_filterMap hscalar).symm, ?_⟩
    by_cases hlt : ∀ label ∈ (domain.filterMap PyChar.toChar?).splitOn '.', label.length < 256
    · rw [makeDnsQuery_of_lt tid hlt] at h
      exact ⟨hlt, (Except.ok.inj h).symm⟩
    · push_neg at hlt
      rw [makeDnsQuery_of_le tid hlt] at h
      cases h
  · rintro ⟨d, rfl, hlt, rfl⟩
    rw [makeDnsQueryStr_scalar, makeDnsQuery_of_lt tid hlt]

example : makeDnsQueryStr (0xaa, 0xbb) [.surrogate 0x4e9, .scalar '.', .scalar 'c', .scalar 'o',
    .scalar 'm'] = .error "surrogates not allowed" := rfl

end ProtocolProbe.Dns
