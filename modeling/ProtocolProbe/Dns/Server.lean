import ProtocolProbe.Dns.Query

/-!
# The DNS responders of `dns_test_server.py`

`handle_dns_tcp` reads a length-prefixed query and answers it over TCP; `dns_udp_server`
answers each datagram it receives.  Both build the response with the same lines: the
query's first two bytes, fixed response flags and counts, the query's bytes after its
header, and a fixed answer record.  Neither looks at the query otherwise.
-/

namespace ProtocolProbe.Dns

/-- The answer record both responders append: a pointer to offset 12, type A, class IN,
TTL 300, RDLENGTH 4 and the address 172.217.14.206. -/
def answer : List UInt8 :=
  [0xc0, 0x0c] ++ [0x00, 0x01] ++ [0x00, 0x01] ++ [0x00, 0x00, 0x01, 0x2c] ++ [0x00, 0x04] ++
    [0xac, 0xd9, 0x0e, 0xce]

/-- The response built from `query`, as lines 75-95 of `handle_dns_tcp` and lines 119-137 of
`dns_udp_server` both build it. -/
def dnsResponse (query : List UInt8) : List UInt8 :=
  let transactionId := query.take 2
  let responseFlags : List UInt8 := [0x81, 0x80]
  let questions : List UInt8 := [0x00, 0x01]
  let answers : List UInt8 := [0x00, 0x01]
  let authority : List UInt8 := [0x00, 0x00]
  let additional : List UInt8 := [0x00, 0x00]
  let questionSection := query.drop 12
  transactionId ++ responseFlags ++ questions ++ answers ++ authority ++ additional ++
    questionSection ++ answer

/-- What `handle_dns_tcp` sends on a connection whose bytes arrive as `segments`, or `none`
when it sends nothing.  A length prefix short of two bytes closes the connection; a response
too long for `struct.pack('!H', ...)` raises inside the `try`, whose handler only prints. -/
def handleDnsTcp (segments : List (List UInt8)) : Option (List UInt8) := do
  let (_, query) ← recvFrame segments
  let response := dnsResponse query
  match packH response.length with
  | .ok lengthBytes => some (lengthBytes ++ response)
  | .error _ => none

/-- One pass of the `dns_udp_server` loop: `recvfrom(512)` keeps the first 512 bytes of the
datagram, and the response goes back to its sender. -/
def dnsUdpReply (datagram : List UInt8) : List UInt8 := dnsResponse (datagram.take 512)

/-- The `dns_udp_server` loop over the datagrams it receives, each with its sender: the
datagrams it sends, in order. -/
def dnsUdpServer {Addr : Type} (inbox : List (Addr × List UInt8)) : List (Addr × List UInt8) :=
  inbox.map fun (addr, data) ↦ (addr, dnsUdpReply data)

theorem dnsResponse_eq (query : List UInt8) :
    dnsResponse query =
      query.take 2 ++ [0x81, 0x80, 0x00, 0x01, 0x00, 0x01, 0x00, 0x00, 0x00, 0x00] ++
        query.drop 12 ++ answer := by
  simp [dnsResponse]

@[simp] theorem length_answer : answer.length = 16 := rfl

theorem length_dnsResponse (query : List UInt8) :
    (dnsResponse query).length = min 2 query.length + 10 + (query.length - 12) + 16 := by
  simp only [dnsResponse_eq, List.length_append, List.length_take, List.length_drop,
    length_answer, List.length_cons, List.length_nil]

/-- The whole of `handle_dns_tcp` once the query is read: it sends the framed response
exactly when the response's length fits the prefix. -/
theorem handleDnsTcp_of_recvFrame {segments : List (List UInt8)} {n : Nat} {query : List UInt8}
    (h : recvFrame segments = some (n, query)) :
    handleDnsTcp segments =
      if (dnsResponse query).length < 65536 then
        some (lengthPrefix (dnsResponse query).length ++ dnsResponse query)
      else none := by
  by_cases hl : (dnsResponse query).length < 65536 <;> simp [handleDnsTcp, h, packH, hl]

/-- A query as the claims describe one: at most 512 bytes, a header declaring one question,
that question's name written out in full with valid labels, and then exactly the records
the header declares (the parse ends at the last byte). -/
def WellFormedQuery (q : List UInt8) : Prop :=
  q.length ≤ 512 ∧ (∃ m, parseMessage q = some (m, q.length) ∧ m.header.qdcount = 1) ∧
    ∃ labels rest, ValidLabels labels ∧ q.drop 12 = encodeName labels ++ rest

/-- A well-formed query with no records: the header counts are 1, 0, 0, 0 and the question
is all that follows the header. -/
def QuestionOnlyQuery (q : List UInt8) : Prop :=
  q.length ≤ 512 ∧ ∃ (i0 i1 f0 f1 : UInt8) (labels : List (List UInt8)) (t0 t1 c0 c1 : UInt8),
    ValidLabels labels ∧
      q = [i0, i1, f0, f1, 0, 1, 0, 0, 0, 0, 0, 0] ++ encodeName labels ++ [t0, t1, c0, c1]

/-- The message the response to `q` should decode to: `q`'s id, flags `0x8180`, `q`'s
question, one A record for its name with TTL 300 and address 172.217.14.206, nothing else,
and no bytes after it. -/
def ClaimedResponse (q r : List UInt8) : Prop :=
  ∃ (id : Nat) (question : Question) (p p' : Nat), readU16 q 0 = some (id, p') ∧
    readQuestion q 12 = some (question, p) ∧
    parseMessage r = some (⟨⟨id, 0x8180, 1, 1, 0, 0⟩, [question],
      [⟨question.qname, 1, 1, 300, [172, 217, 14, 206]⟩], [], []⟩, r.length)

/-- The synthesized answer record, read where it sits at the end of a response whose
offset 12 holds the question's name. -/
theorem readRecord_answer {msg : List UInt8} {p e : Nat} {labels : List (List UInt8)}
    (hd : msg.drop p = answer) (hname : readNameAux msg (msg.length - 1) 12 = some (labels, e)) :
    readRecord msg p = some (⟨labels, 1, 1, 300, [172, 217, 14, 206]⟩, p + 16) := by
  have hlen : msg.length = msg.length - 1 + 1 := by
    have := congrArg List.length hd
    simp only [List.length_drop, length_answer] at this
    omega
  have hptr : readName msg p = some (labels, p + 2) := by
    rw [readName, hlen, readNameAux_pointer (hd.trans rfl) (by decide),
      show (UInt8.toNat 192 - 192) * 256 + UInt8.toNat 12 = 12 from rfl, hname]
    rfl
  exact readRecord_of_readName hptr (drop_add_of_drop hd 2) (by decide)

/-- A query with no records gets the response the claims describe. -/
theorem dnsResponse_claimed {q : List UInt8} (hq : QuestionOnlyQuery q) :
    ClaimedResponse q (dnsResponse q) := by
  obtain ⟨hlen, i0, i1, f0, f1, labels, t0, t1, c0, c1, hv, rfl⟩ := hq
  refine ⟨unpackH i0 i1, ⟨labels, unpackH t0 t1, unpackH c0 c1⟩,
    12 + (encodeName labels).length + 2 + 2, 2, rfl, ?_, ?_⟩
  · rw [List.append_assoc]
    exact readQuestion_after_header hv [i0, i1, f0, f1, 0, 1, 0, 0, 0, 0, 0, 0] rfl t0 t1 c0 c1 []
  · have hr : dnsResponse ([i0, i1, f0, f1, 0, 1, 0, 0, 0, 0, 0, 0] ++ encodeName labels ++
        [t0, t1, c0, c1]) = [i0, i1, 0x81, 0x80, 0, 1, 0, 1, 0, 0, 0, 0] ++
          (encodeName labels ++ t0 :: t1 :: c0 :: c1 :: answer) := by
      simp [dnsResponse_eq]
    rw [hr]
    have hname := readNameAux_encodeName hv [i0, i1, 0x81, 0x80, 0, 1, 0, 1, 0, 0, 0, 0]
      (t0 :: t1 :: c0 :: c1 :: answer) (([i0, i1, 0x81, 0x80, 0, 1, 0, 1, 0, 0, 0, 0] ++
        (encodeName labels ++ t0 :: t1 :: c0 :: c1 :: answer)).length - 1)
      (by have := length_lt_length_encodeName labels
          simp only [List.length_append, List.length_cons]; omega)
    rw [List.append_assoc,
      show [i0, i1, 0x81, 0x80, 0, 1, 0, 1, 0, 0, 0, 0].length = 12 from rfl] at hname
    have hT : ([i0, i1, 0x81, 0x80, 0, 1, 0, 1, 0, 0, 0, 0] ++ (encodeName labels ++
        t0 :: t1 :: c0 :: c1 :: answer)).drop (12 + (encodeName labels).length) =
          t0 :: t1 :: c0 :: c1 :: answer := by
      rw [← List.append_assoc]
      exact List.drop_left' (List.length_append _ _)
    have hd : ([i0, i1, 0x81, 0x80, 0, 1, 0, 1, 0, 0, 0, 0] ++ (encodeName labels ++
        t0 :: t1 :: c0 :: c1 :: answer)).drop (12 + (encodeName labels).length + 2 + 2) =
          answer := by
      rw [Nat.add_assoc, drop_add_of_drop hT]
      rfl
    rw [parseMessage_eq]
    simp only [readSections, show unpackH 0 1 = 1 from rfl, show unpackH 0 0 = 0 from rfl,
      show unpackH 0x81 0x80 = 0x8180 from rfl, readMany_one, readMany_zero,
      readQuestion_after_header hv [i0, i1, 0x81, 0x80, 0, 1, 0, 1, 0, 0, 0, 0] rfl]
    simp only [List.cons_append, List.nil_append] at hd hname ⊢
    simp only [readRecord_answer hd hname, Option.map_some', bind, Option.bind, pure,
      Option.some.injEq, Prod.mk.injEq, true_and, List.length_cons, List.length_append,
      length_answer]
    omega

theorem dnsUdpReply_of_le {q : List UInt8} (hq : q.length ≤ 512) :
    dnsUdpReply q = dnsResponse q := by
  rw [dnsUdpReply, List.take_of_length_le hq]

/-- Delivered whole, a query of at most 512 bytes gets the same response over TCP, behind
its length prefix, as over UDP. -/
theorem handleDnsTcp_eq_dnsUdpReply {segments : List (List UInt8)} {q : List UInt8}
    (hframe : recvFrame segments = some (q.length, q)) (hq : q.length ≤ 512) :
    handleDnsTcp segments = some (lengthPrefix (dnsUdpReply q).length ++ dnsUdpReply q) := by
  rw [handleDnsTcp_of_recvFrame hframe, dnsUdpReply_of_le hq,
    if_pos (by rw [length_dnsResponse]; omega)]

/-- Both responders answer a query with no records, delivered whole, with the response the
claims describe. -/
theorem dnsResponses_agree_claimed {segments : List (List UInt8)} {q : List UInt8}
    (hframe : recvFrame segments = some (q.length, q)) (hq : QuestionOnlyQuery q) :
    handleDnsTcp segments = some (lengthPrefix (dnsUdpReply q).length ++ dnsUdpReply q) ∧
      ClaimedResponse q (dnsUdpReply q) := by
  refine ⟨handleDnsTcp_eq_dnsUdpReply hframe hq.1, ?_⟩
  rw [dnsUdpReply_of_le hq.1]
  exact dnsResponse_claimed hq

theorem realDnsQuery_questionOnly : QuestionOnlyQuery realDnsQuery :=
  ⟨by decide, 0xaa, 0xbb, 0x01, 0x00, [[0x67, 0x6f, 0x6f, 0x67, 0x6c, 0x65], [0x63, 0x6f, 0x6d]],
    0x00, 0x01, 0x00, 0x01, by decide, rfl⟩

theorem realDnsQuery_answered :
    recvFrame [lengthPrefix realDnsQuery.length ++ realDnsQuery] =
        some (realDnsQuery.length, realDnsQuery) ∧ QuestionOnlyQuery realDnsQuery ∧
      handleDnsTcp [lengthPrefix realDnsQuery.length ++ realDnsQuery] =
        some (lengthPrefix (dnsUdpReply realDnsQuery).length ++ dnsUdpReply realDnsQuery) ∧
      ClaimedResponse realDnsQuery (dnsUdpReply realDnsQuery) :=
  have hframe := recvFrame_whole (by decide : realDnsQuery.length < 65536) []
  ⟨hframe, realDnsQuery_questionOnly, dnsResponses_agree_claimed hframe realDnsQuery_questionOnly⟩

/-- The `google.com` query with an EDNS OPT record (ARCOUNT 1, UDP size 4096), as resolvers
add one by default. -/
def ednsQuery : List UInt8 :=
  [0xaa, 0xbb, 0x01, 0x00, 0x00, 0x01, 0x00, 0x00, 0x00, 0x00, 0x00, 0x01] ++
    [0x06, 0x67, 0x6f, 0x6f, 0x67, 0x6c, 0x65, 0x03, 0x63, 0x6f, 0x6d, 0x00] ++
      [0x00, 0x01, 0x00, 0x01] ++ [0x00, 0x00, 0x29, 0x10, 0x00, 0x00, 0x00, 0x00, 0x00, 0x00, 0x00]

/-- The OPT record of a well-formed query is copied between the question and the answer,
under a header that declares one answer and no additional record: the response reads as
that OPT record for its answer, with the synthesized answer's 16 bytes left over. -/
theorem ednsQuery_response_malformed :
    WellFormedQuery ednsQuery ∧
      handleDnsTcp [lengthPrefix ednsQuery.length ++ ednsQuery] =
        some (lengthPrefix (dnsUdpReply ednsQuery).length ++ dnsUdpReply ednsQuery) ∧
      (parseMessage (dnsUdpReply ednsQuery)).map (fun r ↦ (r.1.answers, r.2)) =
        some ([⟨[], 41, 4096, 0, []⟩], 39) ∧
      (dnsUdpReply ednsQuery).length = 55 ∧
      ¬ ClaimedResponse ednsQuery (dnsUdpReply ednsQuery) := by
  have hwf : WellFormedQuery ednsQuery :=
    ⟨by decide, ⟨_, rfl, rfl⟩, [[0x67, 0x6f, 0x6f, 0x67, 0x6c, 0x65], [0x63, 0x6f, 0x6d]],
      [0x00, 0x01, 0x00, 0x01, 0x00, 0x00, 0x29, 0x10, 0x00, 0x00, 0x00, 0x00, 0x00, 0x00, 0x00],
      by decide, rfl⟩
  have hparse : (parseMessage (dnsUdpReply ednsQuery)).map (fun r ↦ (r.1.answers, r.2)) =
      some ([⟨[], 41, 4096, 0, []⟩], 39) := by decide
  refine ⟨hwf, handleDnsTcp_eq_dnsUdpReply (recvFrame_whole (by decide) []) hwf.1, hparse, rfl,
    ?_⟩
  rintro ⟨id, question, p, p', -, -, h⟩
  rw [h] at hparse
  simp at hparse

/-! ### Lengths: short and oversized queries -/

/-- A query read whole with a full header gets a response 16 bytes longer, sent behind its
length prefix exactly when that length fits in 16 bits: for a query of 65520 to 65535
bytes `struct.pack` raises and nothing is sent. -/
theorem handleDnsTcp_response_length {segments : List (List UInt8)} {q : List UInt8}
    (hframe : recvFrame segments = some (q.length, q)) (hq : 12 ≤ q.length) :
    (dnsResponse q).length = q.length + 16 ∧
      handleDnsTcp segments =
        if q.length + 16 < 65536 then some (lengthPrefix (q.length + 16) ++ dnsResponse q)
        else none := by
  have hlen : (dnsResponse q).length = q.length + 16 := by
    rw [length_dnsResponse]
    omega
  exact ⟨hlen, by rw [handleDnsTcp_of_recvFrame hframe, hlen]⟩

theorem realDnsQuery_response_length :
    recvFrame [lengthPrefix realDnsQuery.length ++ realDnsQuery] =
        some (realDnsQuery.length, realDnsQuery) ∧ 12 ≤ realDnsQuery.length ∧
      (dnsResponse realDnsQuery).length = realDnsQuery.length + 16 ∧
      handleDnsTcp [lengthPrefix realDnsQuery.length ++ realDnsQuery] =
        if realDnsQuery.length + 16 < 65536 then
          some (lengthPrefix (realDnsQuery.length + 16) ++ dnsResponse realDnsQuery)
        else none :=
  have hframe := recvFrame_whole (by decide : realDnsQuery.length < 65536) []
  ⟨hframe, by decide, handleDnsTcp_response_length hframe (by decide)⟩

/-- A query of 65520 bytes, read whole, gets no response. -/
theorem handleDnsTcp_oversized :
    recvFrame [lengthPrefix 65520 ++ List.replicate 65520 0] =
        some (65520, List.replicate 65520 0) ∧
      handleDnsTcp [lengthPrefix 65520 ++ List.replicate 65520 0] = none := by
  have hlen : (List.replicate 65520 (0 : UInt8)).length = 65520 := List.length_replicate _ _
  have hframe := @recvFrame_whole (List.replicate 65520 0) (by rw [hlen]; decide) []
  rw [hlen] at hframe
  refine ⟨hframe, ?_⟩
  rw [handleDnsTcp_of_recvFrame hframe, if_neg (by rw [length_dnsResponse, hlen]; decide)]

/-- A query shorter than a header is answered all the same, over both transports: its first
two bytes, the fixed flags and counts, and the answer record. -/
theorem shortQuery_answered {segments : List (List UInt8)} {q : List UInt8}
    (hframe : recvFrame segments = some (q.length, q)) (hq : q.length < 12) :
    dnsResponse q = q.take 2 ++ [0x81, 0x80, 0x00, 0x01, 0x00, 0x01, 0x00, 0x00, 0x00, 0x00] ++
        answer ∧
      handleDnsTcp segments = some (lengthPrefix (dnsResponse q).length ++ dnsResponse q) ∧
      dnsUdpReply q = dnsResponse q := by
  refine ⟨?_, ?_, dnsUdpReply_of_le (by omega)⟩
  · rw [dnsResponse_eq, List.drop_eq_nil_of_le (by omega), List.append_nil]
  · rw [handleDnsTcp_of_recvFrame hframe, if_pos (by rw [length_dnsResponse]; omega)]

theorem shortQuery_answered_example :
    recvFrame [[0x00, 0x05, 0xaa, 0xbb, 0x01, 0x00, 0x00]] =
        some ([0xaa, 0xbb, 0x01, 0x00, 0x00].length, [0xaa, 0xbb, 0x01, 0x00, 0x00]) ∧
      [0xaa, 0xbb, 0x01, 0x00, 0x00].length < 12 ∧
      (dnsResponse [0xaa, 0xbb, 0x01, 0x00, 0x00] = [0xaa, 0xbb, 0x01, 0x00, 0x00].take 2 ++
          [0x81, 0x80, 0x00, 0x01, 0x00, 0x01, 0x00, 0x00, 0x00, 0x00] ++ answer ∧
        handleDnsTcp [[0x00, 0x05, 0xaa, 0xbb, 0x01, 0x00, 0x00]] =
          some (lengthPrefix (dnsResponse [0xaa, 0xbb, 0x01, 0x00, 0x00]).length ++
            dnsResponse [0xaa, 0xbb, 0x01, 0x00, 0x00]) ∧
        dnsUdpReply [0xaa, 0xbb, 0x01, 0x00, 0x00] = dnsResponse [0xaa, 0xbb, 0x01, 0x00, 0x00]) :=
  have hframe : recvFrame [[0x00, 0x05, 0xaa, 0xbb, 0x01, 0x00, 0x00]] =
      some ([0xaa, 0xbb, 0x01, 0x00, 0x00].length, [0xaa, 0xbb, 0x01, 0x00, 0x00]) := by decide
  ⟨hframe, by decide, shortQuery_answered hframe (by decide)⟩

/-- An empty query, a two-byte prefix of zero over TCP or an empty datagram, is answered. -/
theorem emptyQuery_answered :
    handleDnsTcp [[0x00, 0x00]] = some (lengthPrefix 26 ++ dnsResponse []) ∧
      dnsUdpReply [] = [0x81, 0x80, 0x00, 0x01, 0x00, 0x01, 0x00, 0x00, 0x00, 0x00, 0xc0, 0x0c,
        0x00, 0x01, 0x00, 0x01, 0x00, 0x00, 0x01, 0x2c, 0x00, 0x04, 0xac, 0xd9, 0x0e, 0xce] :=
  ⟨by decide, rfl⟩

/-! ### Frames cut by the network -/

/-- What `test_real_dns_query` reports as the DNS response on the reply stream: once the
2-byte prefix has arrived, the bytes of one `recv` of the declared length.  It reports no
failure when they fall short, and returns `True`. -/
def testRealDnsQueryReply (reply : List (List UInt8)) : Option (List UInt8) :=
  (recvFrame reply).map Prod.snd

/-- The network may cut a frame's body after its first `k` bytes. -/
def cutFrame (p : List UInt8) (k : Nat) (hk : 0 < k) (hkp : k < p.length) :
    Segmentation (lengthPrefix p.length ++ p) where
  segments := [lengthPrefix p.length, p.take k, p.drop k]
  flatten_eq := by simp
  ne_nil := by
    intro s hs
    simp only [List.mem_cons, List.mem_singleton, List.not_mem_nil, or_false] at hs
    rcases hs with rfl | rfl | rfl <;> intro h
    · simp [lengthPrefix] at h
    · rcases List.take_eq_nil_iff.mp h with h0 | rfl
      · omega
      · simp at hkp
    · have := List.drop_eq_nil_iff.mp h
      omega

/-- Whatever the segmentation of a framed query and of the bytes after it, `handle_dns_tcp`
answers, if at all, from what its framed read returned: a prefix of the query, not empty
when the query is not, and never a byte past it. -/
theorem handleDnsTcp_answers_prefixOf {p : List UInt8} (hp : p.length < 65536)
    (more : List UInt8) (s : Segmentation (lengthPrefix p.length ++ p ++ more)) {out : List UInt8}
    (h : handleDnsTcp s.segments = some out) :
    ∃ q, recvFrame s.segments = some (p.length, q) ∧ q <+: p ∧ (p ≠ [] → q ≠ []) ∧
      out = lengthPrefix (dnsResponse q).length ++ dnsResponse q := by
  cases hframe : recvFrame s.segments with
  | none => simp [handleDnsTcp, hframe] at h
  | some r =>
      obtain ⟨n, q⟩ := r
      obtain ⟨rfl, hq, hne⟩ := recvFrame_prefixOf hp s hframe
      refine ⟨q, rfl, hq, hne, ?_⟩
      rw [handleDnsTcp_of_recvFrame hframe] at h
      split at h
      · exact (Option.some.inj h).symm
      · cases h

/-- A query followed, in the same segment, by a second framed query. -/
theorem realDnsQuery_pipelined_answered :
    realDnsQuery.length < 65536 ∧
      handleDnsTcp [lengthPrefix realDnsQuery.length ++ realDnsQuery ++
          (lengthPrefix realDnsQuery.length ++ realDnsQuery)] =
        some (lengthPrefix (dnsResponse realDnsQuery).length ++ dnsResponse realDnsQuery) ∧
      ∃ q, recvFrame [lengthPrefix realDnsQuery.length ++ realDnsQuery ++
            (lengthPrefix realDnsQuery.length ++ realDnsQuery)] = some (realDnsQuery.length, q) ∧
        q <+: realDnsQuery ∧ (realDnsQuery ≠ [] → q ≠ []) ∧
        lengthPrefix (dnsResponse realDnsQuery).length ++ dnsResponse realDnsQuery =
          lengthPrefix (dnsResponse q).length ++ dnsResponse q :=
  have hp : realDnsQuery.length < 65536 := by decide
  ⟨hp, by decide, handleDnsTcp_answers_prefixOf hp (lengthPrefix realDnsQuery.length ++ realDnsQuery)
    ⟨[lengthPrefix realDnsQuery.length ++ realDnsQuery ++
      (lengthPrefix realDnsQuery.length ++ realDnsQuery)], by simp, by simp [lengthPrefix]⟩
    (by decide)⟩

/-- A frame whose body is cut after `k` of its bytes: `handle_dns_tcp` answers from those
`k` bytes, and `test_real_dns_query` reports them as the response, with no framing error. -/
theorem handleDnsTcp_short_read (p : List UInt8) (hp : p.length + 16 < 65536) (k : Nat)
    (hk : 0 < k) (hkp : k < p.length) :
    p.take k ≠ p ∧
      handleDnsTcp (cutFrame p k hk hkp).segments =
        some (lengthPrefix (dnsResponse (p.take k)).length ++ dnsResponse (p.take k)) ∧
      testRealDnsQueryReply (cutFrame p k hk hkp).segments = some (p.take k) := by
  have hframe := recvFrame_cut (by omega : p.length < 65536) k []
  refine ⟨fun h ↦ ?_, ?_, by simp [testRealDnsQueryReply, cutFrame, hframe]⟩
  · have := congrArg List.length h
    simp only [List.length_take] at this
    omega
  · have hlen := length_dnsResponse (p.take k)
    have htake : (p.take k).length ≤ p.length := List.length_take_le' k p
    exact (handleDnsTcp_of_recvFrame hframe).trans (if_pos (by omega))

theorem realDnsQuery_short_read :
    realDnsQuery.length + 16 < 65536 ∧ 0 < 10 ∧ 10 < realDnsQuery.length ∧
      (realDnsQuery.take 10 ≠ realDnsQuery ∧
        handleDnsTcp (cutFrame realDnsQuery 10 (by decide) (by decide)).segments =
          some (lengthPrefix (dnsResponse (realDnsQuery.take 10)).length ++
            dnsResponse (realDnsQuery.take 10)) ∧
        testRealDnsQueryReply (cutFrame realDnsQuery 10 (by decide) (by decide)).segments =
          some (realDnsQuery.take 10)) :=
  ⟨by decide, by decide, by decide,
    handleDnsTcp_short_read realDnsQuery (by decide) 10 (by decide) (by decide)⟩

end ProtocolProbe.Dns
