import ProtocolProbe.Dns.Server
import ProtocolProbe.Analyzer.Log

/-!
# The probes of `protocol_tester_client.py`

`test_protocol` sends one packet, waits for one reply, and records how the exchange ended
in a dict.  `run_tests` sends ten such probes: DNS over TCP and UDP, an SSH banner, a TLS
ClientHello, and random bytes to each port.  It then writes one comma-separated line per
probe.  The network is a parameter: for each probe, how sending ended, and what the read
of the reply returned or raised.  Only the probe's name and its status are text.  The
status holds a comma only when it is an error message that holds one.
-/

namespace ProtocolProbe.Client

open Analyzer (SockError)
open Dns

/-- The dict `test_protocol` returns. -/
structure ProbeResult where
  port : Nat
  proto : List Char
  type : List Char
  sentBytes : Nat
  status : List Char
  recvBytes : Nat
  timeMs : Nat
deriving DecidableEq, Repr

/-- The status the outer `except` clauses of `test_protocol` record. -/
def probeFailure : SockError → List Char
  | .refused => "REFUSED".toList
  | .timeout => "TIMEOUT".toList
  | e => "ERROR:".toList ++ e.str.take 30

/-- `test_protocol(host, port, proto, packet_type, data)`.  `sent` is how `connect` and
`sendall` (TCP) or `sendto` (UDP) ended, `reply` what `recv(4096)` or `recvfrom(4096)`
returned or raised, and `elapsedMs` the measured time.  The inner `except` catches only
`socket.timeout`; any other exception reaches the outer clauses. -/
def testProtocol (port : Nat) (proto packetType : List Char) (data : List UInt8)
    (sent : Except SockError Unit) (reply : Except SockError (List UInt8)) (elapsedMs : Nat) :
    ProbeResult :=
  let result : ProbeResult := ⟨port, proto, packetType, data.length, "UNKNOWN".toList, 0, 0⟩
  match sent, reply with
  | .error e, _ => { result with status := probeFailure e }
  | .ok (), .ok response =>
      { result with recvBytes := response.length, status := "SUCCESS".toList, timeMs := elapsedMs }
  | .ok (), .error .timeout => { result with status := "NO_RESPONSE".toList, timeMs := elapsedMs }
  | .ok (), .error e => { result with status := probeFailure e }

/-- The status is one of the five words, or `ERROR:` and at most 30 characters of the
exception's text. -/
theorem status_testProtocol (port : Nat) (proto packetType : List Char) (data : List UInt8)
    (sent : Except SockError Unit) (reply : Except SockError (List UInt8)) (elapsedMs : Nat) :
    (testProtocol port proto packetType data sent reply elapsedMs).status ∈
        ["SUCCESS", "NO_RESPONSE", "REFUSED", "TIMEOUT"].map String.toList ∨
      ∃ msg, (testProtocol port proto packetType data sent reply elapsedMs).status =
        "ERROR:".toList ++ msg ∧ msg.length ≤ 30 := by
  have hfail : ∀ e, probeFailure e ∈ ["SUCCESS", "NO_RESPONSE", "REFUSED", "TIMEOUT"].map
      String.toList ∨ ∃ msg, probeFailure e = "ERROR:".toList ++ msg ∧ msg.length ≤ 30
    | .refused => .inl (by decide)
    | .timeout => .inl (by decide)
    | .other msg => .inr ⟨_, rfl, List.length_take_le _ _⟩
  unfold testProtocol
  split
  · exact hfail _
  · exact .inl (by simp)
  · exact .inl (by simp)
  · exact hfail _

/-! ### The packets -/

/-- `make_ssh_banner()`. -/
def makeSshBanner : List UInt8 := encodeUtf8 "SSH-2.0-OpenSSH_8.2p1 Ubuntu-4ubuntu0.5\r\n".toList

/-- `make_https_clienthello()`, with `os.urandom(32)` returning `random`. -/
def makeHttpsClienthello (random : List UInt8) : List UInt8 :=
  let contentType : List UInt8 := [0x16]
  let version : List UInt8 := [0x03, 0x01]
  let length : List UInt8 := [0x00, 0x40]
  let handshakeType : List UInt8 := [0x01]
  let hsLength : List UInt8 := [0x00, 0x00, 0x3c]
  let clientVersion : List UInt8 := [0x03, 0x03]
  let sessionIdLen : List UInt8 := [0x00]
  let cipherSuitesLen : List UInt8 := [0x00, 0x02]
  let cipherSuites : List UInt8 := [0x00, 0x2f]
  let compressionMethodsLen : List UInt8 := [0x01]
  let compressionMethods : List UInt8 := [0x00]
  let handshake := handshakeType ++ hsLength ++ clientVersion ++ random ++ sessionIdLen ++
    cipherSuitesLen ++ cipherSuites ++ compressionMethodsLen ++ compressionMethods
  contentType ++ version ++ length ++ handshake.take 64

/-- `dns_tcp = struct.pack('!H', len(dns_query)) + dns_query`. -/
def dnsTcpProbe (dnsQuery : List UInt8) : Except String (List UInt8) := do
  let lengthBytes ← packH dnsQuery.length
  pure (lengthBytes ++ dnsQuery)

/-! ### `run_tests` -/

/-- How the network answered probe `i`: how sending ended, what the read of the reply
returned or raised, and the time measured. -/
structure Network where
  sent : Nat → Except SockError Unit
  reply : Nat → Except SockError (List UInt8)
  elapsedMs : Nat → Nat

/-- The probes of `run_tests` in order: name, port, protocol, packet type and bytes.
`random` holds the four `os.urandom(64)` draws. -/
def probes (dnsQuery dnsTcp tlsHello : List UInt8) (random : Fin 4 → List UInt8) :
    List (String × Nat × String × String × List UInt8) :=
  [("DNS TCP", 53, "tcp", "DNS_QUERY", dnsTcp),
   ("DNS UDP", 53, "udp", "DNS_QUERY", dnsQuery),
   ("DNS TCP (random)", 53, "tcp", "RANDOM", random 0),
   ("DNS UDP (random)", 53, "udp", "RANDOM", random 1),
   ("SSH:22 TCP", 22, "tcp", "SSH_BANNER", makeSshBanner),
   ("SSH:22 (random)", 22, "tcp", "RANDOM", random 2),
   ("SSH:2222 TCP", 2222, "tcp", "SSH_BANNER", makeSshBanner),
   ("HTTPS:443", 443, "tcp", "TLS_HELLO", tlsHello),
   ("HTTPS:443 (random)", 443, "tcp", "RANDOM", random 3),
   ("HTTPS:8443", 8443, "tcp", "TLS_HELLO", tlsHello)]

/-- The names of the probes, in the order `run_tests` sends them. -/
def testNames : List (List Char) :=
  ["DNS TCP", "DNS UDP", "DNS TCP (random)", "DNS UDP (random)", "SSH:22 TCP", "SSH:22 (random)",
    "SSH:2222 TCP", "HTTPS:443", "HTTPS:443 (random)", "HTTPS:8443"].map String.toList

/-- Each probe's name with its result, probe `i` meeting the network as `net` says. -/
def runProbes (net : Network) (dnsQuery dnsTcp tlsHello : List UInt8)
    (random : Fin 4 → List UInt8) : List (List Char × ProbeResult) :=
  (probes dnsQuery dnsTcp tlsHello random).enum.map fun (i, name, port, proto, type, data) ↦
    (name.toList, testProtocol port proto.toList type.toList data (net.sent i) (net.reply i)
      (net.elapsedMs i))

/-- The `tests` list of `run_tests`.  `dnsQuery` is what `make_dns_query()` returned and
`tlsHello` what `make_https_clienthello()` returned; the prints are left out, and
`testerAnalysis` below is what the analysis prints. -/
def runTests (net : Network) (dnsQuery tlsHello : List UInt8) (random : Fin 4 → List UInt8) :
    Except String (List (List Char × ProbeResult)) := do
  let dnsTcp ← dnsTcpProbe dnsQuery
  pure (runProbes net dnsQuery dnsTcp tlsHello random)

/-- `f"{name},{result['status']},{result['sent_bytes']},{result['recv_bytes']},
{result['time_ms']}"`, without its newline. -/
def resultLine (name : List Char) (r : ProbeResult) : List Char :=
  [','].intercalate [name, r.status, Nat.toDigits 10 r.sentBytes, Nat.toDigits 10 r.recvBytes,
    Nat.toDigits 10 r.timeMs]

/-- The header line of the results file, without its newline. -/
def resultsHeader : List Char := "protocol,status,sent_bytes,recv_bytes,time_ms".toList

/-- The text of the results file. -/
def resultsLog (tests : List (List Char × ProbeResult)) : List Char :=
  resultsHeader ++ '\n' :: (tests.map fun t ↦ resultLine t.1 t.2 ++ ['\n']).flatten

theorem dnsTcpProbe_of_lt {dnsQuery : List UInt8} (h : dnsQuery.length < 65536) :
    dnsTcpProbe dnsQuery = .ok (lengthPrefix dnsQuery.length ++ dnsQuery) := by
  simp only [dnsTcpProbe, packH_of_lt h]
  rfl

theorem map_fst_runProbes (net : Network) (dnsQuery dnsTcp tlsHello : List UInt8)
    (random : Fin 4 → List UInt8) :
    (runProbes net dnsQuery dnsTcp tlsHello random).map Prod.fst = testNames := rfl

theorem mem_runProbes {net : Network} {dnsQuery dnsTcp tlsHello : List UInt8}
    {random : Fin 4 → List UInt8} {t : List Char × ProbeResult}
    (ht : t ∈ runProbes net dnsQuery dnsTcp tlsHello random) :
    ∃ (i port : Nat) (proto type : List Char) (data : List UInt8),
      t.2 = testProtocol port proto type data (net.sent i) (net.reply i) (net.elapsedMs i) := by
  obtain ⟨⟨i, name, port, proto, type, data⟩, -, rfl⟩ := List.mem_map.mp ht
  exact ⟨i, port, proto.toList, type.toList, data, rfl⟩

/-- Whatever the network does, once the DNS query fits its 16-bit prefix `run_tests` returns
its ten probes in order.  Each line of the results file splits back into its probe's five
fields exactly when the status holds no comma, and a status holds one only when it is
`ERROR:` followed by at most 30 characters of an exception's text that hold it. -/
theorem runTests_resultLines (net : Network) {dnsQuery : List UInt8}
    (hq : dnsQuery.length < 65536) (tlsHello : List UInt8) (random : Fin 4 → List UInt8) :
    ∃ tests, runTests net dnsQuery tlsHello random = .ok tests ∧ tests.map Prod.fst = testNames ∧
      ∀ t ∈ tests, ((resultLine t.1 t.2).splitOn ',' = [t.1, t.2.status,
          Nat.toDigits 10 t.2.sentBytes, Nat.toDigits 10 t.2.recvBytes,
          Nat.toDigits 10 t.2.timeMs] ↔ ',' ∉ t.2.status) ∧
        (',' ∈ t.2.status →
          ∃ msg, t.2.status = "ERROR:".toList ++ msg ∧ msg.length ≤ 30 ∧ ',' ∈ msg) := by
  have hnames : ∀ name ∈ testNames, ',' ∉ name := by decide
  have hwords : ∀ w ∈ ["SUCCESS", "NO_RESPONSE", "REFUSED", "TIMEOUT"].map String.toList,
      ',' ∉ w := by decide
  have hdigits : ∀ n, ',' ∉ Nat.toDigits 10 n := not_mem_toDigits (by decide)
  refine ⟨runProbes net dnsQuery (lengthPrefix dnsQuery.length ++ dnsQuery) tlsHello random,
    by rw [runTests, dnsTcpProbe_of_lt hq]; rfl, rfl, fun t ht ↦ ⟨?_, fun hc ↦ ?_⟩⟩
  · have hname := hnames _ (map_fst_runProbes .. ▸ List.mem_map_of_mem Prod.fst ht)
    rw [resultLine, splitOn_intercalate_iff (List.cons_ne_nil _ _)]
    simp [hname, hdigits]
  · obtain ⟨i, port, proto, type, data, heq⟩ := mem_runProbes ht
    rcases heq ▸ status_testProtocol port proto type data (net.sent i) (net.reply i)
      (net.elapsedMs i) with hw | ⟨msg, hmsg, hlen⟩
    · exact absurd hc (hwords _ hw)
    · rw [hmsg] at hc
      exact ⟨msg, hmsg, hlen, (List.mem_append.mp hc).resolve_left (by decide)⟩

theorem runTests_resultLines_realDnsQuery :
    realDnsQuery.length < 65536 ∧
      ∃ tests, runTests ⟨fun _ ↦ .ok (), fun _ ↦ .error .timeout, fun _ ↦ 5000⟩ realDnsQuery
          (makeHttpsClienthello (List.replicate 32 0)) (fun _ ↦ List.replicate 64 0) = .ok tests ∧
        tests.map Prod.fst = testNames ∧
        ∀ t ∈ tests, ((resultLine t.1 t.2).splitOn ',' = [t.1, t.2.status,
            Nat.toDigits 10 t.2.sentBytes, Nat.toDigits 10 t.2.recvBytes,
            Nat.toDigits 10 t.2.timeMs] ↔ ',' ∉ t.2.status) ∧
          (',' ∈ t.2.status →
            ∃ msg, t.2.status = "ERROR:".toList ++ msg ∧ msg.length ≤ 30 ∧ ',' ∈ msg) :=
  have hq : realDnsQuery.length < 65536 := by decide
  ⟨hq, runTests_resultLines _ hq _ _⟩

/-! ### The analysis -/

/-- Whether a probe got a reply: its send went through and its read returned. -/
def replied : Except SockError Unit → Except SockError (List UInt8) → Bool
  | .ok (), .ok _ => true
  | _, _ => false

theorem probeFailure_ne_success (e : SockError) : probeFailure e ≠ "SUCCESS".toList := by
  cases e with
  | timeout => decide
  | refused => decide
  | other msg => exact fun h ↦ by simpa [probeFailure] using congrArg (List.take 1) h

/-- A probe's status is `SUCCESS` exactly when it got a reply. -/
theorem testProtocol_success (port : Nat) (proto packetType : List Char) (data : List UInt8)
    (sent : Except SockError Unit) (reply : Except SockError (List UInt8)) (elapsedMs : Nat) :
    decide ((testProtocol port proto packetType data sent reply elapsedMs).status =
      "SUCCESS".toList) = replied sent reply := by
  unfold testProtocol
  split
  · simpa [replied] using probeFailure_ne_success _
  · rfl
  · rfl
  · next e he => simpa [replied] using probeFailure_ne_success e

/-- `tests[i][1]['status'] == 'SUCCESS'`.  The ten tests of `run_tests` hold every index the
analysis reads. -/
def works (tests : List (List Char × ProbeResult)) (i : Nat) : Bool :=
  match tests.get? i with
  | some (_, r) => decide (r.status = "SUCCESS".toList)
  | none => false

/-- The verdicts the `ANALYSIS` section prints: one at most for each of DNS, SSH and
HTTPS. -/
def testerAnalysis (tests : List (List Char × ProbeResult)) : List String :=
  let dnsTcpWorks := works tests 0
  let dnsUdpWorks := works tests 1
  let dnsTcpRand := works tests 2
  let dns :=
    if dnsUdpWorks && !dnsTcpWorks then
      ["✓ DNS UDP works, TCP DNS fails → Iran blocks TCP on port 53"]
    else if dnsTcpWorks && !dnsTcpRand then
      ["✓ Valid DNS works, random fails → DPI validates DNS packet structure"]
    else if dnsTcpWorks && dnsTcpRand then
      ["✓ Both valid and random DNS work → Port 53 TCP is open"]
    else []
  let sshWorks := works tests 4
  let sshRand := works tests 5
  let ssh :=
    if sshWorks && !sshRand then
      ["✓ SSH banner works, random fails → DPI validates SSH protocol"]
    else if sshWorks && sshRand then
      ["✓ Both SSH banner and random work → Port 22 TCP is open"]
    else []
  let httpsWorks := works tests 7
  let httpsRand := works tests 8
  let https :=
    if httpsWorks && !httpsRand then
      ["✓ TLS hello works, random fails → DPI validates TLS handshake"]
    else if httpsWorks && httpsRand then
      ["✓ Both TLS and random work → Port 443 TCP is open"]
    else []
  dns ++ ssh ++ https

theorem works_runProbes (net : Network) (dnsQuery dnsTcp tlsHello : List UInt8)
    (random : Fin 4 → List UInt8) {i : Nat} (hi : i < 10) :
    works (runProbes net dnsQuery dnsTcp tlsHello random) i =
      replied (net.sent i) (net.reply i) := by
  have hlen : i < (probes dnsQuery dnsTcp tlsHello random).length := hi
  simp only [works, runProbes, List.get?_eq_getElem?, List.getElem?_map, List.getElem?_enum,
    List.getElem?_eq_getElem hlen, Option.map_some']
  generalize (probes dnsQuery dnsTcp tlsHello random)[i] = probe
  exact testProtocol_success ..

/-- The verdicts of `run_tests` see the network only through which probes got a reply: not
the errors that ended the others, so a refused connection and a dropped packet read alike,
nor the bytes, the times or the packets sent. -/
theorem testerAnalysis_replied (net₁ net₂ : Network)
    (h : ∀ i, replied (net₁.sent i) (net₁.reply i) = replied (net₂.sent i) (net₂.reply i))
    (dnsQuery₁ dnsTcp₁ tlsHello₁ dnsQuery₂ dnsTcp₂ tlsHello₂ : List UInt8)
    (random₁ random₂ : Fin 4 → List UInt8) :
    testerAnalysis (runProbes net₁ dnsQuery₁ dnsTcp₁ tlsHello₁ random₁) =
      testerAnalysis (runProbes net₂ dnsQuery₂ dnsTcp₂ tlsHello₂ random₂) := by
  simp (disch := decide) only [testerAnalysis, works_runProbes, h]

/-- Every connection refused, or every connection accepted and every packet dropped: the
same verdicts. -/
theorem testerAnalysis_refused_dropped :
    (∀ i, replied ((⟨fun _ ↦ .error .refused, fun _ ↦ .error .timeout, fun _ ↦ 0⟩ :
        Network).sent i) ((⟨fun _ ↦ .error .refused, fun _ ↦ .error .timeout, fun _ ↦ 0⟩ :
        Network).reply i) =
      replied ((⟨fun _ ↦ .ok (), fun _ ↦ .error .timeout, fun _ ↦ 3000⟩ : Network).sent i)
        ((⟨fun _ ↦ .ok (), fun _ ↦ .error .timeout, fun _ ↦ 3000⟩ : Network).reply i)) ∧
      testerAnalysis (runProbes ⟨fun _ ↦ .error .refused, fun _ ↦ .error .timeout, fun _ ↦ 0⟩
          realDnsQuery (lengthPrefix realDnsQuery.length ++ realDnsQuery)
          (makeHttpsClienthello (List.replicate 32 0)) fun _ ↦ List.replicate 64 0) =
        testerAnalysis (runProbes ⟨fun _ ↦ .ok (), fun _ ↦ .error .timeout, fun _ ↦ 3000⟩
          realDnsQuery (lengthPrefix realDnsQuery.length ++ realDnsQuery)
          (makeHttpsClienthello (List.replicate 32 0)) fun _ ↦ List.replicate 64 0) :=
  have h : ∀ i, replied ((⟨fun _ ↦ .error .refused, fun _ ↦ .error .timeout, fun _ ↦ 0⟩ :
        Network).sent i) ((⟨fun _ ↦ .error .refused, fun _ ↦ .error .timeout, fun _ ↦ 0⟩ :
        Network).reply i) =
      replied ((⟨fun _ ↦ .ok (), fun _ ↦ .error .timeout, fun _ ↦ 3000⟩ : Network).sent i)
        ((⟨fun _ ↦ .ok (), fun _ ↦ .error .timeout, fun _ ↦ 3000⟩ : Network).reply i) :=
    fun _ ↦ rfl
  ⟨h, testerAnalysis_replied _ _ h _ _ _ _ _ _ _ _⟩

/-! ### The DNS probe meets the DNS server -/

/-- For a valid domain of ASCII labels whose query fits in 512 bytes, the framed query of
`run_tests`, delivered whole to `handle_dns_tcp`, is answered with the response the claims
describe, behind its length prefix. -/
theorem dnsTcpProbe_answered (tid : UInt8 × UInt8) {domain : List Char}
    (hd : ValidDomain domain) (hascii : ∀ label ∈ domain.splitOn '.', ∀ c ∈ label, c.toNat < 128)
    (hlen : (encodeUtf8 domain).length ≤ 494) (later : List (List UInt8)) :
    ∃ query frame, makeDnsQuery tid domain = .ok query ∧ dnsTcpProbe query = .ok frame ∧
      handleDnsTcp (frame :: later) =
        some (lengthPrefix (dnsResponse query).length ++ dnsResponse query) ∧
      ClaimedResponse query (dnsResponse query) := by
  have hq := makeDnsQuery_of_lt tid hd.lt
  have hqlen := length_makeDnsQuery tid hq
  set query := queryHeader tid ++ qnameBytes (domain.splitOn '.') ++ [0x00, 0x01, 0x00, 0x01]
  have hframe : recvFrame ((lengthPrefix query.length ++ query) :: later) =
      some (query.length, query) := recvFrame_whole (by omega) later
  have honly : QuestionOnlyQuery query := by
    refine ⟨by omega, tid.1, tid.2, 0x01, 0x00, (domain.splitOn '.').map encodeUtf8, 0x00, 0x01,
      0x00, 0x01, hd, ?_⟩
    rw [← qnameBytes_eq_encodeName (fun l hl ↦ length_encodeUtf8_of_ascii (hascii l hl))]
    rfl
  refine ⟨query, lengthPrefix query.length ++ query, hq, ?_, ?_, dnsResponse_claimed honly⟩
  · simp only [dnsTcpProbe, packH_of_lt (show query.length < 65536 by omega)]
    rfl
  · rw [handleDnsTcp_eq_dnsUdpReply hframe honly.1, dnsUdpReply_of_le honly.1]

theorem dnsTcpProbe_answered_google :
    ValidDomain "google.com".toList ∧
      (∀ label ∈ "google.com".toList.splitOn '.', ∀ c ∈ label, c.toNat < 128) ∧
      (encodeUtf8 "google.com".toList).length ≤ 494 ∧
      ∃ query frame, makeDnsQuery (0xaa, 0xbb) "google.com".toList = .ok query ∧
        dnsTcpProbe query = .ok frame ∧
        handleDnsTcp [frame] = some (lengthPrefix (dnsResponse query).length ++ dnsResponse query) ∧
        ClaimedResponse query (dnsResponse query) :=
  have hd : ValidDomain "google.com".toList := by decide
  have hascii : ∀ label ∈ "google.com".toList.splitOn '.', ∀ c ∈ label, c.toNat < 128 := by
    decide
  have hlen : (encodeUtf8 "google.com".toList).length ≤ 494 := by decide
  ⟨hd, hascii, hlen, dnsTcpProbe_answered (0xaa, 0xbb) hd hascii hlen []⟩

end ProtocolProbe.Client
