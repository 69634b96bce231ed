import ProtocolProbe.Analyzer.Log

/-!
# The tests of `test_dns_blocking.py`

Each of the five tests connects, sends its packet and reads the reply under a timeout.  A
test returns `True` unless a socket call raises something its inner `except` does not
catch, and that clause catches `socket.timeout` around the reads only.  So a reply that
never comes counts as a pass.  The analysis at the end compares the five results.  It sees
which connections and sends failed, and which reads raised something other than a timeout,
but never whether a reply came.
-/

namespace ProtocolProbe.Client

open Analyzer (SockError)

/-- How a read under `try ... except socket.timeout` ends for its test: a reply or a timeout
lets the test go on, and any other exception reaches the outer `except`. -/
def readPasses {α : Type} : Except SockError α → Bool
  | .ok _ => true
  | .error e => decide (e = .timeout)

/-- One test whose `connect` and send ended as `sent` and whose read of the reply ended as
`reply`.  Its outer `except Exception` returns `False`. -/
def blockingTest {α : Type} (sent : Except SockError Unit) (reply : Except SockError α) : Bool :=
  match sent with
  | .error _ => false
  | .ok () => readPasses reply

/-- How the network treats the five tests, in the order `__main__` runs them: how `connect`
and the send ended, and how the read of the reply ended.  `response n` is how the second
read of test 2, `recv(n)` after the length prefix, ended. -/
structure BlockingNet where
  sent : Fin 5 → Except SockError Unit
  reply : Fin 5 → Except SockError (List UInt8)
  response : Nat → Except SockError (List UInt8)

/-- `test_tcp_echo`: sends `HELLO_WORLD_TEST\n` and reads `recv(1024)`. -/
def testTcpEcho (net : BlockingNet) : Bool := blockingTest (net.sent 0) (net.reply 0)

/-- The reads of `test_real_dns_query`: `recv(2)`, and when it returned both bytes of the
prefix, `recv(response_length)`, both under the one `except socket.timeout`. -/
def realDnsQueryRead (lengthData : Except SockError (List UInt8))
    (response : Nat → Except SockError (List UInt8)) : Except SockError Unit := do
  match ← lengthData with
  | [b0, b1] =>
      let _ ← response (unpackH b0 b1)
      pure ()
  | _ => pure ()

/-- `test_real_dns_query`: sends the framed `google.com` query. -/
def testRealDnsQuery (net : BlockingNet) : Bool :=
  blockingTest (net.sent 1) (realDnsQueryRead (net.reply 1) net.response)

/-- `test_fake_dns_query`: sends a framed query whose name is one label of 32 `A`s, and
reads `recv(1024)`. -/
def testFakeDnsQuery (net : BlockingNet) : Bool := blockingTest (net.sent 2) (net.reply 2)

/-- `test_encrypted_payload`: sends 256 random bytes and reads `recv(1024)`. -/
def testEncryptedPayload (net : BlockingNet) : Bool := blockingTest (net.sent 3) (net.reply 3)

/-- `test_udp_dns`: sends the `google.com` query as a datagram and reads `recvfrom(1024)`. -/
def testUdpDns (net : BlockingNet) : Bool := blockingTest (net.sent 4) (net.reply 4)

/-- The `results` dict of `__main__`. -/
structure BlockingResults where
  tcpEcho : Bool
  realDnsTcp : Bool
  fakeDns : Bool
  encrypted : Bool
  udpDns : Bool
deriving DecidableEq, Repr

/-- The five tests, run in turn. -/
def runBlockingTests (net : BlockingNet) : BlockingResults :=
  ⟨testTcpEcho net, testRealDnsQuery net, testFakeDnsQuery net, testEncryptedPayload net,
    testUdpDns net⟩

/-- The lines the `Analysis:` section prints after its heading. -/
def blockingAnalysis (results : BlockingResults) : List String :=
  if results.tcpEcho && !results.realDnsTcp then
    ["→ TCP connection works, but real DNS queries fail",
      "  Likely: DPI inspecting DNS packet format"]
  else if results.realDnsTcp && !results.fakeDns then
    ["→ Real DNS works, fake DNS fails", "  Likely: DPI validating DNS packet structure"]
  else if results.realDnsTcp && !results.encrypted then
    ["→ DNS works, encrypted data fails", "  Likely: DPI detecting high entropy / encryption"]
  else if results.udpDns && !results.realDnsTcp then
    ["→ UDP DNS works, TCP DNS fails", "  Likely: Iran blocks TCP on port 53 (expects UDP)"]
  else ["→ See test results above for patterns"]

end ProtocolProbe.Client
