import ProtocolProbe.Wire.Stream
import ProtocolProbe.Wire.Text
import ProtocolProbe.Dns.Message
import ProtocolProbe.Dns.Query
import ProtocolProbe.Dns.Server
import ProtocolProbe.Analyzer.Log
import ProtocolProbe.Analyzer.Stats
import ProtocolProbe.Analyzer.Threads
import ProtocolProbe.Analyzer.Order
import ProtocolProbe.Analyzer.Export
import ProtocolProbe.Client.Tester
import ProtocolProbe.Client.Blocking
import ProtocolProbe.Client.Tunnel
import ProtocolProbe.Client.TunnelRun
