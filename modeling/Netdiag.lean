import Netdiag.Lib.Runs
import Netdiag.Lib.Broadcast
import Netdiag.Lib.Bytes
import Netdiag.Lib.Pcap
import Netdiag.Lib.Text
import Netdiag.Lib.Words
import Netdiag.Lib.Checked
import Netdiag.Lib.OnesComplement
import Netdiag.Lib.Vectors
import Netdiag.Lib.Maps
import Netdiag.Lib.Ranking
import Netdiag.Ipc.Frame
import Netdiag.Ipc.Stream
import Netdiag.Ipc.Session
import Netdiag.Ipc.Effect
import Netdiag.Ipc.Table
import Netdiag.Ipc.Registered
import Netdiag.Ipc.Call
import Netdiag.Ipc.Terminator
import Netdiag.Ipc.Captures
import Netdiag.Ipc.Client
import Netdiag.Ipc.Reader
import Netdiag.Ipc.Ending
import Netdiag.Ipc.Abandoned
import Netdiag.Ipc.Demux
import Netdiag.Ipc.Answers
import Netdiag.Ipc.Unary
import Netdiag.Ipc.Link
import Netdiag.Ipc.Codec
import Netdiag.Ipc.Varint
import Netdiag.Net.Addr
import Netdiag.Net.AddrText
import Netdiag.Net.AddrDisplay
import Netdiag.Net.AddrRead
import Netdiag.Watch.Event
import Netdiag.Watch.Families
import Netdiag.Watch.Bus
import Netdiag.Watch.Sequence
import Netdiag.Watch.Gaps
import Netdiag.Net.Messages
import Netdiag.Watch.Neighbors
import Netdiag.Platform.Framework
import Netdiag.Platform.Shim
import Netdiag.Platform.Packages
import Netdiag.Probe.Context
import Netdiag.Probe.Mtu
import Netdiag.Probe.PathMtu
import Netdiag.Diag.Check
import Netdiag.Diag.State
import Netdiag.Probe.Dns
import Netdiag.Probe.Nat64
import Netdiag.Probe.DnsWire
import Netdiag.Probe.DnsResponse
import Netdiag.Probe.DnsQuery
import Netdiag.Probe.DnsExchange
import Netdiag.Probe.ClientHello
import Netdiag.Probe.Replies
import Netdiag.Probe.Echo
import Netdiag.Probe.Ping
import Netdiag.Diag.Structural
import Netdiag.Diag.Vpn
import Netdiag.Diag.Active
import Netdiag.Diag.Probed
import Netdiag.Diag.Engine
import Netdiag.Diag.Findings
import Netdiag.Diag.Streamed
import Netdiag.Diag.Blackhole
import Netdiag.Collect.Sockets
import Netdiag.Collect.Selection
import Netdiag.Watch.Sockets
import Netdiag.Watch.Replay
import Netdiag.Watch.Counts
import Netdiag.Correlate.Agreement
import Netdiag.Correlate.AppState
import Netdiag.Correlate.Bypass
import Netdiag.Collect.Rules
import Netdiag.App.Streams
import Netdiag.App.Cancels
import Netdiag.App.Requests
import Netdiag.App.SocketWatch
import Netdiag.App.Capture
import Netdiag.Capture.Pcap
import Netdiag.Capture.Decode
import Netdiag.Capture.Socket
import Netdiag.Capture.Transport
import Netdiag.Capture.Loop
import Netdiag.Capture.Refine
import Netdiag.Capture.Framing
import Netdiag.Collect.Links
import Netdiag.Collect.Dump
import Netdiag.Collect.Firewall
import Netdiag.Collect.Summary
import Netdiag.Correlate.NetIds
import Netdiag.Daemon.Idle
import Netdiag.App.Mixing
import Netdiag.App.SocketsView
import Netdiag.Platform.StartDaemon
import Netdiag.Daemon.Listener
import Netdiag.Platform.Watcher
import Netdiag.Watch.Refine
import Netdiag.Diag.Refine
import Netdiag.Ipc.Delivery
import Netdiag.Lib.Sorted
import Netdiag.Collect.Routes
import Netdiag.App.RoutesView
import Netdiag.Lib.Keyed
import Netdiag.Lib.Mealy
import Netdiag.Collect.Interfaces
import Netdiag.Collect.Lookup
import Netdiag.Collect.Neighbors
import Netdiag.Diag.Collected
import Netdiag.Collect.Procnet
import Netdiag.Collect.Resolver
import Netdiag.Collect.FirewallState
import Netdiag.Daemon.Snapshot
import Netdiag.Watch.Monitor
import Netdiag.Watch.Mirror
import Netdiag.Diag.Focus
