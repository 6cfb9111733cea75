import Pktauth.Lib.Run
import Pktauth.Lib.Sequence
import Pktauth.Lib.Word
import Pktauth.Lib.Quic
import Pktauth.Lib.Pipe
import Pktauth.Lib.Routine
import Pktauth.Lib.Ledger
import Pktauth.Lib.Reactor
import Pktauth.Lib.Caller
import Pktauth.Rust.Slice
import Pktauth.Rust.Byte
import Pktauth.Rust.Net
import Pktauth.Rust.Float
import Pktauth.Rust.Duration
import Pktauth.Auth.Token
import Pktauth.Auth.Verify
import Pktauth.Auth.Acceptance
import Pktauth.Auth.Collision
import Pktauth.Auth.Cause
import Pktauth.Auth.CidGenerator
import Pktauth.Auth.Binding
import Pktauth.Auth.Symbolic
import Pktauth.Socket.PacketSocket
import Pktauth.Socket.PollRecv
import Pktauth.Socket.RecvLoop
import Pktauth.Socket.Delivery
import Pktauth.Socket.RecvRun
import Pktauth.Socket.Transparency
import Pktauth.Socket.Flood
import Pktauth.Socket.OneCall
import Pktauth.Socket.Intake
import Pktauth.Socket.Snapshot
import Pktauth.Socket.PollSend
import Pktauth.Socket.SendLoop
import Pktauth.Socket.Segments
import Pktauth.Socket.SenderRun
import Pktauth.Socket.Shared
import Pktauth.Socket.Crossing
import Pktauth.Socket.Refinement
import Pktauth.Socket.Driver
import Pktauth.Socket.Senders
import Pktauth.Network.Setup
import Pktauth.Network.Honest
import Pktauth.Network.Attacker
import Pktauth.Network.Roaming
import Pktauth.Blaster.InitialTemplate
import Pktauth.Blaster.Blasted
import Pktauth.Blaster.Distinct
import Pktauth.Blaster.WellFormed
import Pktauth.Blaster.Worker
import Pktauth.Blaster.Campaign
import Pktauth.Blaster.Stop
import Pktauth.Blaster.Report
import Pktauth.Network.Goodput
import Pktauth.Client.Ping
import Pktauth.Echo.Payload
import Pktauth.Echo.Stream
import Pktauth.Echo.Exchange
import Pktauth.Echo.Link
import Pktauth.Echo.Progress
import Pktauth.Echo.Session
import Pktauth.Echo.Hostile
import Pktauth.Echo.Crowd
import Pktauth.Echo.Server
