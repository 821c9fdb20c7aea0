import Overlord.Data.Aged
import Overlord.Data.Blob
import Overlord.Data.FirstSeen
import Overlord.Data.FixedWindow
import Overlord.Data.Hex
import Overlord.Data.KeyOrder
import Overlord.Data.Keyed
import Overlord.Data.Paging
import Overlord.Data.Rounding
import Overlord.Data.SlidingWindow
import Overlord.Data.Tally
import Overlord.Data.Text
import Overlord.Data.Upsert
import Overlord.Emule.Agent.FoundSources
import Overlord.Emule.Agent.NetworkingConfig
import Overlord.Emule.Agent.NetworkingUpdate
import Overlord.Emule.Agent.P2pRuntime
import Overlord.Emule.Agent.PassiveReplay
import Overlord.Emule.Agent.SearchRegistry
import Overlord.Emule.Agent.SnoopFlush
import Overlord.Emule.FirewallRounds
import Overlord.Emule.KadFirewall
import Overlord.Emule.KadSearchExpr
import Overlord.Emule.KadStore
import Overlord.Emule.ResultTags
import Overlord.Emule.SearchPages
import Overlord.Emule.SearchResponses
import Overlord.Emule.ServedKeywords
import Overlord.Emule.Server.ActiveCallback
import Overlord.Emule.Server.Attribution
import Overlord.Emule.Server.Background
import Overlord.Emule.Server.Datagrams
import Overlord.Emule.Server.Results
import Overlord.Emule.Server.SearchExpr
import Overlord.Emule.Server.TagReaders
import Overlord.Emule.Server.Turns
import Overlord.Emule.SnoopQueue
import Overlord.Emule.SnoopReplay
import Overlord.Emule.StoreBounds
import Overlord.Emule.Tcp.Hello
import Overlord.Emule.Tcp.Obfuscation
import Overlord.Emule.Tcp.Packet
import Overlord.Emule.Tcp.Transport
import Overlord.Emule.Transfer.Crash
import Overlord.Emule.Transfer.Effects
import Overlord.Emule.Transfer.Filling
import Overlord.Emule.Transfer.Hashset
import Overlord.Emule.Transfer.HashsetAgreement
import Overlord.Emule.Transfer.Learning
import Overlord.Emule.Transfer.Manifest
import Overlord.Emule.Transfer.ManifestInvariant
import Overlord.Emule.Transfer.PendingWrites
import Overlord.Emule.Transfer.Store
import Overlord.Emule.Transfer.StoreInvariant
import Overlord.Emule.Transfer.VerifiedRanges
import Overlord.Emule.UploadQueue
import Overlord.Emule.UploadQueueInvariant
import Overlord.Kad.Dht.Convergence
import Overlord.Kad.Dht.Node
import Overlord.Kad.Dht.NodesDat
import Overlord.Kad.Dht.Publish
import Overlord.Kad.Dht.Sanitize
import Overlord.Kad.Dht.SearchPhase
import Overlord.Kad.Dht.SearchStream
import Overlord.Kad.Dht.SearchTypes
import Overlord.Kad.Dht.Traversal
import Overlord.Kad.Dht.WalkInvariant
import Overlord.Kad.Dht.Widening
import Overlord.Kad.Net.Obfuscation
import Overlord.Kad.Net.OutboundTracker
import Overlord.Kad.Net.PacketTracker
import Overlord.Kad.Net.RateLimit
import Overlord.Kad.Net.Receive
import Overlord.Kad.Net.ResponseGate
import Overlord.Kad.Net.Rpc
import Overlord.Kad.Proto.Constants
import Overlord.Kad.Proto.Decoded
import Overlord.Kad.Proto.FromStr
import Overlord.Kad.Proto.NodeId
import Overlord.Kad.Proto.Packet
import Overlord.Kad.Proto.RoundTrip
import Overlord.Kad.Proto.Tag
import Overlord.Kad.Routing.Bin
import Overlord.Kad.Routing.Closest
import Overlord.Kad.Routing.Reachable
import Overlord.Kad.Routing.Table
import Overlord.Kad.Routing.Zone
import Overlord.Machine.Calls
import Overlord.Machine.Outputs
import Overlord.Machine.Prog
import Overlord.Machine.Run
import Overlord.Nat.Manager
import Overlord.Nat.Miniupnpc
import Overlord.Net.Addr
import Overlord.Net.Scope
import Overlord.Wire.Agree
import Overlord.Wire.Framing
import Overlord.Wire.Get
import Overlord.Wire.KeyStream
import Overlord.Wire.Utf8
