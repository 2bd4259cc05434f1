import GameGateway.Main
import GameGateway.Proofs.StateAction
import GameGateway.Proofs.Stream.Feed
import GameGateway.Proofs.Wire.FrameGrammar
import GameGateway.Proofs.Wire.FrameWriting
import GameGateway.Proofs.Stream.PacketReader
import GameGateway.Proofs.Stream.PacketDelivery
import GameGateway.Proofs.Wire.BigEndian
import GameGateway.Proofs.Session.TunnelCopy
import GameGateway.Proofs.Routing.BackendConnection
import GameGateway.Proofs.Routing.LoginForwarding
import GameGateway.Proofs.Routing.Dispatch
import GameGateway.Proofs.Stream.Alike
import GameGateway.Proofs.Session.Alike
import GameGateway.Proofs.Routing.Segmentation
import GameGateway.Proofs.Stream.PacketSequence
import GameGateway.Proofs.Routing.VerbatimForwarding
import GameGateway.Proofs.Session.PlayerCache
import GameGateway.Proofs.Session.TunnelInterleaving
import GameGateway.Proofs.Routing.PlayerCalls
import GameGateway.Proofs.Contract
import GameGateway.Proofs.Stream.Trace
import GameGateway.Proofs.Session.Trace
import GameGateway.Proofs.Routing.NoRetry
import GameGateway.Proofs.Service.Accounts
import GameGateway.Proofs.Routing.RegistryRuns
import GameGateway.Proofs.Routing.StatusExchange
import GameGateway.Proofs.Wire.FrameDecoding
import GameGateway.Proofs.Session.TunnelDirection
import GameGateway.Proofs.Wire.TextGrammar
import GameGateway.Proofs.Routing.StatusFetching
import GameGateway.Proofs.Service.EarlyEnds
import GameGateway.Proofs.Wire.HandshakeGrammar
import GameGateway.Proofs.Stream.HandshakeRoundTrip
import GameGateway.Proofs.Stream.OversizedFrames
import GameGateway.Proofs.Routing.BackendLookup
import GameGateway.Proofs.Service.RouteGrammar
import GameGateway.Proofs.Service.ConfiguredRouting
import GameGateway.Proofs.Stream.PacketWriting
import GameGateway.Proofs.Net.HeaderReading
import GameGateway.Proofs.Wire.PrimitiveSequences
import GameGateway.Proofs.Wire.PrimitiveConsumption
import GameGateway.Proofs.Verdict
import GameGateway.Proofs.Wire.MessageGrammar
import GameGateway.Proofs.Service.SettingsVerdict
import GameGateway.Proofs.Service.Startup
