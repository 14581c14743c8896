import ChannelRelay.Config.File
import ChannelRelay.Encoding.Domain
import ChannelRelay.Simulation.Session
import ChannelRelay.Simulation.Task
import ChannelRelay.Proofs.Handshake.Completion
import ChannelRelay.Proofs.HeaderSync
import ChannelRelay.Proofs.Handshake.Pinning
import ChannelRelay.Proofs.Handshake.Wiring
import ChannelRelay.Proofs.Handshake.Success
import ChannelRelay.Proofs.Steady
import ChannelRelay.Proofs.Handshake.Symmetry
import ChannelRelay.Proofs.Task
import ChannelRelay.Proofs.Stations
import ChannelRelay.Proofs.Strategy
import ChannelRelay.Proofs.Start
import ChannelRelay.Proofs.Delivery
import ChannelRelay.Proofs.Digits
import ChannelRelay.Proofs.Duration
import ChannelRelay.Proofs.Document.RoundTrip
import ChannelRelay.Proofs.Config.File
import ChannelRelay.Proofs.Sending
import ChannelRelay.Proofs.Transactions
import ChannelRelay.Proofs.Config.FailedStore
import ChannelRelay.Proofs.Height
import ChannelRelay.Proofs.CatchUp
import ChannelRelay.Proofs.Partition
import ChannelRelay.Proofs.ChainId
import ChannelRelay.Proofs.Handshake.Retries
import ChannelRelay.Proofs.Handshake.CachedHeaders
import ChannelRelay.Proofs.HeightText
import ChannelRelay.Proofs.HeightArithmetic
import ChannelRelay.Proofs.Identifier
import ChannelRelay.Proofs.Config.Overlay
import ChannelRelay.Proofs.Backoff
import ChannelRelay.Proofs.Encoding
import ChannelRelay.Proofs.Validation
