import WSocks.Relay
import WSocks.Affinity
import WSocks.EarlyData
import WSocks.Shared
import WSocks.Launcher
import WSocks.Manager
import WSocks.Service
import WSocks.Inflation
import WSocks.Keys
import WSocks.Negotiation
import WSocks.Refusal
import WSocks.Gateway
import WSocks.AnswerTypes
import WSocks.Leaks
import WSocks.Reconnection
import WSocks.Deletion
import WSocks.Descriptors
import WSocks.Assets
import WSocks.Redirection
import WSocks.Labels
import WSocks.Factory
import WSocks.MainSwitch
import WSocks.Compression
import WSocks.TcpFlow
import WSocks.SocksRelay
import WSocks.PacketProto
import WSocks.PacketStream
