import PacketSession.Protocol.Endpoints
import PacketSession.Simulation.Streams
import PacketSession.Wire.Field
import PacketSession.Sample.Packets
import PacketSession.Scenario.Data
import PacketSession.Scenario.Plan
import PacketSession.Proofs.Packet.Channels
import PacketSession.Proofs.Session.Announcing
import PacketSession.Proofs.Session.MessageLimit
import PacketSession.Proofs.Session.SendOutcome
import PacketSession.Proofs.Conversation.Closing
import PacketSession.Proofs.Packet.Tables
import PacketSession.Proofs.Packet.Frames
import PacketSession.Proofs.Session.Typing
import PacketSession.Proofs.Session.Batching
import PacketSession.Proofs.Connection.Framing
import PacketSession.Proofs.Session.FrameSize
import PacketSession.Proofs.Session.Driving
import PacketSession.Proofs.Session.Contiguity
import PacketSession.Proofs.Session.Inertness
import PacketSession.Proofs.Session.Emission
import PacketSession.Proofs.Session.Compressing
import PacketSession.Proofs.Packet.BatchForm
import PacketSession.Proofs.Packet.ChunkForm
import PacketSession.Proofs.Wire.Fields
import PacketSession.Proofs.Wire.Spelling
import PacketSession.Proofs.Compression.Bounds
import PacketSession.Proofs.Session.Forms
import PacketSession.Proofs.Script.Asking
import PacketSession.Proofs.Session.ReplyTable
import PacketSession.Proofs.Session.ReplyOutcomes
import PacketSession.Proofs.Connection.Interleaving
import PacketSession.Proofs.Connection.WriterOrder
import PacketSession.Proofs.Connection.SendHandles
import PacketSession.Proofs.Listener.Mirroring
import PacketSession.Proofs.Packet.Refusal
import PacketSession.Proofs.Wire.Places
import PacketSession.Proofs.Connection.PairOrder
import PacketSession.Proofs.Session.Nesting
