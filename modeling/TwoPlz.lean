import TwoPlz.Lib.Slab
import TwoPlz.Lib.Threaded
import TwoPlz.Lib.Keeps
import TwoPlz.Lib.Checked
import TwoPlz.Lib.IndexMap
import TwoPlz.HeaderPlz
import TwoPlz.Frame
import TwoPlz.Message
import TwoPlz.Streams.FlowControl
import TwoPlz.Streams.State
import TwoPlz.Streams.Stream
import TwoPlz.Streams.Store
import TwoPlz.Streams.Inner
import TwoPlz.Streams.Send
import TwoPlz.Streams.Recv
import TwoPlz.Streams.Actions
import TwoPlz.Streams.Refs
import TwoPlz.Connection
import TwoPlz.Plain
import TwoPlz.Streams.Chains
import TwoPlz.Streams.Frames
import TwoPlz.Streams.Linking
import TwoPlz.Streams.Queues
import TwoPlz.Streams.Shape
import TwoPlz.Streams.Move
import TwoPlz.Streams.Assertions
import TwoPlz.Streams.Posted
import TwoPlz.Streams.Tidy
import TwoPlz.Streams.Lines
import TwoPlz.Streams.Onward
import TwoPlz.Streams.SendMoves
import TwoPlz.Streams.Serving
import TwoPlz.Streams.RecvMoves
import TwoPlz.Streams.ActionMoves
import TwoPlz.Streams.RefMoves
import TwoPlz.Streams.RecvFrames
import TwoPlz.ConnectionFrames
import TwoPlz.ConnectionMoves
import TwoPlz.Settled
import TwoPlz.AcceptOrder
import TwoPlz.SendAssertions
import TwoPlz.ReceiveWindow
import TwoPlz.ReceiveCredit
import TwoPlz.Settings
import TwoPlz.SettingsApplied
import TwoPlz.Poll
import TwoPlz.Pings
import TwoPlz.Answers
import TwoPlz.GoingAway
import TwoPlz.StreamIds
import TwoPlz.Lib.BigEndian
import TwoPlz.Codec.Wire
import TwoPlz.Codec.FramedWrite
import TwoPlz.Codec.BlockFrame
import TwoPlz.Codec.HpackBlocks
import TwoPlz.Codec.Delivery
import TwoPlz.Lib.Resumable
import TwoPlz.Hpack.Header
import TwoPlz.Hpack.Huffman
import TwoPlz.Hpack.Decoder
import TwoPlz.Hpack.Scan
import TwoPlz.Hpack.Safety
import TwoPlz.Hpack.Resume
import TwoPlz.Codec.FramedRead
import TwoPlz.Codec.RoundTrip
import TwoPlz.RequestGrammar
import TwoPlz.Hpack.HuffmanCodec
import TwoPlz.Hpack.StaticIndex
import TwoPlz.Hpack.Probing
import TwoPlz.Lib.Budget
import TwoPlz.Lib.Chained
import TwoPlz.Hpack.Evict
import TwoPlz.Hpack.Indexing
import TwoPlz.Hpack.TableCalls
import TwoPlz.Hpack.Lockstep
import TwoPlz.Hpack.HeaderBlocks
import TwoPlz.Hpack.Peers
import TwoPlz.Hpack.Integers
import TwoPlz.Hpack.Strings
import TwoPlz.Streams.Buffer
import TwoPlz.Streams.Measured
import TwoPlz.Lib.Returns
import TwoPlz.Streams.Progress
import TwoPlz.SendProgress
import TwoPlz.Streams.Iteration
import TwoPlz.Streams.Visitors
import TwoPlz.StoreIteration
import TwoPlz.Streams.Arrivals
import TwoPlz.ResponseGrammar
import TwoPlz.Streams.Receipts
import TwoPlz.Receiving
import TwoPlz.Streams.Bodies
import TwoPlz.Reassembly
import TwoPlz.Codec.HeaderFrames
import TwoPlz.Hpack.Stored
import TwoPlz.Codec.Forwarding
import TwoPlz.Codec.OverSize
import TwoPlz.Lifecycle
import TwoPlz.Isolation
import TwoPlz.Codec.EndToEnd
import TwoPlz.Codec.Reading
import TwoPlz.Codec.LengthDelimited
import TwoPlz.Preface
import TwoPlz.Handshake
