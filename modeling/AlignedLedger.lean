import AlignedLedger.Call.Session
import AlignedLedger.Descriptor.Cursor
import AlignedLedger.Interface
import AlignedLedger.Main
import AlignedLedger.Proofs.Alignment.Segments
import AlignedLedger.Proofs.Board.Fields
import AlignedLedger.Proofs.Board.History
import AlignedLedger.Proofs.Board.Replay
import AlignedLedger.Proofs.Board.Slots
import AlignedLedger.Proofs.Call.Replay
import AlignedLedger.Proofs.Cbor.RoundTrip
import AlignedLedger.Proofs.Descriptor.RoundTrip
import AlignedLedger.Proofs.Machine.Replay
import AlignedLedger.Proofs.Machine.Unmetered
import AlignedLedger.Proofs.Tree.Entries
import AlignedLedger.Proofs.Tree.RoundTrip
import AlignedLedger.Tree.Persistence
import AlignedLedger.Proofs.Machine.Frame
import AlignedLedger.Proofs.Tree.Container
import AlignedLedger.Proofs.Tree.Paths
import AlignedLedger.Proofs.Machine.NestedUpdate
import AlignedLedger.Proofs.Board.Lookup
import AlignedLedger.Proofs.Board.Changes
import AlignedLedger.Proofs.Agreement
import AlignedLedger.Proofs.Board.Specification
import AlignedLedger.Proofs.Tree.Swapped
import AlignedLedger.Proofs.Machine.Agreement
import AlignedLedger.Proofs.Call.Agreement
import AlignedLedger.Proofs.Board.Secrecy
import AlignedLedger.Proofs.Datum.Coerce
import AlignedLedger.Proofs.CommandLine.Corrupt
import AlignedLedger.Proofs.Call.Atomicity
import AlignedLedger.Proofs.Tree.Layout
import AlignedLedger.Proofs.Machine.Course
import AlignedLedger.Proofs.Machine.Safety
import AlignedLedger.Proofs.Tree.WellFormed
import AlignedLedger.Proofs.Machine.WellFormed
import AlignedLedger.Proofs.Transcript
import AlignedLedger.Proofs.Tree.MapHistory
import AlignedLedger.Proofs.CommandLine.Files
import AlignedLedger.Proofs.Markup.Plain
import AlignedLedger.Proofs.Tree.StoredLength
import AlignedLedger.Proofs.Board.Stored
import AlignedLedger.Proofs.CommandLine.Refinement
import AlignedLedger.Proofs.Machine.CutOff
import AlignedLedger.Proofs.Board.CutOff
import AlignedLedger.Proofs.Descriptor.Placeholder
import AlignedLedger.Proofs.Descriptor.Reencoding
import AlignedLedger.Proofs.Descriptor.Refusal
import AlignedLedger.Proofs.Descriptor.Misreading
import AlignedLedger.Proofs.Transcript.Layout
import AlignedLedger.Proofs.Machine.Sequence
import AlignedLedger.Proofs.Tree.Visits
import AlignedLedger.Proofs.Machine.Execution
import AlignedLedger.Proofs.Machine.Walks
import AlignedLedger.Proofs.Call.Sequence
import AlignedLedger.Proofs.Machine.Splitting
import AlignedLedger.Proofs.Machine.StackKeys
import AlignedLedger.Proofs.Machine.Accounting
import AlignedLedger.Proofs.Call.Spending
import AlignedLedger.Proofs.Board.Spending
import AlignedLedger.Proofs.Board.Retrieval
import AlignedLedger.Proofs.Descriptor.BinaryLayout
import AlignedLedger.Proofs.Descriptor.Unambiguous
import AlignedLedger.Proofs.Descriptor.Skipping
import AlignedLedger.Proofs.Descriptor.Normalizing
import AlignedLedger.Proofs.Tree.Laws
import AlignedLedger.Proofs.Machine.Addition
import AlignedLedger.Proofs.Machine.Caps
import AlignedLedger.Proofs.Machine.Flags
import AlignedLedger.Proofs.Tree.Storage
import AlignedLedger.Proofs.Call.Storage
import AlignedLedger.Proofs.Call.Recording
import AlignedLedger.Proofs.Bytes.Leb128
import AlignedLedger.Proofs.Bytes.Numbers
import AlignedLedger.Proofs.Descriptor.Width
