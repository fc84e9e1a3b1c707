import ConstantRecovery.Code.Draft
import ConstantRecovery.Proofs.Code.Positions
import ConstantRecovery.Proofs.Machine.Control
import ConstantRecovery.Proofs.Machine.Relocation
import ConstantRecovery.Recovery
import ConstantRecovery.Proofs.Flow.Joining
import ConstantRecovery.Proofs.Flow.Reaching
import ConstantRecovery.Proofs.Flow.Blocks
import ConstantRecovery.Proofs.Flow.Elimination
import ConstantRecovery.Proofs.Patch.Exactness
import ConstantRecovery.Proofs.Blob
import ConstantRecovery.Proofs.Getter.Keys
import ConstantRecovery.Proofs.Patch.RoundTrip
import ConstantRecovery.Proofs.Patch.Landing
import ConstantRecovery.Proofs.Patch.Stranding
import ConstantRecovery.Proofs.Flow.Segments
import ConstantRecovery.Proofs.Flow.SegmentBlocks
import ConstantRecovery.Proofs.Getter.Skeleton
import ConstantRecovery.Proofs.Machine.Deeds
import ConstantRecovery.Proofs.Getter.Mixing
import ConstantRecovery.Proofs.Machine.Execution
import ConstantRecovery.Proofs.Getter.Plan
import ConstantRecovery.Proofs.Getter.Dispatch
import ConstantRecovery.Proofs.Getter.Reader
import ConstantRecovery.Proofs.Flow.Edges
import ConstantRecovery.Proofs.Getter.Topology
import ConstantRecovery.Proofs.Getter.Stubs
import ConstantRecovery.Proofs.Flow.Cutting
import ConstantRecovery.Proofs.Flow.Rearranging
import ConstantRecovery.Proofs.Machine.Mirroring
import ConstantRecovery.Proofs.Getter.Reduction
import ConstantRecovery.Proofs.Getter.Rearrangement
import ConstantRecovery.Proofs.Flow.Relayout
import ConstantRecovery.Proofs.Flow.Nops
import ConstantRecovery.Proofs.Machine.Halting
import ConstantRecovery.Proofs.Machine.Underneath
import ConstantRecovery.Proofs.Patch.SideBySide
import ConstantRecovery.Proofs.Interning
import ConstantRecovery.Proofs.Patch.Bounds
import ConstantRecovery.Proofs.Patch.Folding
import ConstantRecovery.Proofs.Flow.Graph
import ConstantRecovery.Proofs.Patch.Renumbering
import ConstantRecovery.Proofs.Patch.Forwarding
import ConstantRecovery.Proofs.Flow.Pruning
import ConstantRecovery.Proofs.Flow.Dangling
import ConstantRecovery.Proofs.Flow.Passing
import ConstantRecovery.Proofs.Flow.DeadCode
import ConstantRecovery.Proofs.Flow.Wrapping
import ConstantRecovery.Proofs.Code.Renumbered
import ConstantRecovery.Proofs.Getter.Rejection
import ConstantRecovery.Proofs.Machine.Words
import ConstantRecovery.Proofs.Machine.Forward
import ConstantRecovery.Proofs.Machine.Frames
import ConstantRecovery.Proofs.Machine.Forms
import ConstantRecovery.Proofs.Machine.States
import ConstantRecovery.Proofs.Getter.SideEffects
import ConstantRecovery.Proofs.Flow.Renaming
import ConstantRecovery.Proofs.Getter.Outlines
import ConstantRecovery.Proofs.Text.Entries
import ConstantRecovery.Proofs.Code.Drafts
import ConstantRecovery.Proofs.Code.Wrapping
