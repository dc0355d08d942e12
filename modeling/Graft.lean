import Graft.Main
import Graft.Regex.Cache
import Graft.Store.Memory
import Graft.Proofs.FileTree
import Graft.Proofs.Plan
import Graft.Proofs.Chain
import Graft.Proofs.Edit
import Graft.Proofs.Effects
import Graft.Proofs.Patch
import Graft.Proofs.DryRun
import Graft.Proofs.Memory
import Graft.Proofs.Abort
import Graft.Proofs.Confinement
import Graft.Proofs.Compile
import Graft.Proofs.Regex
import Graft.Proofs.Lines
import Graft.Proofs.Scope
import Graft.Proofs.Cache
import Graft.Proofs.Nesting
import Graft.Proofs.Block
import Graft.Proofs.Pieces
import Graft.Proofs.Summary
import Graft.Proofs.Insertion
import Graft.Proofs.Mode
import Graft.Proofs.Splice
import Graft.Proofs.Bounds
import Graft.Proofs.Rewrite
import Graft.Proofs.Window
import Graft.Proofs.Marker
import Graft.Proofs.Partition
import Graft.Proofs.LineEndings
import Graft.Proofs.EmptyMatch
import Graft.Proofs.Bytes
import Graft.Proofs.Literal
import Graft.Proofs.Template
import Graft.Proofs.Undo
import Graft.Proofs.Capture
import Graft.Proofs.Interior
import Graft.Proofs.Lexer
import Graft.Proofs.Issues
