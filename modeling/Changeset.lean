import Changeset.Engine
import Changeset.CommandLine.Page
import Changeset.CommandLine.Report
import Changeset.CommandLine.Run
import Changeset.Main
import Changeset.Proofs.LineDiff
import Changeset.Proofs.LineDiff.Kept
import Changeset.Proofs.LineDiff.Order
import Changeset.Proofs.LineDiff.Lines
import Changeset.Proofs.Patch.ReadBack
import Changeset.Proofs.Patch.Regrouping
import Changeset.Proofs.Patch.Merged
import Changeset.Proofs.Patch.Written
import Changeset.Proofs.Patch.Kept
import Changeset.Proofs.Patch.Overlong
import Changeset.Proofs.Patch.Joined
import Changeset.Proofs.Patch.Undivided
import Changeset.Proofs.Patch.Unheaded
import Changeset.Proofs.Patch.Overlooked
import Changeset.Proofs.Patch.Ties
import Changeset.Proofs.Patch.Counts
import Changeset.Proofs.Patch.Numbers
import Changeset.Proofs.Splitting
import Changeset.Proofs.Source.Located
import Changeset.Proofs.Source.Declarations
import Changeset.Proofs.Source.Errors
import Changeset.Proofs.Symbol.Replay
import Changeset.Proofs.Comparing
import Changeset.Proofs.Moving
import Changeset.Proofs.Exporting
import Changeset.Proofs.Dispatch
import Changeset.Proofs.Settings.Loading
import Changeset.Proofs.Settings.Normal
import Changeset.Proofs.CommandLine.Verbosity
