import TagBinding.Admission
import TagBinding.Datum
import TagBinding.Datum.Comparison
import TagBinding.Declaration
import TagBinding.Diagnostic
import TagBinding.Handler
import TagBinding.Mark
import TagBinding.Plan
import TagBinding.Plan.Assembly
import TagBinding.Plan.Replay
import TagBinding.Plan.Views
import TagBinding.Release
import TagBinding.Resolver
import TagBinding.Schedule
import TagBinding.Session
import TagBinding.SortedSet
import TagBinding.Terminal.Color
import TagBinding.Terminal.Escape
import TagBinding.Text.Characters
import TagBinding.Text.Identifier
import TagBinding.Text.Quoted
import TagBinding.Trace
import TagBinding.Variable
import TagBinding.Variable.Loose
import TagBinding.Proofs.History
import TagBinding.Proofs.Memo
import TagBinding.Proofs.Transparency
import TagBinding.Proofs.Retention
import TagBinding.Proofs.Admission
import TagBinding.Proofs.Plan.Settled
import TagBinding.Proofs.Trace
import TagBinding.Proofs.Plan.Replay
import TagBinding.Proofs.Plan.Environment
import TagBinding.Proofs.Plan.DeclaredFirst
import TagBinding.Proofs.Session
import TagBinding.Proofs.Ruling
import TagBinding.Proofs.Plan.Static
import TagBinding.Proofs.Plan.Names
import TagBinding.Proofs.Arrangement
import TagBinding.Proofs.Plan.Succession
import TagBinding.Proofs.Place
import TagBinding.Proofs.Plan.Shared
import TagBinding.Proofs.Coloring
import TagBinding.Proofs.Plan.Reach
import TagBinding.Proofs.Plan.Deferral
import TagBinding.Proofs.Declaration
import TagBinding.Proofs.Declaration.Spelled
import TagBinding.Proofs.Declaration.Faults
import TagBinding.Proofs.Declaration.Relevance
import TagBinding.Proofs.Text.Unbroken
import TagBinding.Proofs.Variable.Field
import TagBinding.Proofs.Defect
import TagBinding.Proofs.Diagnostic
import TagBinding.Proofs.Recognition
import TagBinding.Proofs.Terminal.Sequence
import TagBinding.Proofs.Lifecycle
