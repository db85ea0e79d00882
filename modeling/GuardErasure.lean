import GuardErasure.Expr.Outline
import GuardErasure.Query.Compose
import GuardErasure.Samples
import GuardErasure.Stored.Expr
import GuardErasure.Proofs.Eval.Fits
import GuardErasure.Proofs.Guard.Chain
import GuardErasure.Proofs.Guard.Complete
import GuardErasure.Proofs.Guard.DroppedChecks
import GuardErasure.Proofs.Guard.Residue
import GuardErasure.Proofs.Guard.StandIn
import GuardErasure.Proofs.Query.ListProgram
import GuardErasure.Proofs.Query.Terminals
import GuardErasure.Proofs.Rules.Fixpoint
import GuardErasure.Proofs.Stored.RoundTrip
import GuardErasure.Proofs.Guard.Companions
import GuardErasure.Proofs.Expr.Identity
import GuardErasure.Proofs.Guard.Rebuilt
import GuardErasure.Proofs.Guard.Visitor
import GuardErasure.Proofs.Guard.Bases
import GuardErasure.Proofs.Guard.Congruence
import GuardErasure.Proofs.Rules.Routes
import GuardErasure.Proofs.Guard.HandedOn
import GuardErasure.Proofs.Rules.Interchange
import GuardErasure.Proofs.Rules.Budget
import GuardErasure.Proofs.Rules.Recorded
import GuardErasure.Proofs.Rules.Typed
import GuardErasure.Proofs.Query.Summaries
import GuardErasure.Proofs.Eval.Integers
import GuardErasure.Proofs.Eval.Comparisons
import GuardErasure.Proofs.Query.Polling
import GuardErasure.Proofs.Query.Draining
import GuardErasure.Proofs.Eval.Bindings
import GuardErasure.Proofs.Expr.Drawing
import GuardErasure.Proofs.Expr.Substituted
