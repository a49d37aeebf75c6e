import ClauseBinding.Binding.Session
import ClauseBinding.Evaluation.Rows
import ClauseBinding.Interchange.Catalogs
import ClauseBinding.Interchange.Clauses
import ClauseBinding.Proofs.Absence.Rows
import ClauseBinding.Proofs.Binding.Dependence
import ClauseBinding.Proofs.Binding.Growth
import ClauseBinding.Proofs.Binding.Overload
import ClauseBinding.Proofs.Calendar.Day
import ClauseBinding.Proofs.Calendar.Instant
import ClauseBinding.Proofs.Data.TotalOrder
import ClauseBinding.Proofs.Evaluation.Conversion
import ClauseBinding.Proofs.Evaluation.WholeNumbers
import ClauseBinding.Proofs.Interchange.RoundTrip
import ClauseBinding.Proofs.Laws.Comparison
import ClauseBinding.Proofs.Laws.Counting
import ClauseBinding.Proofs.Laws.Flags
import ClauseBinding.Proofs.Laws.Naming
import ClauseBinding.Proofs.Laws.Negation
import ClauseBinding.Proofs.Meaning.Agreement
import ClauseBinding.Proofs.Order.Completion
import ClauseBinding.Proofs.Order.Limit
import ClauseBinding.Proofs.Order.Stages
import ClauseBinding.Proofs.Order.Unordered
import ClauseBinding.Proofs.Renaming.Filter
import ClauseBinding.Proofs.Rows.Conjunction
import ClauseBinding.Proofs.Schema.Conversion
import ClauseBinding.Proofs.Schema.Registry
import ClauseBinding.Proofs.Scope.Evaluation
import ClauseBinding.Proofs.Scope.Filter
import ClauseBinding.Proofs.Session.Discipline
import ClauseBinding.Proofs.Text.Positions
import ClauseBinding.Proofs.Typing.Clause
import ClauseBinding.Schema.Registry

/-!
Contract: filter and order clauses over typed records, and their theory.

Owns:
- clauses, the catalogs they speak of, and their forms in the interchange formats;
- binding, which types a clause and guards it against absent values, and the evaluation of
  what it is bound to on records in a row;
- under `Proofs`, what clauses mean and that bound clauses compute it, soundness and typing,
  the laws of operators, scopes and renaming, rows and their order, and stored forms.

Does not own: the programs that hand clauses over.
-/
