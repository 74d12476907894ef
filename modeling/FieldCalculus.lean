import FieldCalculus.Console.Reply
import FieldCalculus.Web.Server
import FieldCalculus.Json.Printer
import FieldCalculus.Settings
import FieldCalculus.Registry.Lemmas
import FieldCalculus.Main
import FieldCalculus.Proofs.Registry.Commit
import FieldCalculus.Proofs.Run.Atomicity
import FieldCalculus.Proofs.Exact
import FieldCalculus.Proofs.Exact.Rational
import FieldCalculus.Proofs.Exact.Angle
import FieldCalculus.Proofs.Exchange.Chain
import FieldCalculus.Proofs.Exchange.Transfer
import FieldCalculus.Proofs.Registry.Sum
import FieldCalculus.Proofs.Exchange.Conservation
import FieldCalculus.Proofs.Grammar.Numbers
import FieldCalculus.Proofs.Run.SecondLaw
import FieldCalculus.Proofs.Grammar.Tails
import FieldCalculus.Proofs.Grammar.RuleOrder
import FieldCalculus.Proofs.Run.Concatenation
import FieldCalculus.Proofs.Operation.Independence
import FieldCalculus.Proofs.Operation.Applied
import FieldCalculus.Proofs.Run.Calls
import FieldCalculus.Proofs.Run.WellFormed
import FieldCalculus.Proofs.Run.Capacity
import FieldCalculus.Proofs.Binary64.Grid
import FieldCalculus.Proofs.Binary64.Rounding
import FieldCalculus.Proofs.Binary64.Value
import FieldCalculus.Proofs.Binary64.Arithmetic
import FieldCalculus.Proofs.Binary64.Signs
import FieldCalculus.Proofs.Exchange.Imbalance
import FieldCalculus.Proofs.Exchange.Tolerance
import FieldCalculus.Proofs.Operation.Names
import FieldCalculus.Proofs.Operation.Evolution
import FieldCalculus.Proofs.Run.Attributes
import FieldCalculus.Proofs.Exact.Extended
import FieldCalculus.Proofs.Exchange.Quarantine
import FieldCalculus.Proofs.Operation.Rulings
import FieldCalculus.Proofs.Operation.Reports
import FieldCalculus.Proofs.Grammar.FieldNames
import FieldCalculus.Proofs.Binary64.Notation
import FieldCalculus.Proofs.Run.UsableNames
import FieldCalculus.Proofs.Console.Requests
import FieldCalculus.Proofs.Console.Sessions
import FieldCalculus.Proofs.Binary64.WholeNumbers
import FieldCalculus.Proofs.Operation.Aging
import FieldCalculus.Proofs.Run.Ages
import FieldCalculus.Proofs.Journal.Recent
import FieldCalculus.Proofs.Journal.Retention
import FieldCalculus.Proofs.Operation.Benefit
import FieldCalculus.Proofs.Exchange.Drift
import FieldCalculus.Proofs.Operation.Amplification
import FieldCalculus.Proofs.Split.Parts
import FieldCalculus.Proofs.Split.Growth
import FieldCalculus.Proofs.Phase.Routes
import FieldCalculus.Proofs.Operation.Symmetry
import FieldCalculus.Proofs.Exchange.Extremes
import FieldCalculus.Proofs.Exchange.RepeatedFlow
import FieldCalculus.Proofs.Operation.Harvest
import FieldCalculus.Proofs.Run.Repeated
import FieldCalculus.Proofs.State.Report
import FieldCalculus.Proofs.Binary64.Remainder
import FieldCalculus.Proofs.Settings
import FieldCalculus.Proofs.Text.NormalForm
import FieldCalculus.Proofs.Exact.Combination
import FieldCalculus.Proofs.Split.SpawnNames
import FieldCalculus.Proofs.Run.Scenarios
import FieldCalculus.Proofs.Grammar.Matching
import FieldCalculus.Proofs.Grammar.Recognition
