import Wiring.Derive.Meaning
import Wiring.Injection.Registry
import Wiring.Injection.Run
import Wiring.Lineage.Printer
import Wiring.Match.Cache
import Wiring.Proofs.Derive.Acceptance
import Wiring.Proofs.Derive.Bindable
import Wiring.Proofs.Derive.Callee
import Wiring.Proofs.Derive.Expansion
import Wiring.Proofs.Derive.Faults
import Wiring.Proofs.Derive.Mirror
import Wiring.Proofs.Derive.Options
import Wiring.Proofs.Derive.Token
import Wiring.Proofs.Derive.WrittenType
import Wiring.Proofs.First
import Wiring.Proofs.Injection.Attempts
import Wiring.Proofs.Injection.Calls
import Wiring.Proofs.Injection.Constant
import Wiring.Proofs.Injection.Isolation
import Wiring.Proofs.Injection.Ledger
import Wiring.Proofs.Injection.Locality
import Wiring.Proofs.Injection.Log
import Wiring.Proofs.Injection.Outcomes
import Wiring.Proofs.Injection.ParentPart
import Wiring.Proofs.Injection.ParentReport
import Wiring.Proofs.Injection.Repetition
import Wiring.Proofs.Lineage.Descent
import Wiring.Proofs.Lineage.Levels
import Wiring.Proofs.Marker.Folding
import Wiring.Proofs.Marker.Spelling
import Wiring.Proofs.Match.Ancestors
import Wiring.Proofs.Match.Cache
import Wiring.Proofs.Match.Narrowing
import Wiring.Proofs.Match.Scan
import Wiring.Proofs.Match.Walk
import Wiring.Proofs.Member.Rule
import Wiring.Proofs.Name.Canonical
import Wiring.Proofs.Name.Choice
import Wiring.Proofs.Name.Claimants
import Wiring.Proofs.Name.Clash
import Wiring.Proofs.Name.Grammar
import Wiring.Proofs.Name.Resolution
import Wiring.Proofs.Object.Accessor
import Wiring.Proofs.Object.Foothold
import Wiring.Proofs.Object.Gain
import Wiring.Proofs.Object.Reach
import Wiring.Proofs.Object.Slot
import Wiring.Proofs.Plan.Distinct
import Wiring.Proofs.Plan.Inert
import Wiring.Proofs.Plan.Parent
import Wiring.Proofs.Plan.Result
import Wiring.Proofs.Plan.Selection
import Wiring.Proofs.Plan.Split
import Wiring.Proofs.Plan.Verdict
import Wiring.Proofs.Plan.View
import Wiring.Proofs.Registry.Contents
import Wiring.Proofs.Sample
import Wiring.Proofs.Text.Lowercase
