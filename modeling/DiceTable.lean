import DiceTable.Command.Run
import DiceTable.Http.App
import DiceTable.Main
import DiceTable.Proofs.Memory.Retention
import DiceTable.Proofs.Rolling.ErrorFamily
import DiceTable.Proofs.Rolling.Requests
import DiceTable.Proofs.Service.Atomicity
import DiceTable.Proofs.Service.Lineage
import DiceTable.Proofs.Service.Reroll
import DiceTable.Settings.LogSetup
import DiceTable.Proofs.Breakdown.Notation
import DiceTable.Proofs.Breakdown.AuditTrail
import DiceTable.Proofs.Http.Origins
import DiceTable.Proofs.Http.Refinement
import DiceTable.Proofs.Http.Secrecy
import DiceTable.Proofs.Rolling.Faces
import DiceTable.Proofs.Breakdown.NormalForm
import DiceTable.Proofs.Json.RoundTrip
import DiceTable.Proofs.Service.Framing
import DiceTable.Proofs.Settings.Snapshot
import DiceTable.Proofs.Scoring.Target
import DiceTable.Proofs.Totals.Order
import DiceTable.Proofs.Totals.Range
import DiceTable.Proofs.Settings.Overlay
import DiceTable.Proofs.Service.Replay
import DiceTable.Proofs.Scoring.Variants
import DiceTable.Proofs.Rendering.PlainText
import DiceTable.Proofs.Settings.Placeholders
import DiceTable.Proofs.Settings.Defaults
import DiceTable.Proofs.Command.Agreement
import DiceTable.Proofs.Rolling.Fragments
import DiceTable.Proofs.Decimal.Exactness
import DiceTable.Proofs.Service.Address
import DiceTable.Proofs.Http.Reporting
import DiceTable.Proofs.Rolling.Composition
import DiceTable.Proofs.Scoring.Saturation
