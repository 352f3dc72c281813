import PackOpening.Card.Data
import PackOpening.Card.Frame
import PackOpening.Chance.Script
import PackOpening.Chance.Twister
import PackOpening.Definition.Compile
import PackOpening.Json.Printer
import PackOpening.Json.Reader
import PackOpening.Log.Sink
import PackOpening.Pack.Builtin
import PackOpening.Pack.Custom
import PackOpening.Proofs.Pack.Repeats
import PackOpening.Proofs.Pool.Stock
import PackOpening.Proofs.Service.Openings
import PackOpening.Service.History
import PackOpening.Service.Announcement
import PackOpening.Service.Redirection
import PackOpening.Proofs.Pack.Size
import PackOpening.Proofs.Definition.Grammar
import PackOpening.Proofs.Definition.Accepted
import PackOpening.Proofs.Pack.Placement
import PackOpening.Proofs.Pack.Layout
import PackOpening.Proofs.Pack.Unseen
import PackOpening.Proofs.Chance.Reach
import PackOpening.Proofs.Definition.Faults
import PackOpening.Proofs.Pack.Openable
import PackOpening.Proofs.Pack.Reordering
import PackOpening.Proofs.PoolFile.Scanning
import PackOpening.Proofs.Service.Histories
import PackOpening.Proofs.Definition.Canonical
import PackOpening.Proofs.Service.Bracketing
import PackOpening.Proofs.Log.Routing
import PackOpening.Proofs.PoolFile.Exports
import PackOpening.Proofs.Pack.SharedDraw
import PackOpening.Proofs.Pack.Questions
import PackOpening.Proofs.Pack.Matching
import PackOpening.Proofs.Pack.Exhaustion
import PackOpening.Proofs.Pool.Partitioning
import PackOpening.Proofs.Pack.RareOrMythic
import PackOpening.Proofs.Pack.Weights
import PackOpening.Proofs.PoolFile.Acceptance
import PackOpening.Proofs.Definition.Edits
import PackOpening.Proofs.Service.Trying
import PackOpening.Proofs.Log.Lines
import PackOpening.Proofs.Policy.Selection
import PackOpening.Proofs.Log.Recording
import PackOpening.Proofs.Service.Echoing
