import StringChain.Arena.Basic
import StringChain.Arena.Lemmas
import StringChain.Chain.Basic
import StringChain.Chain.Call
import StringChain.Chain.Cursor
import StringChain.Chain.Deletion
import StringChain.Chain.Event
import StringChain.Chain.Format
import StringChain.Chain.Insertion
import StringChain.Chain.Links
import StringChain.Chain.Lookup
import StringChain.Chain.Output
import StringChain.Chain.Query
import StringChain.Chain.Script
import StringChain.Demo
import StringChain.Log.Directive
import StringChain.Log.Filter
import StringChain.Log.Record
import StringChain.Log.Threshold
import StringChain.Main
import StringChain.Policy
import StringChain.Proofs.Cells
import StringChain.Proofs.Effects
import StringChain.Proofs.Extensional
import StringChain.Proofs.Failure
import StringChain.Proofs.FreeStack
import StringChain.Proofs.Intact
import StringChain.Proofs.Lifetime
import StringChain.Proofs.Listing
import StringChain.Proofs.Operations
import StringChain.Proofs.Rank
import StringChain.Proofs.Reachable
import StringChain.Proofs.Refinement
import StringChain.Proofs.Ring
import StringChain.Proofs.Visits
import StringChain.Proofs.Workspaces
import StringChain.Refusal
import StringChain.Text.Blank
import StringChain.Text.Bracketed
import StringChain.Text.CodePoints
import StringChain.Text.Hidden
import StringChain.Text.Letter
import StringChain.Text.Numeral
import StringChain.Text.Octets
import StringChain.Text.Pattern.Class
import StringChain.Text.Pattern.Escape
import StringChain.Text.Pattern.Nesting
import StringChain.Text.Pattern.Reading
import StringChain.Text.Quoted
import StringChain.Text.Structured
import StringChain.Text.Utf8
import StringChain.Version
import StringChain.Workspace
import StringChain.Proofs.Retirement
import StringChain.Proofs.Storage
import StringChain.Proofs.Walks
import StringChain.Proofs.Faultless
import StringChain.Proofs.Renaming
import StringChain.Proofs.Copies
import StringChain.Proofs.Invariants
import StringChain.Proofs.Capacity
import StringChain.Proofs.Grounds
import StringChain.Proofs.Chronicle
import StringChain.Proofs.Policies
import StringChain.Proofs.Replay
import StringChain.Proofs.ByteStrings
import StringChain.Proofs.Extension
import StringChain.Proofs.Reversal
import StringChain.Proofs.Commuting
import StringChain.Proofs.Search
import StringChain.Proofs.Equality
import StringChain.Proofs.Display
import StringChain.Proofs.Delivery
import StringChain.Proofs.Quotation
import StringChain.Proofs.Recycling
import StringChain.Proofs.Headroom
