import AspectWeaving.Advice.Basic
import AspectWeaving.Advice.Index
import AspectWeaving.Annotations.Basic
import AspectWeaving.Annotations.Catalog
import AspectWeaving.Annotations.Decorations
import AspectWeaving.Annotations.Reference
import AspectWeaving.Aspect.Basic
import AspectWeaving.Aspect.Registry
import AspectWeaving.Class.Basic
import AspectWeaving.Class.Blueprint
import AspectWeaving.Class.Hierarchy
import AspectWeaving.Class.Table
import AspectWeaving.Class.Woven
import AspectWeaving.Command
import AspectWeaving.Config
import AspectWeaving.Decimal.Binary64
import AspectWeaving.Decimal.Scaling
import AspectWeaving.Decimal.Shortest
import AspectWeaving.Dictionary
import AspectWeaving.Distinct
import AspectWeaving.Element.Forest
import AspectWeaving.Element.Kind
import AspectWeaving.Element.Location
import AspectWeaving.Element.Resolution
import AspectWeaving.Element.Target
import AspectWeaving.Engine.Basic
import AspectWeaving.Engine.Building
import AspectWeaving.Engine.Layers
import AspectWeaving.Engine.Objects
import AspectWeaving.Engine.Perform
import AspectWeaving.Engine.Plans
import AspectWeaving.Environment
import AspectWeaving.Error
import AspectWeaving.Host
import AspectWeaving.Identity
import AspectWeaving.Invocation
import AspectWeaving.Joinpoint
import AspectWeaving.Json.Basic
import AspectWeaving.Json.Printer
import AspectWeaving.Json.Reader
import AspectWeaving.NamedArena
import AspectWeaving.Plan.Basic
import AspectWeaving.Plan.Memo
import AspectWeaving.Pointcut.Basic
import AspectWeaving.Pointcut.Expression
import AspectWeaving.Pointcut.Glob
import AspectWeaving.Pointcut.Parser
import AspectWeaving.Precedence
import AspectWeaving.Program
import AspectWeaving.Proofs.Advice.Index
import AspectWeaving.Proofs.Annotations.Declaring
import AspectWeaving.Proofs.Annotations.Indexes
import AspectWeaving.Proofs.Annotations.Language
import AspectWeaving.Proofs.Annotations.Registered
import AspectWeaving.Proofs.Annotations.Visibility
import AspectWeaving.Proofs.Aspect.Acceptance
import AspectWeaving.Proofs.Aspect.Chronicle
import AspectWeaving.Proofs.Aspect.History
import AspectWeaving.Proofs.Aspect.Identifiers
import AspectWeaving.Proofs.Aspect.Numbers
import AspectWeaving.Proofs.Aspect.Registration
import AspectWeaving.Proofs.Aspect.Roster
import AspectWeaving.Proofs.Class.Ancestry
import AspectWeaving.Proofs.Class.Members
import AspectWeaving.Proofs.Class.Registration
import AspectWeaving.Proofs.Class.Undoing
import AspectWeaving.Proofs.Element.Coherence
import AspectWeaving.Proofs.Element.Identity
import AspectWeaving.Proofs.Element.Kinds
import AspectWeaving.Proofs.Element.Links
import AspectWeaving.Proofs.Element.Lookup
import AspectWeaving.Proofs.Element.References
import AspectWeaving.Proofs.Element.Success
import AspectWeaving.Proofs.Engine.Afterwards
import AspectWeaving.Proofs.Engine.Compiling
import AspectWeaving.Proofs.Engine.Confinement
import AspectWeaving.Proofs.Engine.Contracts
import AspectWeaving.Proofs.Engine.Fatality
import AspectWeaving.Proofs.Engine.Fitting
import AspectWeaving.Proofs.Engine.Handling
import AspectWeaving.Proofs.Engine.Layering
import AspectWeaving.Proofs.Engine.Linking
import AspectWeaving.Proofs.Engine.Managing
import AspectWeaving.Proofs.Engine.Observers
import AspectWeaving.Proofs.Engine.Persistence
import AspectWeaving.Proofs.Engine.Progress
import AspectWeaving.Proofs.Engine.Rejection
import AspectWeaving.Proofs.Engine.Restoring
import AspectWeaving.Proofs.Engine.Serving
import AspectWeaving.Proofs.Engine.Weaving
import AspectWeaving.Proofs.NamedArena.Calls
import AspectWeaving.Proofs.NamedArena.FiniteMap
import AspectWeaving.Proofs.NamedArena.Indexed
import AspectWeaving.Proofs.Plan.Freshness
import AspectWeaving.Proofs.Plan.Listing
import AspectWeaving.Proofs.Plan.Order
import AspectWeaving.Proofs.Plan.Scan
import AspectWeaving.Proofs.Plan.Sources
import AspectWeaving.Proofs.Pointcut.Canonical
import AspectWeaving.Proofs.Pointcut.Grammar
import AspectWeaving.Reflection
import AspectWeaving.Report.Elements
import AspectWeaving.Report.Failures
import AspectWeaving.Report.Weaving
import AspectWeaving.Script.Basic
import AspectWeaving.Script.Bodies
import AspectWeaving.Script.Evaluation
import AspectWeaving.Script.Frame
import AspectWeaving.Script.Reader
import AspectWeaving.Script.Session
import AspectWeaving.Symbol
import AspectWeaving.Text.Alphanumeric
import AspectWeaving.Text.Blank
import AspectWeaving.Text.Printable
import AspectWeaving.Text.Quoted
import AspectWeaving.Text.Ranges
import AspectWeaving.Value
import AspectWeaving.Weaver
import AspectWeaving.Word
import AspectWeaving.World
