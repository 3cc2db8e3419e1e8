import RelayMesh.Addressing.Allocation
import RelayMesh.Addressing.Form
import RelayMesh.Addressing.Plan
import RelayMesh.Addressing.Space
import RelayMesh.Binary64
import RelayMesh.Binary64.Arithmetic
import RelayMesh.Calendar
import RelayMesh.CommandLine.Analyze
import RelayMesh.CommandLine.Arguments
import RelayMesh.CommandLine.Compile
import RelayMesh.CommandLine.Record
import RelayMesh.CommandLine.Tool
import RelayMesh.Configuration
import RelayMesh.Configuration.Form
import RelayMesh.Configuration.Setting
import RelayMesh.Decimal.Reading
import RelayMesh.Decimal.Shortest
import RelayMesh.Decimal.Style
import RelayMesh.Delay
import RelayMesh.Document
import RelayMesh.Document.Form
import RelayMesh.Document.Printer
import RelayMesh.Document.Reader
import RelayMesh.Draft
import RelayMesh.Draft.QuotedText
import RelayMesh.Draft.Reader
import RelayMesh.Files.Expansion
import RelayMesh.Files.Path
import RelayMesh.Files.Pattern
import RelayMesh.Files.System
import RelayMesh.Files.Tree
import RelayMesh.InWords
import RelayMesh.Launch.Form
import RelayMesh.Launch.Plan
import RelayMesh.Launch.Process
import RelayMesh.Launch.Simulation
import RelayMesh.Launch.Startup
import RelayMesh.Main
import RelayMesh.Measurement.BaselineStore
import RelayMesh.Measurement.Form
import RelayMesh.Measurement.Reading
import RelayMesh.Measurement.Report
import RelayMesh.Measurement.Statistics
import RelayMesh.Measurement.Trace
import RelayMesh.Network.Address
import RelayMesh.Network.Range
import RelayMesh.NetworkPlan
import RelayMesh.NetworkPlan.Form
import RelayMesh.Proofs.Addressing.Allocation
import RelayMesh.Proofs.Addressing.Builder
import RelayMesh.Proofs.Addressing.Capacity
import RelayMesh.Proofs.Addressing.ClosedForm
import RelayMesh.Proofs.Addressing.Completeness
import RelayMesh.Proofs.Addressing.ExactCapacity
import RelayMesh.Proofs.Addressing.Exhaustion
import RelayMesh.Proofs.Addressing.Form
import RelayMesh.Proofs.Addressing.HostBits
import RelayMesh.Proofs.Addressing.Interfaces
import RelayMesh.Proofs.Addressing.Overlap
import RelayMesh.Proofs.Addressing.Ownership
import RelayMesh.Proofs.Addressing.Roster
import RelayMesh.Proofs.Addressing.Separation
import RelayMesh.Proofs.Binary64.Rounding
import RelayMesh.Proofs.Calendar
import RelayMesh.Proofs.Checked
import RelayMesh.Proofs.CommandLine.RecentLogs
import RelayMesh.Proofs.Configuration.Records
import RelayMesh.Proofs.Configuration.Removal
import RelayMesh.Proofs.Configuration.Settings
import RelayMesh.Proofs.Configuration.Written
import RelayMesh.Proofs.Decimal.Interval
import RelayMesh.Proofs.Decimal.Numeral
import RelayMesh.Proofs.Decimal.Plain
import RelayMesh.Proofs.Decimal.Shortest
import RelayMesh.Proofs.Decimal.Written
import RelayMesh.Proofs.Delay.Form
import RelayMesh.Proofs.Delay.Orientation
import RelayMesh.Proofs.Delay.Overrides
import RelayMesh.Proofs.Delay.Precedence
import RelayMesh.Proofs.Delay.Rules
import RelayMesh.Proofs.Delay.Values
import RelayMesh.Proofs.Delay.Visits
import RelayMesh.Proofs.Document.Form
import RelayMesh.Proofs.Document.Numbers
import RelayMesh.Proofs.Document.Reading
import RelayMesh.Proofs.Document.Text
import RelayMesh.Proofs.Draft.Document
import RelayMesh.Proofs.Draft.QuotedText
import RelayMesh.Proofs.Draft.Reading
import RelayMesh.Proofs.Files.Expansion
import RelayMesh.Proofs.Files.Literal
import RelayMesh.Proofs.Files.Path
import RelayMesh.Proofs.Files.Recent
import RelayMesh.Proofs.Files.Tree
import RelayMesh.Proofs.Files.View
import RelayMesh.Proofs.Keyed
import RelayMesh.Proofs.Launch.Form
import RelayMesh.Proofs.Launch.History
import RelayMesh.Proofs.Launch.Stages
import RelayMesh.Proofs.Launch.Startup
import RelayMesh.Proofs.Launch.Timing
import RelayMesh.Proofs.Measurement.BaselineStore
import RelayMesh.Proofs.Measurement.Clock
import RelayMesh.Proofs.Measurement.Exact
import RelayMesh.Proofs.Measurement.Interpolation
import RelayMesh.Proofs.Measurement.LatestBaseline
import RelayMesh.Proofs.Measurement.Locality
import RelayMesh.Proofs.Measurement.Marker
import RelayMesh.Proofs.Measurement.ProbeDelta
import RelayMesh.Proofs.Measurement.Ranks
import RelayMesh.Proofs.Measurement.Report
import RelayMesh.Proofs.Measurement.Sample
import RelayMesh.Proofs.Measurement.Summary
import RelayMesh.Proofs.Measurement.TraceBaseline
import RelayMesh.Proofs.Measurement.TraceLine
import RelayMesh.Proofs.Network.Enumeration
import RelayMesh.Proofs.Network.Form
import RelayMesh.Proofs.Network.Range
import RelayMesh.Proofs.NetworkPlan.Announcements
import RelayMesh.Proofs.NetworkPlan.EdgeOrder
import RelayMesh.Proofs.NetworkPlan.Faults
import RelayMesh.Proofs.NetworkPlan.Form
import RelayMesh.Proofs.NetworkPlan.Links
import RelayMesh.Proofs.NetworkPlan.NextHops
import RelayMesh.Proofs.NetworkPlan.Nodes
import RelayMesh.Proofs.NetworkPlan.Processes
import RelayMesh.Proofs.NetworkPlan.Refinement
import RelayMesh.Proofs.NetworkPlan.Shaping
import RelayMesh.Proofs.NetworkPlan.Stages
import RelayMesh.Proofs.NetworkPlan.Text
import RelayMesh.Proofs.NetworkPlan.Visits
import RelayMesh.Proofs.NetworkPlan.Wiring
import RelayMesh.Proofs.Routing.Components
import RelayMesh.Proofs.Routing.Connectivity
import RelayMesh.Proofs.Routing.Coverage
import RelayMesh.Proofs.Routing.Declared
import RelayMesh.Proofs.Routing.Distance
import RelayMesh.Proofs.Routing.Forwarding
import RelayMesh.Proofs.Routing.Routes
import RelayMesh.Proofs.SortedMap
import RelayMesh.Proofs.SortedMap.Form
import RelayMesh.Proofs.Text.ByteLines
import RelayMesh.Proofs.Text.Lines
import RelayMesh.Proofs.Text.Natural
import RelayMesh.Proofs.Text.Search
import RelayMesh.Proofs.Text.Utf8
import RelayMesh.Proofs.Topology.Acceptance
import RelayMesh.Proofs.Topology.Checks
import RelayMesh.Proofs.Topology.Documents
import RelayMesh.Proofs.Topology.Duplicates
import RelayMesh.Proofs.Topology.FirstEdges
import RelayMesh.Proofs.Topology.Form
import RelayMesh.Proofs.Topology.GeneratedNames
import RelayMesh.Proofs.Topology.Kinds
import RelayMesh.Proofs.Topology.Loading
import RelayMesh.Proofs.Topology.Names
import RelayMesh.Proofs.Topology.Nodes
import RelayMesh.Proofs.Topology.Pairs
import RelayMesh.Proofs.Topology.Spellings
import RelayMesh.Proofs.Topology.Tracks
import RelayMesh.Proofs.Topology.WellFormed
import RelayMesh.Routing.Hops
import RelayMesh.Routing.Mesh
import RelayMesh.Routing.Routes
import RelayMesh.SortedMap
import RelayMesh.Text.Basic
import RelayMesh.Text.Classes
import RelayMesh.Text.Utf8
import RelayMesh.Text.VisibleTable
import RelayMesh.Text.WordTable
import RelayMesh.Topology
import RelayMesh.Topology.Error
import RelayMesh.Topology.Form
import RelayMesh.Topology.Loader
