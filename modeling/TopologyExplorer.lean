import TopologyExplorer.Database.Basic
import TopologyExplorer.Database.File
import TopologyExplorer.Database.Join
import TopologyExplorer.Database.Name
import TopologyExplorer.Database.Query
import TopologyExplorer.Database.Relations
import TopologyExplorer.Database.Tables
import TopologyExplorer.Descriptor.Aliases
import TopologyExplorer.Descriptor.Fault
import TopologyExplorer.Descriptor.Placements
import TopologyExplorer.Descriptor.Processes
import TopologyExplorer.File.Location
import TopologyExplorer.File.Path
import TopologyExplorer.File.Tree
import TopologyExplorer.Journal
import TopologyExplorer.Main
import TopologyExplorer.Number.Binary
import TopologyExplorer.Pager
import TopologyExplorer.Proofs.Database.AnyProcess
import TopologyExplorer.Proofs.Database.Batches
import TopologyExplorer.Proofs.Database.Filters
import TopologyExplorer.Proofs.Database.HostIds
import TopologyExplorer.Proofs.Database.InsertOrder
import TopologyExplorer.Proofs.Database.Inserts
import TopologyExplorer.Proofs.Database.Join
import TopologyExplorer.Proofs.Database.Keys
import TopologyExplorer.Proofs.Database.Opening
import TopologyExplorer.Proofs.Database.RowOrder
import TopologyExplorer.Proofs.Database.Run
import TopologyExplorer.Proofs.Descriptor.Distinct
import TopologyExplorer.Proofs.Descriptor.Faults
import TopologyExplorer.Proofs.File.Lookup
import TopologyExplorer.Proofs.Pager.Offset
import TopologyExplorer.Proofs.Query.Numerals
import TopologyExplorer.Proofs.Query.QueryText
import TopologyExplorer.Proofs.Session.Coherence
import TopologyExplorer.Proofs.Session.Contents
import TopologyExplorer.Proofs.Session.Escapes
import TopologyExplorer.Proofs.Session.History
import TopologyExplorer.Proofs.Session.Lists
import TopologyExplorer.Proofs.Session.Replies
import TopologyExplorer.Proofs.Session.Run
import TopologyExplorer.Proofs.Session.ShownList
import TopologyExplorer.Proofs.Session.Transition
import TopologyExplorer.Proofs.Session.Window
import TopologyExplorer.Proofs.Startup.Cleanup
import TopologyExplorer.Proofs.Startup.Leftover
import TopologyExplorer.Proofs.Startup.Workspace
import TopologyExplorer.Proofs.Text.Separators
import TopologyExplorer.Proofs.Topology.HostIdentity
import TopologyExplorer.Proofs.Topology.PlacedRows
import TopologyExplorer.Proofs.Topology.PlainFiles
import TopologyExplorer.Proofs.Topology.Stages
import TopologyExplorer.Query.AddressPattern
import TopologyExplorer.Query.Keyword
import TopologyExplorer.Query.Line
import TopologyExplorer.Query.Literal
import TopologyExplorer.Record.Basic
import TopologyExplorer.Screen
import TopologyExplorer.Selection.Basic
import TopologyExplorer.Selection.Expression
import TopologyExplorer.Selection.Reader
import TopologyExplorer.Selection.Relation
import TopologyExplorer.Selection.Token
import TopologyExplorer.Session.Basic
import TopologyExplorer.Session.Keys
import TopologyExplorer.Session.RecordList
import TopologyExplorer.Startup.Arguments
import TopologyExplorer.Startup.Launch
import TopologyExplorer.Startup.Options
import TopologyExplorer.Startup.Workspace
import TopologyExplorer.Text.DecimalText
import TopologyExplorer.Text.IntegerText
import TopologyExplorer.Text.LineBreak
import TopologyExplorer.Text.Printable
import TopologyExplorer.Text.Utf8
import TopologyExplorer.Topology
import TopologyExplorer.Xml.Character
import TopologyExplorer.Xml.Doctype
import TopologyExplorer.Xml.Document
import TopologyExplorer.Xml.Element
import TopologyExplorer.Xml.Encoding
import TopologyExplorer.Xml.Markup
import TopologyExplorer.Xml.Namespace
import TopologyExplorer.Proofs.Pager.Pages
import TopologyExplorer.Proofs.Query.Padding
import TopologyExplorer.Proofs.Topology.StageTables
import TopologyExplorer.Proofs.Descriptor.ProcessGroups
import TopologyExplorer.Proofs.Descriptor.ProcessDefinitions
import TopologyExplorer.Proofs.Descriptor.CountedProcesses
import TopologyExplorer.Proofs.Descriptor.PlacedGroups
import TopologyExplorer.Proofs.Database.HostRows
import TopologyExplorer.Proofs.Session.ListedHosts
import TopologyExplorer.Proofs.Query.SplitLine
import TopologyExplorer.Proofs.Text.Utf8
import TopologyExplorer.Proofs.Text.LineEnds
import TopologyExplorer.Proofs.Pager.WrittenLines
import TopologyExplorer.Proofs.Query.Keyword
import TopologyExplorer.Proofs.Session.Selection
import TopologyExplorer.Proofs.Descriptor.HostAliases
import TopologyExplorer.Proofs.Xml.Encodings
