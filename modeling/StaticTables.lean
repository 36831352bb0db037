import StaticTables.Json.Exchange
import StaticTables.Session.Run
import StaticTables.Proofs.Key.TotalOrder
import StaticTables.Proofs.Key.TextOrder
import StaticTables.Proofs.Index.Scan
import StaticTables.Proofs.Link.Construction
import StaticTables.Proofs.Link.Validity
import StaticTables.Proofs.Table.Grouping
import StaticTables.Proofs.Hierarchy.Forest
import StaticTables.Proofs.Hierarchy.Spread
import StaticTables.Proofs.Hierarchy.Agreement
import StaticTables.Proofs.Link.Inverse
import StaticTables.Proofs.Link.Bijection
import StaticTables.Proofs.Link.Multiplicity
import StaticTables.Proofs.Link.VariantConstruction
import StaticTables.Proofs.Link.VariantClasses
import StaticTables.Proofs.Naming.Labelling
import StaticTables.Proofs.Query.Interface
import StaticTables.Proofs.Query.Linked
import StaticTables.Proofs.Query.Hierarchy
import StaticTables.Proofs.Query.Variant
import StaticTables.Proofs.Query.Settings
import StaticTables.Proofs.Index.WriteOnce
import StaticTables.Proofs.Index.Reading
import StaticTables.Proofs.Query.Navigation
import StaticTables.Proofs.Index.StableSort
import StaticTables.Proofs.Key.FloatOrder
import StaticTables.Proofs.Query.HandedOut
import StaticTables.Proofs.Query.Tables
import StaticTables.Proofs.Session.Agreement
import StaticTables.Proofs.Session.Answering
import StaticTables.Proofs.Session.Defining
import StaticTables.Proofs.Session.Trace
import StaticTables.Proofs.Link.Refusal
import StaticTables.Proofs.Hierarchy.Refusal
import StaticTables.Proofs.Hierarchy.Lineage
import StaticTables.Proofs.Hierarchy.Trees
import StaticTables.Proofs.Hierarchy.Preorder
import StaticTables.Proofs.Table.Cursor
import StaticTables.Proofs.Hierarchy.Descendants
import StaticTables.Proofs.Hierarchy.DepthFirst
import StaticTables.Proofs.Link.Trust
import StaticTables.Proofs.Link.Pairing
import StaticTables.Proofs.Link.Place
import StaticTables.Proofs.Link.Announcement
import StaticTables.Proofs.Naming.Correlation
import StaticTables.Proofs.Index.Optional
import StaticTables.Proofs.Index.TextPrefix
import StaticTables.Proofs.Index.Slices
import StaticTables.Proofs.Json.Literals
import StaticTables.Proofs.Json.Reading
import StaticTables.Proofs.Json.Records
