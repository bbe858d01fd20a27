import Listfile.Attempt
import Listfile.CommandLine
import Listfile.Descriptor.Configurations
import Listfile.Descriptor.Discovery
import Listfile.Descriptor.Fields
import Listfile.Descriptor.Libraries
import Listfile.Descriptor.Links
import Listfile.Descriptor.Outputs
import Listfile.Descriptor.Problem
import Listfile.Descriptor.Reasons
import Listfile.Descriptor.Resolution
import Listfile.Descriptor.SearchPlaces
import Listfile.Descriptor.Tags
import Listfile.Disk
import Listfile.FileTree.Basic
import Listfile.FileTree.Edit
import Listfile.FileTree.Lookup
import Listfile.FileTree.Walk
import Listfile.Generation
import Listfile.Json.Basic
import Listfile.Json.Parser
import Listfile.Json.Parser.Number
import Listfile.Json.Parser.Reading
import Listfile.Json.Parser.Text
import Listfile.Json.Printer
import Listfile.Json.SyntaxError
import Listfile.Log
import Listfile.Main
import Listfile.Number.Binary64
import Listfile.Number.Shortest
import Listfile.OrderedUnion
import Listfile.Path.Basic
import Listfile.Path.Bytes
import Listfile.Path.Components
import Listfile.Path.ScriptPath
import Listfile.Project.Basic
import Listfile.Project.Document
import Listfile.Project.LibraryFile
import Listfile.Project.Names
import Listfile.Proofs.Descriptor.Acceptance
import Listfile.Proofs.Descriptor.Agreement
import Listfile.Proofs.Descriptor.Blanks
import Listfile.Proofs.Descriptor.Clashes
import Listfile.Proofs.Descriptor.Configurations
import Listfile.Proofs.Descriptor.Defects
import Listfile.Proofs.Descriptor.Discovery
import Listfile.Proofs.Descriptor.EmptyBaseFiles
import Listfile.Proofs.Descriptor.Exactness
import Listfile.Proofs.Descriptor.Fields
import Listfile.Proofs.Descriptor.FirstProblem
import Listfile.Proofs.Descriptor.Libraries
import Listfile.Proofs.Descriptor.Links
import Listfile.Proofs.Descriptor.Outputs
import Listfile.Proofs.Descriptor.Overlaps
import Listfile.Proofs.Descriptor.Resolution
import Listfile.Proofs.Descriptor.Rules
import Listfile.Proofs.Descriptor.Schema
import Listfile.Proofs.Descriptor.SearchEntries
import Listfile.Proofs.Descriptor.Searches
import Listfile.Proofs.Descriptor.Spelling
import Listfile.Proofs.Descriptor.Turning
import Listfile.Proofs.FileTree.Backslashes
import Listfile.Proofs.FileTree.Creation
import Listfile.Proofs.FileTree.Descent
import Listfile.Proofs.FileTree.Edits
import Listfile.Proofs.FileTree.Entries
import Listfile.Proofs.FileTree.LinkFree
import Listfile.Proofs.FileTree.Lookup
import Listfile.Proofs.FileTree.Names
import Listfile.Proofs.FileTree.Places
import Listfile.Proofs.FileTree.Visits
import Listfile.Proofs.FileTree.Walk
import Listfile.Proofs.FileTree.WellFormed
import Listfile.Proofs.Generation.Atomicity
import Listfile.Proofs.Generation.Log
import Listfile.Proofs.Generation.Modes
import Listfile.Proofs.Generation.Repetition
import Listfile.Proofs.Json.DistinctKeys
import Listfile.Proofs.Json.ReadBack
import Listfile.Proofs.Json.Reads
import Listfile.Proofs.Lists
import Listfile.Proofs.OrderedUnion
import Listfile.Proofs.OrderedUnion.Laws
import Listfile.Proofs.Outcomes
import Listfile.Proofs.Path.Bytes
import Listfile.Proofs.Path.Canonical
import Listfile.Proofs.Path.Ends
import Listfile.Proofs.Path.Faithful
import Listfile.Proofs.Path.Segments
import Listfile.Proofs.Path.Separators
import Listfile.Proofs.Path.Spelling
import Listfile.Proofs.Path.Written
import Listfile.Proofs.Project.Augmentation
import Listfile.Proofs.Project.Document
import Listfile.Proofs.Project.EntryOrder
import Listfile.Proofs.Project.HeaderDirectories
import Listfile.Proofs.Project.Identifiers
import Listfile.Proofs.Project.LibraryFile
import Listfile.Proofs.Project.Names
import Listfile.Proofs.Project.Selection
import Listfile.Proofs.Project.SingleListing
import Listfile.Proofs.Project.Soundness
import Listfile.Proofs.Script.Argument
import Listfile.Proofs.Script.Configurations
import Listfile.Proofs.Script.Declarations
import Listfile.Proofs.Script.Delivery
import Listfile.Proofs.Script.FoundEntries
import Listfile.Proofs.Script.Lines
import Listfile.Proofs.Script.Lists
import Listfile.Proofs.Script.Locations
import Listfile.Proofs.Script.Quoting
import Listfile.Proofs.Script.References
import Listfile.Proofs.Script.Session
import Listfile.Proofs.Script.Statements
import Listfile.Proofs.Script.Turning
import Listfile.Proofs.Text.Case
import Listfile.Script.Argument
import Listfile.Script.Listing
import Listfile.Script.Part
import Listfile.Script.Sink
import Listfile.Text.Case
import Listfile.Text.CaseTables
