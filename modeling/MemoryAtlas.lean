import MemoryAtlas.Document.Yaml
import MemoryAtlas.Query.Grammar
import MemoryAtlas.Query.Printer
import MemoryAtlas.Search.Reach
import MemoryAtlas.Session
import MemoryAtlas.Proofs.Atlas.Definitions
import MemoryAtlas.Proofs.Atlas.Descriptions
import MemoryAtlas.Proofs.Atlas.Faults
import MemoryAtlas.Proofs.Atlas.Reading
import MemoryAtlas.Proofs.Atlas.Regions
import MemoryAtlas.Proofs.Atlas.Sorting
import MemoryAtlas.Proofs.Browser.Bisection
import MemoryAtlas.Proofs.Browser.Contents
import MemoryAtlas.Proofs.Browser.Failure
import MemoryAtlas.Proofs.Browser.History
import MemoryAtlas.Proofs.Browser.Notices
import MemoryAtlas.Proofs.Browser.Pages
import MemoryAtlas.Proofs.Browser.Rejection
import MemoryAtlas.Proofs.Browser.Visits
import MemoryAtlas.Proofs.Declarator
import MemoryAtlas.Proofs.Layout
import MemoryAtlas.Proofs.Numeral.Conversion
import MemoryAtlas.Proofs.Numeral.Hex
import MemoryAtlas.Proofs.Numeral.Shape
import MemoryAtlas.Proofs.Numeral.Spelling
import MemoryAtlas.Proofs.Pattern.Folding
import MemoryAtlas.Proofs.Query.Joining
import MemoryAtlas.Proofs.Query.Printing
import MemoryAtlas.Proofs.Query.Reading
import MemoryAtlas.Proofs.Query.Scanning
import MemoryAtlas.Proofs.Query.States
import MemoryAtlas.Proofs.Record
import MemoryAtlas.Proofs.References
import MemoryAtlas.Proofs.Search.Comparison
import MemoryAtlas.Proofs.Search.Conjunction
import MemoryAtlas.Proofs.Search.Coverage
import MemoryAtlas.Proofs.Search.Exclusion
import MemoryAtlas.Proofs.Search.Narrowing
import MemoryAtlas.Proofs.Search.Options
import MemoryAtlas.Proofs.Search.Quotation
import MemoryAtlas.Proofs.Search.Reach
import MemoryAtlas.Proofs.Search.Window
import MemoryAtlas.Proofs.Settings
import MemoryAtlas.Proofs.Text.Blank
import MemoryAtlas.Proofs.Text.Case
import MemoryAtlas.Proofs.Text.Runs
import MemoryAtlas.Proofs.TypeDecl
import MemoryAtlas.Proofs.View.Addresses
import MemoryAtlas.Proofs.View.Cells
import MemoryAtlas.Proofs.View.Extents
import MemoryAtlas.Proofs.View.Lengths
import MemoryAtlas.Proofs.View.Paths
import MemoryAtlas.Proofs.View.Preference
import MemoryAtlas.Proofs.View.Rows
import MemoryAtlas.Proofs.View.TypeText
