import Mailroom.Text.Blank
import Mailroom.Text.Digit
import Mailroom.Text.Word
import Mailroom.Text.Printable
import Mailroom.Text.Case
import Mailroom.Text.Search
import Mailroom.Text.Quoted
import Mailroom.Text.Numeral
import Mailroom.Text.Newline
import Mailroom.Text.Decimal
import Mailroom.Text.Utf8
import Mailroom.Assoc
import Mailroom.Text.Json.Basic
import Mailroom.Text.Json.Reader
import Mailroom.Text.Json.Printer
import Mailroom.Text.Csv
import Mailroom.Inbox
import Mailroom.Outbox
import Mailroom.Splitter
import Mailroom.Listing.Op
import Mailroom.Listing.Line
import Mailroom.Listing.Program
import Mailroom.Floor
import Mailroom.Machine.Basic
import Mailroom.Machine.Trace
import Mailroom.Source.Token
import Mailroom.Source.Syntax
import Mailroom.Source.Grammar
import Mailroom.Source.Check
import Mailroom.Source.Lowering
import Mailroom.Source.Peephole
import Mailroom.Source.Compile
import Mailroom.Source.Bundled
import Mailroom.Files
import Mailroom.FileTree
import Mailroom.Keyboard.Color
import Mailroom.Keyboard.LabelMap
import Mailroom.Keyboard.MapFile
import Mailroom.Keyboard.Memory
import Mailroom.Keyboard.Served
import Mailroom.Keyboard.Basic
import Mailroom.Keyboard.Panel
import Mailroom.Keyboard.Display
import Mailroom.Station
import Mailroom.Settings
import Mailroom.CommandLine.Arguments
import Mailroom.CommandLine.Run
import Mailroom.Main
import Mailroom.Proofs.ListingText
import Mailroom.Proofs.Places
import Mailroom.Proofs.Execution
import Mailroom.Proofs.Refinement
import Mailroom.Proofs.Passes
import Mailroom.Proofs.ShortenedRuns
import Mailroom.Proofs.Fragments
import Mailroom.Proofs.Meaning
import Mailroom.Proofs.Simulation
import Mailroom.Proofs.Expressions
import Mailroom.Proofs.Acceptance
import Mailroom.Proofs.Statements
import Mailroom.Proofs.Lines
import Mailroom.Proofs.Scopes
import Mailroom.Proofs.Correctness
import Mailroom.Proofs.Safety
import Mailroom.Proofs.DigitExploder
import Mailroom.Proofs.Passages
import Mailroom.Proofs.Idling
import Mailroom.Proofs.Declarations
import Mailroom.Proofs.Roles
import Mailroom.Proofs.ConstantTiles
import Mailroom.Proofs.Lowerable
import Mailroom.Proofs.KeptValues
import Mailroom.Proofs.Faults
import Mailroom.Proofs.Causality
import Mailroom.Proofs.Readers
import Mailroom.Proofs.Sessions
import Mailroom.Proofs.Descent
import Mailroom.Proofs.StatementDescent
import Mailroom.Proofs.Derivations
import Mailroom.Proofs.Chains
import Mailroom.Proofs.Recognition
import Mailroom.Proofs.Printing
import Mailroom.Proofs.CanonicalLines
import Mailroom.Proofs.Resemblance
import Mailroom.Proofs.SameListing
import Mailroom.Proofs.LargerFloors
import Mailroom.Proofs.Lights
import Mailroom.Proofs.ShownColors
import Mailroom.Proofs.Requests
import Mailroom.Proofs.Payloads
import Mailroom.Proofs.Indicators
import Mailroom.Proofs.StageKeys
import Mailroom.Proofs.Spelling
import Mailroom.Proofs.Lexemes
import Mailroom.Proofs.TokenPlaces
import Mailroom.Proofs.Respacing
import Mailroom.Proofs.Holding
import Mailroom.Proofs.Releases
import Mailroom.Proofs.Schedules
import Mailroom.Proofs.TextLayouts
import Mailroom.Proofs.InboxReadings
import Mailroom.Proofs.NormalListings
import Mailroom.Proofs.LastColors
import Mailroom.Proofs.LabelLights
import Mailroom.Proofs.JsonText
import Mailroom.Proofs.MapFiles
import Mailroom.Proofs.PrintedListings
import Mailroom.Proofs.RecordedLowering
import Mailroom.Proofs.TileDiscipline
import Mailroom.Proofs.LabelDiscipline
import Mailroom.Proofs.CursorWalk
import Mailroom.Proofs.Progress
