import ThermalPrint.CommandLine.Run
import ThermalPrint.Decimal.Layout
import ThermalPrint.Discovery.Candidate
import ThermalPrint.Discovery.Name
import ThermalPrint.Discovery.Search
import ThermalPrint.Environment.File
import ThermalPrint.Escpos.Encode
import ThermalPrint.Escpos.Interpreter
import ThermalPrint.Files
import ThermalPrint.Identifier
import ThermalPrint.Job
import ThermalPrint.Json.Decode
import ThermalPrint.Json.Tree
import ThermalPrint.Json.Value
import ThermalPrint.Main
import ThermalPrint.Network.Range
import ThermalPrint.Network.Scan
import ThermalPrint.Proofs.Registry.Delivery
import ThermalPrint.Receipt.Json
import ThermalPrint.Registry.History
import ThermalPrint.Registry.Interleaving
import ThermalPrint.Settings.Json
import ThermalPrint.Settings.Load
import ThermalPrint.Status
import ThermalPrint.Text.Blank
import ThermalPrint.Text.Lowercase
import ThermalPrint.Text.Quoted
import ThermalPrint.Toml.Block
import ThermalPrint.Toml.Table
import ThermalPrint.Toml.Token
import ThermalPrint.Transport.Kind
import ThermalPrint.Proofs.Escpos.Fragment
import ThermalPrint.Proofs.Escpos.Printout
import ThermalPrint.Proofs.Escpos.Unambiguous
import ThermalPrint.Proofs.Registry.Connected
import ThermalPrint.Proofs.Registry.Independence
import ThermalPrint.Proofs.Interleaving.Shared
import ThermalPrint.Proofs.Interleaving.Step
import ThermalPrint.Proofs.Interleaving.Balance
import ThermalPrint.Proofs.Interleaving.Consistent
import ThermalPrint.Proofs.Interleaving.Course
import ThermalPrint.Proofs.Interleaving.Exclusion
import ThermalPrint.Proofs.Interleaving.Pruning
import ThermalPrint.Proofs.Interleaving.Race
import ThermalPrint.Proofs.Receipt.Agreement
import ThermalPrint.Proofs.Receipt.RoundTrip
import ThermalPrint.Json.Member
import ThermalPrint.Proofs.Json.Record
import ThermalPrint.Receipt.Language
import ThermalPrint.Proofs.Json.Reads
import ThermalPrint.Proofs.Receipt.Language
import ThermalPrint.Proofs.CommandLine.Visit
import ThermalPrint.Proofs.CommandLine.AllOrNothing
import ThermalPrint.Proofs.Registry.Status
import ThermalPrint.Proofs.Text.Quad
import ThermalPrint.Proofs.Registry.Address
import ThermalPrint.Proofs.Registry.Routing
import ThermalPrint.Proofs.Escpos.Framing
import ThermalPrint.Proofs.Json.Source
import ThermalPrint.Proofs.Json.Ahead
import ThermalPrint.Proofs.Receipt.Spellings
import ThermalPrint.Proofs.Json.Rearranged
import ThermalPrint.Proofs.Receipt.Rearranged
import ThermalPrint.Proofs.Json.Lexing
import ThermalPrint.Proofs.Json.WellFormed
import ThermalPrint.Proofs.Json.Thorough
import ThermalPrint.Proofs.Receipt.WellFormed
import ThermalPrint.Proofs.Text.Octet
import ThermalPrint.Proofs.Network.Range
import ThermalPrint.Proofs.Network.Address
import ThermalPrint.Proofs.Discovery.Network
import ThermalPrint.Proofs.Discovery.Search
import ThermalPrint.Proofs.Discovery.Name
import ThermalPrint.Proofs.Identifier.Length
import ThermalPrint.Proofs.Json.Integer
import ThermalPrint.Proofs.Receipt.Size
import ThermalPrint.Proofs.Json.Gap
import ThermalPrint.Proofs.Receipt.Price
import ThermalPrint.Proofs.Transport.Life
import ThermalPrint.Proofs.Identifier.Reading
import ThermalPrint.Proofs.Discovery.Candidate
import ThermalPrint.Proofs.Json.Given
import ThermalPrint.Proofs.Settings.Usable
import ThermalPrint.Proofs.Settings.Overrides
import ThermalPrint.Proofs.Registry.Alter
import ThermalPrint.Proofs.Interleaving.Mirror
import ThermalPrint.Proofs.Interleaving.Onward
import ThermalPrint.Proofs.Interleaving.Alone
