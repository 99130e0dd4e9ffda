import TreeSpec.Resolver
import TreeSpec.Settings.Load
import TreeSpec.Token.OfText
import TreeSpec.Text.CapitalTable
import TreeSpec.Text.CasedTable
import TreeSpec.Text.ExtenderTable
import TreeSpec.Text.UnprintableTable
import TreeSpec.Proofs.Grammar
import TreeSpec.Proofs.Pattern
import TreeSpec.Proofs.Parsing
import TreeSpec.Proofs.Positions
import TreeSpec.Proofs.Selection
import TreeSpec.Proofs.Rendering
import TreeSpec.Proofs.Json.Strings
import TreeSpec.Proofs.Json.Reading
import TreeSpec.Proofs.Json.RoundTrip
import TreeSpec.Proofs.Token.Streaming
import TreeSpec.Proofs.Token.RoundTrip
import TreeSpec.Proofs.Outcomes
import TreeSpec.Proofs.Token.Elements
import TreeSpec.Proofs.Token.Agreement
import TreeSpec.Proofs.Settings.Knobs
import TreeSpec.Proofs.Settings.Precedence
import TreeSpec.Proofs.Stepping
import TreeSpec.Proofs.ByteOrder
import TreeSpec.Proofs.KnownNames
import TreeSpec.Proofs.Canonical
import TreeSpec.Proofs.Token.Given
import TreeSpec.Proofs.Token.Shapes
import TreeSpec.Proofs.Reselection
import TreeSpec.Proofs.Partition
import TreeSpec.Proofs.Independence
import TreeSpec.Proofs.Settings.Faults
import TreeSpec.Proofs.Appending
import TreeSpec.Proofs.OneWide
import TreeSpec.Proofs.Machine
import TreeSpec.Proofs.Token.Depth
