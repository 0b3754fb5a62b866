import WordRecords.Assembly
import WordRecords.Command.Journal
import WordRecords.Document.Json
import WordRecords.Document.Violation
import WordRecords.Journal
import WordRecords.Json.Parse
import WordRecords.Json.Render
import WordRecords.Json.Shape
import WordRecords.Labels
import WordRecords.Main
import WordRecords.Proofs.Converter
import WordRecords.Proofs.Spacy.Grouping
import WordRecords.Proofs.Stanza.Governors
import WordRecords.Proofs.Text.Fields
import WordRecords.Settings
import WordRecords.Stanza.Sentence
import WordRecords.Text.Blank
import WordRecords.Text.Digits
import WordRecords.Text.Fields
import WordRecords.Text.Hexadecimal
import WordRecords.Text.LowerCase
import WordRecords.Text.Quoted
import WordRecords.Text.Slice
import WordRecords.Proofs.Spacy.Governors
import WordRecords.Proofs.Text.Slice
import WordRecords.Proofs.Agreement
import WordRecords.Proofs.Stanza.Grammar
import WordRecords.Proofs.Command.Files
import WordRecords.Proofs.Command.Outcome
import WordRecords.Proofs.Json.Escape
import WordRecords.Proofs.Json.Number
import WordRecords.Proofs.Json.RoundTrip
import WordRecords.Proofs.Json.Shape
import WordRecords.Proofs.Document.Json
import WordRecords.Proofs.SurfaceUnit.Offset
import WordRecords.Proofs.Stanza.Alike
import WordRecords.Proofs.Stanza.Entry
import WordRecords.Proofs.Stanza.Legacy
import WordRecords.Proofs.Document.Schema
import WordRecords.Proofs.Command.Chains
import WordRecords.Proofs.Stanza.Concatenation
import WordRecords.Proofs.Stanza.Positions
import WordRecords.Proofs.Assembly.Records
import WordRecords.Proofs.Spacy.Segmentation
import WordRecords.Proofs.Spacy.Placement
import WordRecords.Proofs.Stanza.Ranges
import WordRecords.Proofs.Stanza.Units
import WordRecords.Proofs.Spacy.Units
import WordRecords.Proofs.Assembly.SplitLemmas
import WordRecords.Proofs.Assembly.Violations
import WordRecords.Proofs.Document.Migration
import WordRecords.Proofs.Document.Locality
import WordRecords.Proofs.Spacy.Shifts
import WordRecords.Proofs.Json.Grammar
import WordRecords.Proofs.Json.Accepted
import WordRecords.Proofs.Json.Fields
import WordRecords.Proofs.Json.Unbroken
import WordRecords.Proofs.Json.Sound
import WordRecords.Proofs.Json.Rewriting
import WordRecords.Proofs.Document.Reading
import WordRecords.Proofs.Pipeline.Rewriting
import WordRecords.Proofs.Text.Blank
import WordRecords.Proofs.Converter.Building
import WordRecords.Proofs.Command.Precedence
import WordRecords.Proofs.Labels
