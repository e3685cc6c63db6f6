import Reckon.Evaluate
import Reckon.Json.Reader
import Reckon.Main
import Reckon.Schema.Instr
import Reckon.Schema.Tree
import Reckon.Proofs.Compile
import Reckon.Proofs.Turns
import Reckon.Proofs.Execution
import Reckon.Proofs.Grammar
import Reckon.Proofs.Recognition
import Reckon.Proofs.Positions
import Reckon.Proofs.Frame
import Reckon.Proofs.Reading
import Reckon.Proofs.Account
import Reckon.Proofs.Sentences
import Reckon.Proofs.Numerals
import Reckon.Proofs.Format
import Reckon.Proofs.Lexemes
import Reckon.Proofs.Scanning
import Reckon.Proofs.Segmentation
import Reckon.Proofs.Rendering
import Reckon.Proofs.RoundTrip
import Reckon.Proofs.Embedding
import Reckon.Proofs.Overflow
import Reckon.Proofs.SourceRoundTrip
import Reckon.Proofs.Decoding
import Reckon.Proofs.Prefixes
import Reckon.Proofs.Diagnosis
import Reckon.Proofs.Nesting
import Reckon.Proofs.Context
import Reckon.Proofs.Evaluation
import Reckon.Proofs.Canonical
import Reckon.Proofs.Composition
import Reckon.Proofs.Spacing
import Reckon.Proofs.Conversation
import Reckon.Proofs.Inspection
import Reckon.Proofs.Encoding
import Reckon.Proofs.Configuration
import Reckon.Proofs.Validation
import Reckon.Proofs.Parentheses
import Reckon.Proofs.WholeNumbers
import Reckon.Proofs.Integers
import Reckon.Proofs.Folding
import Reckon.Proofs.Printing
import Reckon.Proofs.ExitCommand
import Reckon.Proofs.VersionLookup
import Reckon.Proofs.Listing
import Reckon.Proofs.Notation
import Reckon.Proofs.JsonRoundTrip
import Reckon.Proofs.Rebuilding
