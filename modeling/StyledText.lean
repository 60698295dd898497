import StyledText.Configuration
import StyledText.Proofs.Command.RecordGrammar
import StyledText.Proofs.RecordBuffer.Bounds
import StyledText.Proofs.Registry.Interning
import StyledText.Proofs.Registry.NameTable
import StyledText.Proofs.Registry.SourceObjects
import StyledText.Proofs.Stream.Atomic
import StyledText.Proofs.Stream.Cleared
import StyledText.Proofs.Stream.ForeignMark
import StyledText.Proofs.Stream.Landing
import StyledText.Proofs.Stream.LengthPatch
import StyledText.Proofs.Stream.LineChain
import StyledText.Proofs.Stream.NextLine
import StyledText.Proofs.Stream.OwnIndices
import StyledText.Proofs.Stream.RandomAccess
import StyledText.Proofs.Stream.Resolvable
import StyledText.Proofs.Stream.StaleMark
import StyledText.Proofs.Stylesheet.BaseType
import StyledText.Proofs.Stylesheet.Duration
import StyledText.Proofs.Stylesheet.Faithful
import StyledText.Proofs.Stylesheet.Interleaving
import StyledText.Proofs.Stylesheet.Qualifiers
import StyledText.Proofs.Stylesheet.Rejected
import StyledText.Proofs.Stylesheet.SelectorText
import StyledText.Proofs.Stylesheet.Transitions
import StyledText.Proofs.Syntax.Spans
import StyledText.Proofs.Text.Slices
import StyledText.Stream.Operation
import StyledText.Stylesheet.Compile
import StyledText.Syntax.Builder
import StyledText.Text.Quoted
