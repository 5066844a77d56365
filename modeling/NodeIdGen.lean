import NodeIdGen.Diagnostic.Codec
import NodeIdGen.Main
import NodeIdGen.Proofs.Cli.Batch
import NodeIdGen.Proofs.Cli.Check
import NodeIdGen.Proofs.Generate.Parses
import NodeIdGen.Proofs.Generate.ReadBack
import NodeIdGen.Proofs.Schema.Identity
import NodeIdGen.Proofs.Schema.RoundTrip
import NodeIdGen.Proofs.Cli.Untouched
import NodeIdGen.Proofs.Cli.Outputs
import NodeIdGen.Proofs.Generate.Parts
import NodeIdGen.Proofs.Syntax.FlagGrammar
import NodeIdGen.Proofs.Schema.Language
import NodeIdGen.Proofs.Schema.SourceTokens
import NodeIdGen.Proofs.Schema.SourceText
import NodeIdGen.Proofs.Schema.WrittenForms
import NodeIdGen.Proofs.Schema.DocumentText
import NodeIdGen.Proofs.Generate.Header
import NodeIdGen.Proofs.Generate.Wiring
import NodeIdGen.Proofs.Schema.StrayKeys
import NodeIdGen.Proofs.Schema.DocumentLanguage
import NodeIdGen.Proofs.Generate.Resolve
import NodeIdGen.Proofs.Schema.Markers
import NodeIdGen.Proofs.Syntax.Depth
import NodeIdGen.Proofs.Syntax.DepthExpressions
import NodeIdGen.Proofs.Syntax.DepthItems
import NodeIdGen.Proofs.Syntax.FlagBlocks
import NodeIdGen.Proofs.Generate.Events
import NodeIdGen.Proofs.Generate.Filter
import NodeIdGen.Proofs.Generate.Names
import NodeIdGen.Proofs.Schema.GivenForms
import NodeIdGen.Proofs.Text.ByteOrder
import NodeIdGen.Proofs.Schema.Encoding
import NodeIdGen.Proofs.Cli.Rejections
import NodeIdGen.Proofs.Schema.MarkerHistory
import NodeIdGen.Proofs.Schema.Numbering
