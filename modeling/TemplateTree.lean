import TemplateTree.Host.Procedure
import TemplateTree.Inspect.State
import TemplateTree.Mode.Parenthesized
import TemplateTree.Mode.Tree
import TemplateTree.Proofs.Comparison
import TemplateTree.Proofs.CycleTurns
import TemplateTree.Proofs.Declaration
import TemplateTree.Proofs.Descent
import TemplateTree.Proofs.ElementDisplay
import TemplateTree.Proofs.ErrorOrigin
import TemplateTree.Proofs.ExprPrinting
import TemplateTree.Proofs.HtmlReading
import TemplateTree.Proofs.HtmlSafety
import TemplateTree.Proofs.Interpolations
import TemplateTree.Proofs.LiveFrames
import TemplateTree.Proofs.LoopHeaders
import TemplateTree.Proofs.LoopStates
import TemplateTree.Proofs.ModeAgreement
import TemplateTree.Proofs.Nesting
import TemplateTree.Proofs.NumberTexts
import TemplateTree.Proofs.Overriding
import TemplateTree.Proofs.ParentWalk
import TemplateTree.Proofs.Slicing
import TemplateTree.Proofs.Splicing
import TemplateTree.Proofs.StaticResolution
import TemplateTree.Proofs.TestValues
import TemplateTree.Proofs.Serialization
import TemplateTree.Proofs.Grouping
import TemplateTree.Proofs.Paths
import TemplateTree.Proofs.Snippets
import TemplateTree.Proofs.Tiling
