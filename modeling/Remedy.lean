import Remedy.Syntax.Draft
import Remedy.Engine
import Remedy.Proofs.Tree.Wiring
import Remedy.Proofs.Tree.FirstFault
import Remedy.Proofs.Tree.Covering
import Remedy.Proofs.Tree.Renumbering
import Remedy.Proofs.Link.FormDecoding
import Remedy.Proofs.Link.RoundTrip
import Remedy.Proofs.Registry.Dispatch
import Remedy.Proofs.Registry.Builtin
import Remedy.Proofs.Syntax.Relabelling
import Remedy.Proofs.Syntax.Glue
import Remedy.Proofs.Syntax.RenderNesting
import Remedy.Proofs.Text.ProperNesting
import Remedy.Proofs.Site.Lookup
import Remedy.Proofs.Site.Renumbering
import Remedy.Proofs.Advice.HintTable
import Remedy.Proofs.Advice.Renumbering
import Remedy.Proofs.Link.CataloguePages
import Remedy.Proofs.Syntax.UnaryText
import Remedy.Proofs.Advice.SharedNames
import Remedy.Proofs.Text.NestedCode
import Remedy.Proofs.Advice.DemoNesting
import Remedy.Proofs.Site.NestedFacts
import Remedy.Proofs.Advice.ExampleNesting
import Remedy.Proofs.Tree.AncestorChain
import Remedy.Proofs.Registry.LatestMaker
import Remedy.Proofs.Advice.Sessions
import Remedy.Proofs.Advice.Outline
import Remedy.Proofs.Tree.CommonAncestor
import Remedy.Proofs.Tree.CoveringPath
import Remedy.Proofs.Tree.IndexedWalks
import Remedy.Proofs.Advice.Batches
import Remedy.Proofs.Advice.DemoTexts
import Remedy.Proofs.Advice.Contrast
import Remedy.Proofs.Text.Partners
import Remedy.Proofs.Link.ExtraBrace
import Remedy.Proofs.Link.ListParameters
import Remedy.Proofs.Site.ArgumentPosition
import Remedy.Proofs.Site.UsedAs
import Remedy.Proofs.Tree.SameSyntax
import Remedy.Proofs.Advice.WrittenTypes
import Remedy.Proofs.Text.TypeArguments
import Remedy.Proofs.Text.MemberTypes
import Remedy.Proofs.Advice.ArrayValues
import Remedy.Proofs.Advice.DemoLiterals
import Remedy.Proofs.Advice.QuotedCalls
import Remedy.Proofs.Advice.DeclaredNames
import Remedy.Proofs.Advice.LinksWithHints
import Remedy.Proofs.Text.OpenerSearch
import Remedy.Proofs.Link.QuotedBlock
import Remedy.Proofs.Text.ByteOffsets
import Remedy.Proofs.Text.OpenerOffset
import Remedy.Proofs.Text.NearestOpener
import Remedy.Proofs.Link.MethodHeader
import Remedy.Proofs.Link.OffsetCuts
import Remedy.Proofs.Link.ReportedNames
import Remedy.Proofs.Text.Trimming
import Remedy.Proofs.Settings
