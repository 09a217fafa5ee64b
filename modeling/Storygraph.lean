import Storygraph.Cli.Workspace
import Storygraph.Main
import Storygraph.Proofs.Flow
import Storygraph.Proofs.Segmentation
import Storygraph.Proofs.WellFormed
import Storygraph.Proofs.Independence
import Storygraph.Proofs.Headings
import Storygraph.Proofs.Locations
import Storygraph.Proofs.Names
import Storygraph.Proofs.Reachability
import Storygraph.Proofs.RoundTrip
import Storygraph.Proofs.Continuation
import Storygraph.Proofs.Dividers
import Storygraph.Proofs.Padding
import Storygraph.Proofs.LetterCase
import Storygraph.Proofs.Anchoring
import Storygraph.Proofs.Kinds
import Storygraph.Proofs.DashedLines
import Storygraph.Proofs.LineEndings
import Storygraph.Proofs.Rulebooks
import Storygraph.Proofs.Tags
import Storygraph.Proofs.Fallback
import Storygraph.Proofs.Layout
import Storygraph.Proofs.Failures
import Storygraph.Proofs.DeclaredLines
import Storygraph.Proofs.JoinedPieces
import Storygraph.Proofs.NameLines
import Storygraph.Proofs.NodeNames
import Storygraph.Proofs.PartialRulebooks
import Storygraph.Proofs.Compiling
import Storygraph.Proofs.Forecasts
import Storygraph.Proofs.Summaries
import Storygraph.Proofs.Verbosity
import Storygraph.Proofs.Inputs
import Storygraph.Proofs.HeaderLines
import Storygraph.Proofs.Neighbours
