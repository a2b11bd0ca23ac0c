import Resemblance.Cache.Compare
import Resemblance.CommandLine.Perform
import Resemblance.Config.Json
import Resemblance.Engine
import Resemblance.Main
import Resemblance.Run.Json
import Resemblance.SyntaxTree.Preorder
import Resemblance.Proofs.Comments
import Resemblance.Proofs.FirstFault
import Resemblance.Proofs.Symmetry
import Resemblance.Proofs.Tokens
import Resemblance.Proofs.Outermost
import Resemblance.Proofs.LineComments
import Resemblance.Proofs.Rearranged
import Resemblance.Proofs.Quotient
import Resemblance.Proofs.SharedSubtrees
import Resemblance.Proofs.EditMetric
import Resemblance.Proofs.EditOutline
import Resemblance.Proofs.EditBounds
import Resemblance.Proofs.CommentInvariance
import Resemblance.Proofs.Rounding
import Resemblance.Proofs.ShortestDecimal
import Resemblance.Proofs.DoubleBits
import Resemblance.Proofs.JsonText
import Resemblance.Proofs.Calendar
import Resemblance.Proofs.TimestampText
import Resemblance.Proofs.Documents
import Resemblance.Proofs.CachePaths
import Resemblance.Proofs.FileTree
import Resemblance.Proofs.CacheDirectory
import Resemblance.Proofs.Journal
import Resemblance.Proofs.SecondRun
import Resemblance.Proofs.SharedDocuments
import Resemblance.Proofs.Discovery
import Resemblance.Proofs.CacheContents
import Resemblance.Proofs.Isolation
import Resemblance.Proofs.FreshRecords
import Resemblance.Proofs.SoloCrew
import Resemblance.Proofs.Crew
import Resemblance.Proofs.OwnScore
import Resemblance.Proofs.SharedGrams
import Resemblance.Proofs.CompositeSum
import Resemblance.Proofs.BucketAccounts
import Resemblance.Proofs.PerfectScore
import Resemblance.Proofs.EditWeights
import Resemblance.Proofs.EditAssembly
import Resemblance.Proofs.EditSimilarity
import Resemblance.Proofs.CommentStripping
import Resemblance.Proofs.StrippedTokens
import Resemblance.Proofs.ClippedMatches
import Resemblance.Proofs.RelativeDistance
import Resemblance.Proofs.SetOverlap
import Resemblance.Proofs.TokenSpacing
import Resemblance.Proofs.RedraftedEntries
import Resemblance.Proofs.HistogramMetric
import Resemblance.Proofs.HistogramAngle
import Resemblance.Proofs.WeightedMean
import Resemblance.Proofs.SameScores
import Resemblance.Proofs.TemperatureLabels
import Resemblance.Proofs.Buckets
import Resemblance.Proofs.DocumentOrder
import Resemblance.Proofs.TemperatureComparisons
import Resemblance.Proofs.GramCounts
import Resemblance.Proofs.ExactConsistency
import Resemblance.Proofs.FlatCorrelation
