import DocumentPipeline.Client
import DocumentPipeline.Constant.Equality
import DocumentPipeline.Expression.Argument
import DocumentPipeline.Expression.Catalog
import DocumentPipeline.Proofs.Acceptance
import DocumentPipeline.Proofs.CallHistory
import DocumentPipeline.Proofs.FieldReferences
import DocumentPipeline.Proofs.FirstViolation
import DocumentPipeline.Proofs.ProtocolRoundTrip
import DocumentPipeline.Proofs.QueryAnswers
import DocumentPipeline.Proofs.SkippedValues
import DocumentPipeline.Proofs.StageLimit
import DocumentPipeline.Proofs.StreamedAnswers
import DocumentPipeline.Proofs.WellFormed
import DocumentPipeline.Query
import DocumentPipeline.Stage.Equality
import DocumentPipeline.Proofs.OverrideReports
import DocumentPipeline.Proofs.FilterMeaning
import DocumentPipeline.Proofs.QueryCalls
import DocumentPipeline.Proofs.ResourceNames
import DocumentPipeline.Proofs.Navigation
import DocumentPipeline.OrderedMap.Indexed
import DocumentPipeline.Proofs.IndexedMaps
import DocumentPipeline.Proofs.PayloadLengths
import DocumentPipeline.Proofs.ValueViews
import DocumentPipeline.Proofs.RowPaths
import DocumentPipeline.Proofs.RegroupedResponses
import DocumentPipeline.Proofs.CalendarTimes
import DocumentPipeline.Proofs.LastEntries
import DocumentPipeline.Proofs.NamedItems
import DocumentPipeline.Proofs.Projections
import DocumentPipeline.Proofs.CollapsedLiterals
import DocumentPipeline.Proofs.Milliseconds
