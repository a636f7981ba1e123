import FeatureFlags.Main
import FeatureFlags.Rehearsal.Polling
import FeatureFlags.Rehearsal.Script
import FeatureFlags.Proofs.Lockstep
import FeatureFlags.Proofs.References
import FeatureFlags.Proofs.Recording
import FeatureFlags.Proofs.Termination
import FeatureFlags.Proofs.EvaluationWithoutMemo
import FeatureFlags.Proofs.Transparency
import FeatureFlags.Proofs.Circularity
import FeatureFlags.Proofs.Finality
import FeatureFlags.Proofs.CacheHistory
import FeatureFlags.Proofs.Reachable
import FeatureFlags.Proofs.OneAndAll
import FeatureFlags.Proofs.FailedCall
import FeatureFlags.Proofs.MemoExtension
import FeatureFlags.Proofs.SharedIdentity
import FeatureFlags.Proofs.ShortestDecimal
import FeatureFlags.Proofs.NumberText
import FeatureFlags.Proofs.JsonText
import FeatureFlags.Proofs.ContextKeys
import FeatureFlags.Proofs.JobSteps
import FeatureFlags.Proofs.QueryCalls
import FeatureFlags.Proofs.Loading
import FeatureFlags.Proofs.SharedFetch
import FeatureFlags.Proofs.EntryOrigin
import FeatureFlags.Proofs.Completion
import FeatureFlags.Proofs.SinceClear
import FeatureFlags.Proofs.FirstUse
import FeatureFlags.Proofs.Shutdown
import FeatureFlags.Proofs.ReadBack
import FeatureFlags.Proofs.CohortReading
import FeatureFlags.Proofs.FormatRoundTrip
import FeatureFlags.Proofs.JsonReading
import FeatureFlags.Proofs.DefinitionsText
import FeatureFlags.Proofs.KeptKeys
import FeatureFlags.Proofs.UnknownOperator
import FeatureFlags.Proofs.MatchValue
import FeatureFlags.Proofs.JunctionOutcome
import FeatureFlags.Proofs.Explanation
import FeatureFlags.Proofs.PartialData
import FeatureFlags.Proofs.Expectation
import FeatureFlags.Proofs.NearestNumber
import FeatureFlags.Proofs.FloatOrder
import FeatureFlags.Proofs.Shares
import FeatureFlags.Proofs.VariantIntervals
import FeatureFlags.Proofs.RaisedRollouts
import FeatureFlags.Proofs.BareCapitals
import FeatureFlags.Proofs.CodeSets
import FeatureFlags.Proofs.CaseTables
import FeatureFlags.Proofs.CaseFolding
import FeatureFlags.Proofs.Journal
import FeatureFlags.Proofs.Months
import FeatureFlags.Proofs.RelativeDates
import FeatureFlags.Proofs.IntegerFloats
import FeatureFlags.Proofs.IntegerOrder
import FeatureFlags.Proofs.Containment
