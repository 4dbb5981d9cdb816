import OptimisticCache.Main
import OptimisticCache.Payload.Record
import OptimisticCache.Session
import OptimisticCache.Subscription
import OptimisticCache.Json.Variant
import OptimisticCache.Proofs.Operation
import OptimisticCache.Proofs.Recording
import OptimisticCache.Proofs.Rollback
import OptimisticCache.Proofs.Commit
import OptimisticCache.Proofs.Markers
import OptimisticCache.Proofs.Ensemble
import OptimisticCache.Proofs.Orphans
import OptimisticCache.Proofs.Settlement
import OptimisticCache.Proofs.CommittedLists
import OptimisticCache.Proofs.ParentRecords
import OptimisticCache.Proofs.Agenda
import OptimisticCache.Proofs.Attended
import OptimisticCache.Proofs.Delivery
import OptimisticCache.Proofs.StaleRestores
import OptimisticCache.Proofs.Draining
import OptimisticCache.Proofs.DistinctIds
import OptimisticCache.Proofs.ConcurrentCreations
import OptimisticCache.Proofs.CanonicalForms
import OptimisticCache.Proofs.Traffic
import OptimisticCache.Proofs.CachedShapes
import OptimisticCache.Proofs.Twins
import OptimisticCache.Proofs.Footprints
import OptimisticCache.Proofs.Serializability
import OptimisticCache.Proofs.RoundTrips
import OptimisticCache.Proofs.Spelling
import OptimisticCache.Proofs.KnownSpellings
import OptimisticCache.Proofs.EventLog
import OptimisticCache.Proofs.Listening
import OptimisticCache.Proofs.Audience
import OptimisticCache.Proofs.Deduplication
import OptimisticCache.Proofs.PatchedKeys
import OptimisticCache.Proofs.Counters
import OptimisticCache.Proofs.Rewording
import OptimisticCache.Proofs.MergedItems
import OptimisticCache.Proofs.ReflectedOutcomes
import OptimisticCache.Proofs.Invalidations
import OptimisticCache.Proofs.Finality
import OptimisticCache.Proofs.Reads
import OptimisticCache.Proofs.CanonicalKeys
import OptimisticCache.Proofs.QueryPaths
import OptimisticCache.Proofs.DisplayedQueries
import OptimisticCache.Proofs.ExactCounters
