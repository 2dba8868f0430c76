import ShootingStar.Lib.Keyed
import ShootingStar.Lib.RecencyList
import ShootingStar.Lib.RoundRobin
import ShootingStar.Utilities.LruCache
import ShootingStar.Lib.Transition
import ShootingStar.Utilities.ResourcePool
import ShootingStar.Lib.Table
import ShootingStar.Messages
import ShootingStar.JsonValue
import ShootingStar.Retrieval.Candidate
import ShootingStar.Retrieval.Orchestrator
import ShootingStar.Lib.Ranked
import ShootingStar.Ranking.HeuristicRanker
import ShootingStar.Retrieval.Retriever
import ShootingStar.Lib.Batch
import ShootingStar.Retrieval.ItemCf
import ShootingStar.Profile.ProfileService
import ShootingStar.Retrieval.UserCf
import ShootingStar.Ranking.RankingService
import ShootingStar.Gateway.Gateway
import ShootingStar.Gateway.Pipeline
import ShootingStar.Lib.ShardWriter
import ShootingStar.Lib.TopK
import ShootingStar.Lib.Combinations
import ShootingStar.Lib.Rounding
import ShootingStar.Offline.Ratings
import ShootingStar.Offline.Interactions
import ShootingStar.Offline.ItemSimilarity
import ShootingStar.Offline.UserSampling
import ShootingStar.Offline.UserSimilarity
import ShootingStar.Offline.UserScores
import ShootingStar.Retrieval.Explanation
import ShootingStar.Retrieval.Provenance
import ShootingStar.Lib.Trace
import ShootingStar.Utilities.CurlHttpClient
import ShootingStar.Lib.SortedSets
import ShootingStar.Lib.Text
import ShootingStar.Offline.RedisWriter
import ShootingStar.Retrieval.ItemSimilarityStores
import ShootingStar.Lib.Interleaving
import ShootingStar.Utilities.CachedLookup
import ShootingStar.Ranking.CachingStores
import ShootingStar.Lib.Retry
import ShootingStar.Utilities.RedisRetry
import ShootingStar.Utilities.JsonParser
import ShootingStar.Retrieval.SimilarityIds
import ShootingStar.Offline.ItemScores
import ShootingStar.Offline.SampleFairness
import ShootingStar.Offline.CoverageAnchors
import ShootingStar.Lib.Greatest
import ShootingStar.Offline.UserProfile
import ShootingStar.Offline.ProfileGroups
import ShootingStar.Offline.UserRatings
import ShootingStar.Offline.RedisBatches
import ShootingStar.Offline.LocalRecommendationFixture
import ShootingStar.Retrieval.FixtureRecall
import ShootingStar.Utilities.GlobalConfig
import ShootingStar.Utilities.ConfigArguments
import ShootingStar.Utilities.ConfigYaml
import ShootingStar.Lib.JsonText
import ShootingStar.Utilities.Logger
import ShootingStar.Lib.Utf8
import ShootingStar.Utilities.ServerLogging
import ShootingStar.Utilities.JsonFields
import ShootingStar.Offline.MovieTags
import ShootingStar.Offline.ItemIndexBuilder
import ShootingStar.Ranking.ItemIndexStore
import ShootingStar.Lib.Outcome
import ShootingStar.Lib.Lines
import ShootingStar.Utilities.LocalProfileLoader
import ShootingStar.Ranking.LocalFileItemIndexStore
import ShootingStar.Lib.Base64
import ShootingStar.Utilities.RuntimeUtilities
import ShootingStar.Offline.TopTags
import ShootingStar.Gateway.Locality
import ShootingStar.Lib.Picking
import ShootingStar.Offline.FixtureExtraction
import ShootingStar.Offline.FixtureUsers
import ShootingStar.Gateway.FixtureLocality
import ShootingStar.Utilities.ConfigRuns
import ShootingStar.Utilities.ConfigLogging
import ShootingStar.Lib.Documents
import ShootingStar.Offline.ElasticsearchWriter
import ShootingStar.Ranking.ElasticsearchItemIndexStore
import ShootingStar.Profile.ElasticsearchProfileStore
