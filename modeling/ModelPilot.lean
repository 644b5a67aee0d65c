import ModelPilot.Runs
import ModelPilot.BreakerRuns
import ModelPilot.LatestWins
import ModelPilot.QualityReference
import ModelPilot.BenchmarkPipeline
import ModelPilot.BenchmarkExecution
import ModelPilot.QualityAcceptance
import ModelPilot.OpenCircuitRuns
import ModelPilot.RecoveryRuns
import ModelPilot.ExplanationProofs
import ModelPilot.RankingProofs
import ModelPilot.FallbackProtocol
import ModelPilot.PersistenceFailures
import ModelPilot.RoutingReport
import ModelPilot.RankingEligibility
import ModelPilot.EvidenceThresholds
import ModelPilot.ResponseIntegrity
import ModelPilot.HealthArithmetic
import ModelPilot.AdapterOutcomes
import ModelPilot.JsonAnswers
import ModelPilot.MetricsWindow
import ModelPilot.SummaryReads
import ModelPilot.HealthView
import ModelPilot.MigrationRuns
import ModelPilot.GeminiTexts
import ModelPilot.CommandEndings
import ModelPilot.RecordStorage
import ModelPilot.ChatCompletions
import ModelPilot.RecordedCosts
import ModelPilot.CostEstimates
import ModelPilot.StoredBreaker
import ModelPilot.LatestReads
import ModelPilot.StoredTimes
import ModelPilot.ErrorMessages
import ModelPilot.BenchmarkApi
import ModelPilot.ModelTraffic
import ModelPilot.MetricsApi
import ModelPilot.Dashboard
import ModelPilot.BenchmarkNotices
import ModelPilot.LogSecrecy
import ModelPilot.Startup
import ModelPilot.StartupProofs
