import DocMapper.ByteSize
import DocMapper.Cluster.Client
import DocMapper.Cluster.Config
import DocMapper.CommandLine.Arguments
import DocMapper.CommandLine.Help
import DocMapper.CommandLine.Report
import DocMapper.Criteria.Basic
import DocMapper.Criteria.EditDistance
import DocMapper.Criteria.Evaluate
import DocMapper.Criteria.Render
import DocMapper.Decimal.Layout
import DocMapper.Decimal.Reading
import DocMapper.Decimal.Shortest
import DocMapper.Deployment
import DocMapper.Dialogue
import DocMapper.Dict
import DocMapper.DocumentType.Access
import DocMapper.DocumentType.Basic
import DocMapper.DocumentType.Build
import DocMapper.DocumentType.Config
import DocMapper.DocumentType.IndexBody
import DocMapper.DocumentType.Registry
import DocMapper.DocumentType.Renaming
import DocMapper.DocumentType.Resolve
import DocMapper.Duration
import DocMapper.Engine.Call
import DocMapper.Engine.Fault
import DocMapper.Engine.Memory
import DocMapper.Engine.Outage
import DocMapper.Error
import DocMapper.Failure
import DocMapper.FieldPath
import DocMapper.FieldType
import DocMapper.Geo
import DocMapper.Http.Exchange
import DocMapper.Http.Status
import DocMapper.Json.Basic
import DocMapper.Json.Decode
import DocMapper.Json.Parser
import DocMapper.Json.Pointer
import DocMapper.Json.Printer
import DocMapper.Main
import DocMapper.Placeholder
import DocMapper.Proofs.AddressesBelow
import DocMapper.Proofs.AliasFlags
import DocMapper.Proofs.ArgumentSegments
import DocMapper.Proofs.BooleanReading
import DocMapper.Proofs.BootstrapReading
import DocMapper.Proofs.BucketReading
import DocMapper.Proofs.BuiltSeries
import DocMapper.Proofs.CarriedSegments
import DocMapper.Proofs.ClauseMeaning
import DocMapper.Proofs.CompiledQueries
import DocMapper.Proofs.DictLaws
import DocMapper.Proofs.DocumentAddresses
import DocMapper.Proofs.DoubleOrder
import DocMapper.Proofs.DoubleWords
import DocMapper.Proofs.Generations
import DocMapper.Proofs.HitOrder
import DocMapper.Proofs.Interleaving
import DocMapper.Proofs.InterruptedCalls
import DocMapper.Proofs.IntervalTimes
import DocMapper.Proofs.LongestSpelling
import DocMapper.Proofs.MatchingDocuments
import DocMapper.Proofs.NameReading
import DocMapper.Proofs.NumberTexts
import DocMapper.Proofs.PatternNames
import DocMapper.Proofs.PercentCoding
import DocMapper.Proofs.QueryAgreement
import DocMapper.Proofs.Reattachment
import DocMapper.Proofs.RepeatedBootstraps
import DocMapper.Proofs.RenamedRecords
import DocMapper.Proofs.Sameness
import DocMapper.Proofs.SavedDocuments
import DocMapper.Proofs.SeriesCalls
import DocMapper.Proofs.SeriesIntegrity
import DocMapper.Proofs.SeriesNames
import DocMapper.Proofs.ShortestDecimal
import DocMapper.Proofs.SiblingNames
import DocMapper.Proofs.SortClauses
import DocMapper.Proofs.SubjectAgreement
import DocMapper.Proofs.SubjectWords
import DocMapper.Proofs.TickOutcomes
import DocMapper.Proofs.TrimmedText
import DocMapper.Proofs.UnlimitedSearches
import DocMapper.Proofs.UnseenPredicates
import DocMapper.Proofs.WildcardQueries
import DocMapper.Proofs.WordCuts
import DocMapper.Proofs.WriteRouting
import DocMapper.Proofs.WrittenNames
import DocMapper.Query.Argument
import DocMapper.Query.Compile
import DocMapper.Query.Keyword
import DocMapper.Query.MethodName
import DocMapper.Regex.Basic
import DocMapper.Regex.Charset
import DocMapper.Regex.Reading
import DocMapper.Regex.Table
import DocMapper.Repository
import DocMapper.Rollover.Conditions
import DocMapper.Rollover.Sweep
import DocMapper.Rollover.Tick
import DocMapper.Routing
import DocMapper.Schedule.Basic
import DocMapper.Schedule.Cron
import DocMapper.Scheduler.Basic
import DocMapper.Scheduler.Job
import DocMapper.Service
import DocMapper.Settings.Deployment
import DocMapper.Settings.Layers
import DocMapper.Settings.Loose
import DocMapper.Text.Base64
import DocMapper.Text.Blank
import DocMapper.Text.Case
import DocMapper.Text.CaseTable
import DocMapper.Text.Escaped
import DocMapper.Text.Pieces
import DocMapper.Text.Table
import DocMapper.Text.Width
import DocMapper.Text.Wildcard
import DocMapper.Time.Calendar
import DocMapper.Time.Pattern
import DocMapper.Time.Reading
import DocMapper.Toml.Document
import DocMapper.Toml.Scalar
import DocMapper.Toml.Table
import DocMapper.Toml.Text
import DocMapper.Url.Basic
import DocMapper.Url.Host
import DocMapper.Url.Percent
import DocMapper.Url.Punycode
import DocMapper.Proofs.SingleWriters
import DocMapper.Proofs.CheckedTypes
import DocMapper.Proofs.FieldPaths
import DocMapper.Proofs.JobLives
import DocMapper.Proofs.SchedulerRuns
import DocMapper.Proofs.SchedulerSessions
import DocMapper.Proofs.RegisteredTypes
import DocMapper.Proofs.AtomicCalls
import DocMapper.Proofs.AliasLookups
import DocMapper.Proofs.FilledPlaces
import DocMapper.Proofs.CarriedRecords
import DocMapper.Proofs.JoinedChains
import DocMapper.Proofs.NameTexts
import DocMapper.Proofs.HealedSeries
import DocMapper.Proofs.NewbornIndices
import DocMapper.Proofs.GeoEquality
import DocMapper.Proofs.PropertyReadings
import DocMapper.Proofs.OwnPaths
import DocMapper.Proofs.DailyNames
import DocMapper.Proofs.PathWrites
import DocMapper.Proofs.MintedIdentities
import DocMapper.Proofs.MergedEntries
import DocMapper.Proofs.ChildRouting
import DocMapper.Proofs.CountedNames
import DocMapper.Proofs.EditSequences
import DocMapper.Proofs.InclusiveRanges
import DocMapper.Proofs.MirroredMappings
import DocMapper.Proofs.FilledTemplates
import DocMapper.Proofs.ShieldedTexts
import DocMapper.Proofs.AmountTexts
import DocMapper.Proofs.ServiceRuns
import DocMapper.Proofs.OwnTriggers
