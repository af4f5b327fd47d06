import FilterQuery.Main
import FilterQuery.Proofs.ParameterNumbering
import FilterQuery.Proofs.BuilderCalls
import FilterQuery.Proofs.ValueIndependence
import FilterQuery.Proofs.ClauseColumns
import FilterQuery.Proofs.PlaceholderScan
import FilterQuery.Proofs.PositionalRendering
import FilterQuery.Proofs.ClauseReading
import FilterQuery.Proofs.FilterMeaning
import FilterQuery.Proofs.FilterPruning
import FilterQuery.Proofs.NegationReach
import FilterQuery.Proofs.JoinScope
import FilterQuery.Proofs.RelationExpansion
import FilterQuery.Proofs.RelationMentions
import FilterQuery.Proofs.SelectCalls
import FilterQuery.Proofs.JoinResolution
import FilterQuery.Proofs.SessionAnswers
import FilterQuery.Proofs.DistinctAliases
import FilterQuery.Proofs.RequestSections
import FilterQuery.Proofs.OrderScope
import FilterQuery.Proofs.DialectRendering
import FilterQuery.Proofs.MetricsAccounting
import FilterQuery.Proofs.RepeatedProperties
import FilterQuery.Proofs.ColumnPlaceholders
import FilterQuery.Proofs.JoinPlanning
import FilterQuery.Proofs.RelationWalk
import FilterQuery.Proofs.CallOrder
import FilterQuery.Proofs.NestedCalls
import FilterQuery.Proofs.RequestLimits
import FilterQuery.Proofs.MetricsTallies
import FilterQuery.Proofs.OrderDocuments
import FilterQuery.Proofs.SettingsLayers
import FilterQuery.Proofs.PathExpansion
import FilterQuery.Proofs.PageWindows
import FilterQuery.Proofs.SeparatedWords
import FilterQuery.Proofs.FilterBuilding
