import NestedSelect.Declaration.Expansion
import NestedSelect.Inspection.Describe
import NestedSelect.Select
import NestedSelect.Value.Wire
import NestedSelect.Proofs.Placeholder.CorrelationCondition
import NestedSelect.Proofs.Relation.FirstViolation
import NestedSelect.Proofs.Statement.NameContainment
import NestedSelect.Proofs.Join.SortedRequests
import NestedSelect.Proofs.Select.RegistrationHistory
import NestedSelect.Proofs.Relation.BuiltTree
import NestedSelect.Proofs.Relation.TreeCorrespondence
import NestedSelect.Proofs.Declaration.ReaderRuns
import NestedSelect.Proofs.Join.Segments
import NestedSelect.Proofs.Relation.AliasUniqueness
import NestedSelect.Proofs.Sql.Query
import NestedSelect.Proofs.Sql.Scope
import NestedSelect.Proofs.Statement.DraftWords
import NestedSelect.Proofs.Statement.StatementQuery
import NestedSelect.Proofs.Statement.ReferenceScope
import NestedSelect.Proofs.Statement.LayoutInvariance
import NestedSelect.Proofs.Placeholder.RepeatedRenumbering
import NestedSelect.Proofs.Statement.Resplicing
import NestedSelect.Proofs.Statement.StatementAsFragment
import NestedSelect.Proofs.Declaration.MemberMeaning
import NestedSelect.Proofs.Declaration.ExpandedBlock
import NestedSelect.Proofs.Statement.JoinLines
import NestedSelect.Proofs.Relation.StandingNodes
import NestedSelect.Proofs.Declaration.ForeignArrow
import NestedSelect.Proofs.Placeholder.Offsets
import NestedSelect.Proofs.Join.RequestedNodes
import NestedSelect.Proofs.Join.ListedPaths
import NestedSelect.Proofs.Relation.SiblingOrder
import NestedSelect.Proofs.Statement.FirstFailure
import NestedSelect.Proofs.Statement.StandingInquiries
import NestedSelect.Proofs.Select.AddedJoin
import NestedSelect.Proofs.Schema.EmbeddingCycles
import NestedSelect.Proofs.Schema.Flattening
import NestedSelect.Proofs.Schema.StackDiscipline
import NestedSelect.Proofs.Declaration.MemberFaults
import NestedSelect.Proofs.Declaration.AttributeOrder
import NestedSelect.Proofs.Declaration.ForeignGrammar
import NestedSelect.Proofs.Declaration.FaultPositions
import NestedSelect.Proofs.Select.RenderingEvents
import NestedSelect.Proofs.Value.WireReading
import NestedSelect.Proofs.Placeholder.SeamLocality
import NestedSelect.Proofs.Statement.AskedConditions
