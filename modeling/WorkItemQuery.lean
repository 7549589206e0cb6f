import WorkItemQuery.BoundChecker.Session
import WorkItemQuery.Cache.Session
import WorkItemQuery.Check
import WorkItemQuery.Completion
import WorkItemQuery.Proofs.BoundChecker.FailedLookups
import WorkItemQuery.Proofs.BoundChecker.Memo
import WorkItemQuery.Proofs.BoundChecker.Transparency
import WorkItemQuery.Proofs.Cache.Cancellation
import WorkItemQuery.Proofs.Cache.Commutation
import WorkItemQuery.Proofs.Cache.Freshness
import WorkItemQuery.Proofs.Cache.Renewal
import WorkItemQuery.Proofs.Cache.Retries
import WorkItemQuery.Proofs.Cache.SingleFlight
import WorkItemQuery.Proofs.Check.Concatenation
import WorkItemQuery.Proofs.Check.Failures
import WorkItemQuery.Proofs.Check.Indifference
import WorkItemQuery.Proofs.Check.LinkType
import WorkItemQuery.Proofs.Check.Metadata
import WorkItemQuery.Proofs.Check.Registration
import WorkItemQuery.Proofs.Check.Sequence
import WorkItemQuery.Proofs.Check.Shape
import WorkItemQuery.Proofs.Check.SourceOrder
import WorkItemQuery.Proofs.Check.Substitution
import WorkItemQuery.Proofs.Check.Typing
import WorkItemQuery.Proofs.Check.Unmentioned
import WorkItemQuery.Proofs.Completion.Agreement
import WorkItemQuery.Proofs.Completion.OfferedOperators
import WorkItemQuery.Proofs.Completion.OfferedVariables
import WorkItemQuery.Proofs.Lookup.Iteration
import WorkItemQuery.Proofs.Lookup.Refusal
import WorkItemQuery.Proofs.Span.Sorting
import WorkItemQuery.Proofs.Tree.Span
import WorkItemQuery.Proofs.Variables.Reloading
