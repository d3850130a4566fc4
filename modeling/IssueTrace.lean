import IssueTrace.Main
import IssueTrace.Repository.Memory
import IssueTrace.Proofs.Attribution.Resolve
import IssueTrace.Proofs.Attribution.AddedLines
import IssueTrace.Proofs.Goldset.Aggregation
import IssueTrace.Proofs.Goldset.Runs
import IssueTrace.Proofs.Issue.MapFile
import IssueTrace.Proofs.Goldset.Accounting
import IssueTrace.Proofs.Goldset.Rerun
import IssueTrace.Proofs.History.Window
import IssueTrace.Proofs.Goldset.OpenLine
import IssueTrace.Proofs.Goldset.Retry
import IssueTrace.Proofs.Repository.Agreement
import IssueTrace.Proofs.Run.Outputs
import IssueTrace.Proofs.Attribution.Splitting
import IssueTrace.Proofs.Attribution.Extents
import IssueTrace.Proofs.Attribution.Deletions
import IssueTrace.Proofs.Attribution.Bounds
import IssueTrace.Proofs.Package.Qualification
import IssueTrace.Proofs.Issue.FirstReference
import IssueTrace.Proofs.Issue.Partition
import IssueTrace.Proofs.Diff.HeaderReading
import IssueTrace.Proofs.Storage.QueryListing
import IssueTrace.Proofs.Source.Dialects
import IssueTrace.Proofs.Source.Nesting
import IssueTrace.Proofs.History.Changes
import IssueTrace.Proofs.Config.RangeText
