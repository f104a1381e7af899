import IssueQuery.Main
import IssueQuery.Proofs.Calendar.Period
import IssueQuery.Proofs.Match.Composition
import IssueQuery.Proofs.Match.Instants
import IssueQuery.Proofs.Match.Integers
import IssueQuery.Proofs.Match.Kinds
import IssueQuery.Proofs.Match.LetterCase
import IssueQuery.Proofs.Match.Negation
import IssueQuery.Proofs.Match.Nesting
import IssueQuery.Proofs.Match.OwnText
import IssueQuery.Proofs.Match.QuotedNumber
import IssueQuery.Proofs.Match.SameDay
import IssueQuery.Proofs.Match.Vocabulary
import IssueQuery.Proofs.Query.Displacement
import IssueQuery.Proofs.Query.Fragment
import IssueQuery.Proofs.Query.QuotedList
import IssueQuery.Proofs.Query.Range
import IssueQuery.Proofs.Query.Segmentation
import IssueQuery.Proofs.Query.SingleQuotes
import IssueQuery.Proofs.Query.Splitting
import IssueQuery.Proofs.Query.Statistics
import IssueQuery.Proofs.Record.Chronology
import IssueQuery.Proofs.Remote.Retry
import IssueQuery.Proofs.Search.Limit
import IssueQuery.Proofs.Search.Project
import IssueQuery.Proofs.Search.Tasks
import IssueQuery.Proofs.Service.Faulty
import IssueQuery.Proofs.Settings.Precedence
import IssueQuery.Service.Host
