import Casework.Http.Service
import Casework.Json.Writer
import Casework.Main
import Casework.Proofs.Chief.Approved
import Casework.Proofs.Packs.Authorised
import Casework.Proofs.Packs.Lookups
import Casework.Proofs.Tasks.Single
import Casework.Store.Restore
import Casework.Store.Work
import Casework.Proofs.Packs.Life
import Casework.Proofs.Chief.Outbox
import Casework.Proofs.Case.Failures
import Casework.Proofs.Case.Complete
import Casework.Proofs.Case.Stages
import Casework.Proofs.Case.Variations
import Casework.Proofs.Chief.Waits
import Casework.Proofs.Chief.Replies
import Casework.Proofs.Case.Updates
import Casework.Proofs.Chief.Live
import Casework.Proofs.Document.Created
import Casework.Proofs.Document.Unique
import Casework.Proofs.Reference.Cases
import Casework.Proofs.Case.Particulars
import Casework.Proofs.Packs.Terms
import Casework.Proofs.CaseFile.Apart
import Casework.Proofs.Http.Refused
import Casework.Proofs.Case.Transitions
import Casework.Proofs.Store.Integrity
import Casework.Proofs.Case.Closing
import Casework.Proofs.Search.Paging
import Casework.Proofs.Search.Combined
import Casework.Proofs.Search.Spreadsheet
import Casework.Proofs.Case.Decisions
import Casework.Proofs.Document.Licences
import Casework.Proofs.Chief.Handed
import Casework.Proofs.Case.Correspondence
import Casework.Proofs.Search.Actions
import Casework.Proofs.Calendar.Written
import Casework.Proofs.Json.Text
import Casework.Proofs.Json.Codecs
import Casework.Proofs.Record.RoundTrip
import Casework.Proofs.Search.Patterns
import Casework.Proofs.Case.Withdrawals
import Casework.Proofs.Reference.Versions
import Casework.Proofs.Document.Filled
import Casework.Proofs.Search.Spelled
import Casework.Proofs.Packs.Latest
import Casework.Proofs.Search.Commodities
import Casework.Proofs.Search.Handover
import Casework.Proofs.Reference.Mistyped
import Casework.Proofs.Tasks.Lookups
import Casework.Proofs.Case.Messages

