import ChatSpaces.Number.Text
import ChatSpaces.Text.Blank
import ChatSpaces.Time.Rfc3339
import ChatSpaces.Document.Json
import ChatSpaces.Answer
import ChatSpaces.Ident.Generator
import ChatSpaces.Visibility
import ChatSpaces.Role
import ChatSpaces.Policy
import ChatSpaces.Posting
import ChatSpaces.Table
import ChatSpaces.Store
import ChatSpaces.Schema
import ChatSpaces.Sql
import ChatSpaces.Row
import ChatSpaces.Main
import ChatSpaces.Proofs.Tables.Change
import ChatSpaces.Proofs.Tables.Integrity
import ChatSpaces.Proofs.Service.Outcome
import ChatSpaces.Proofs.Service.Effect
import ChatSpaces.Proofs.Service.Run
import ChatSpaces.Proofs.Service.Membership
import ChatSpaces.Proofs.Service.Posting
import ChatSpaces.Proofs.Store.Serial
import ChatSpaces.Proofs.Service.Clients
import ChatSpaces.Proofs.Service.Restraint
import ChatSpaces.Proofs.Service.Solo
import ChatSpaces.Proofs.Ident.Threads
import ChatSpaces.Proofs.Store.Integrity
import ChatSpaces.Proofs.Service.RestraintHistory
import ChatSpaces.Proofs.Tables.Procedure
import ChatSpaces.Proofs.Service.Validation
import ChatSpaces.Proofs.Service.Atomic
import ChatSpaces.Proofs.Tables.Visibility
import ChatSpaces.Proofs.Store.Visibility
import ChatSpaces.Proofs.Service.Reading
import ChatSpaces.Proofs.Tables.Compaction
import ChatSpaces.Proofs.Service.Compaction
import ChatSpaces.Proofs.Tables.Growth
import ChatSpaces.Proofs.Service.Course
import ChatSpaces.Proofs.Service.MembershipHistory
import ChatSpaces.Proofs.Service.Content
import ChatSpaces.Proofs.Store.Permanence
import ChatSpaces.Proofs.Service.Tombstones
import ChatSpaces.Proofs.Service.ContentHistory
import ChatSpaces.Proofs.Service.Drawing
import ChatSpaces.Proofs.Service.Refusal
import ChatSpaces.Proofs.Service.Editing
import ChatSpaces.Proofs.Service.Authority
import ChatSpaces.Proofs.Service.Sizes
import ChatSpaces.Proofs.Tables.Personal
import ChatSpaces.Proofs.Service.Independence
import ChatSpaces.Proofs.Ident.Fields
import ChatSpaces.Proofs.Tables.Paging
import ChatSpaces.Proofs.Service.PostingOrder
import ChatSpaces.Proofs.Service.PostedPages
import ChatSpaces.Proofs.Service.Deletion
import ChatSpaces.Proofs.Service.Departure
import ChatSpaces.Proofs.Posting
import ChatSpaces.Proofs.Service.Startup
import ChatSpaces.Proofs.Admin.Command
import ChatSpaces.Proofs.Service.Stamps
import ChatSpaces.Proofs.Preview
import ChatSpaces.Proofs.Ident.Encoding
import ChatSpaces.Proofs.Policy
import ChatSpaces.Proofs.Row
import ChatSpaces.Proofs.Tables.Listing
