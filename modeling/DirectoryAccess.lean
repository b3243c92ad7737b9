import DirectoryAccess.Action
import DirectoryAccess.Attribute.Set
import DirectoryAccess.Attribute.Table
import DirectoryAccess.Attribute.Value
import DirectoryAccess.Client
import DirectoryAccess.Client.Recording
import DirectoryAccess.Description
import DirectoryAccess.Description.Selection
import DirectoryAccess.Description.Settings
import DirectoryAccess.Document
import DirectoryAccess.Document.Reader
import DirectoryAccess.Document.Writer
import DirectoryAccess.Entry
import DirectoryAccess.Fault
import DirectoryAccess.Filter
import DirectoryAccess.Filter.Matching
import DirectoryAccess.Filter.Written
import DirectoryAccess.Form.Entry
import DirectoryAccess.Form.Fault
import DirectoryAccess.Form.Listing
import DirectoryAccess.Form.Predicate
import DirectoryAccess.Form.Search
import DirectoryAccess.Form.Settings
import DirectoryAccess.Form.Summary
import DirectoryAccess.Form.Tagged
import DirectoryAccess.Form.Typed
import DirectoryAccess.Form.Value
import DirectoryAccess.Form.Wire
import DirectoryAccess.Listing
import DirectoryAccess.Mapping
import DirectoryAccess.Memo
import DirectoryAccess.Name
import DirectoryAccess.Name.Hashing
import DirectoryAccess.Name.Reader
import DirectoryAccess.Name.Written
import DirectoryAccess.Predicate
import DirectoryAccess.Predicate.Filter
import DirectoryAccess.Projection
import DirectoryAccess.Proofs.Name.Value
import DirectoryAccess.Proofs.Text.Blank
import DirectoryAccess.Proofs.Text.Octets
import DirectoryAccess.Record
import DirectoryAccess.Repository
import DirectoryAccess.Schema
import DirectoryAccess.Search
import DirectoryAccess.Selection
import DirectoryAccess.Server
import DirectoryAccess.Session
import DirectoryAccess.Settings
import DirectoryAccess.Store
import DirectoryAccess.Text.Blank
import DirectoryAccess.Text.Case
import DirectoryAccess.Text.CaseTable
import DirectoryAccess.Text.Hexadecimal
import DirectoryAccess.Text.Numeral
import DirectoryAccess.Text.Octets
import DirectoryAccess.Text.PrintTable
import DirectoryAccess.Text.Quoted
import DirectoryAccess.Text.Ranges
import DirectoryAccess.Text.Substring
import DirectoryAccess.Wire
import DirectoryAccess.Wire.Entries
import DirectoryAccess.Wire.Script
import DirectoryAccess.Proofs.Name.RoundTrip
import DirectoryAccess.Proofs.Filter.Core
import DirectoryAccess.Proofs.Filter.Unambiguous
import DirectoryAccess.Proofs.Filter.Agreement
import DirectoryAccess.Proofs.Filter.Pieces
import DirectoryAccess.Proofs.Outcome
import DirectoryAccess.Proofs.Predicate.Meaning
import DirectoryAccess.Proofs.Attribute.Distinct
import DirectoryAccess.Proofs.Store.Writing
import DirectoryAccess.Proofs.Mapping.Changes
import DirectoryAccess.Proofs.Repository.Save
import DirectoryAccess.Proofs.Repository.WriteBack
import DirectoryAccess.Proofs.Wire.Changes
import DirectoryAccess.Proofs.Store.Searching
import DirectoryAccess.Proofs.Store.Register
import DirectoryAccess.Proofs.Store.History
import DirectoryAccess.Proofs.Repository.Searching
import DirectoryAccess.Proofs.Selection.Results
import DirectoryAccess.Proofs.Memo.Views
import DirectoryAccess.Proofs.Selection.Narrowing
import DirectoryAccess.Proofs.Repository.Placement
import DirectoryAccess.Proofs.Repository.Removal
import DirectoryAccess.Proofs.Form.Value
import DirectoryAccess.Proofs.Form.Search
import DirectoryAccess.Proofs.Session.Plan
import DirectoryAccess.Proofs.Session.Traffic
import DirectoryAccess.Proofs.Session.Setup
import DirectoryAccess.Proofs.Session.Step
import DirectoryAccess.Proofs.Session.LifeCycle
import DirectoryAccess.Proofs.Name.Grammar
import DirectoryAccess.Proofs.Name.Identity
import DirectoryAccess.Proofs.Memo.Calls
import DirectoryAccess.Proofs.Wire.Received
import DirectoryAccess.Proofs.Name.Hierarchy
import DirectoryAccess.Proofs.Attribute.Reference
import DirectoryAccess.Proofs.Filter.Gaps
import DirectoryAccess.Proofs.Text.Words
import DirectoryAccess.Proofs.Filter.OwnPieces
import DirectoryAccess.Proofs.Client.Handing
import DirectoryAccess.Proofs.Predicate.Expressible
import DirectoryAccess.Proofs.Selection.Refused
import DirectoryAccess.Proofs.Store.Finding
import DirectoryAccess.Proofs.Session.Limits
import DirectoryAccess.Proofs.Repository.Confined
import DirectoryAccess.Proofs.Turns
import DirectoryAccess.Proofs.Repository.Operations
import DirectoryAccess.Proofs.Repository.Batches
import DirectoryAccess.Proofs.Record.Choice
import DirectoryAccess.Proofs.Record.Making
import DirectoryAccess.Proofs.Text.Broken
import DirectoryAccess.Proofs.Predicate.Binary
import DirectoryAccess.Proofs.Text.Recased
import DirectoryAccess.Proofs.Filter.Recased
import DirectoryAccess.Proofs.Predicate.Properties
import DirectoryAccess.Proofs.Wire.Texts
