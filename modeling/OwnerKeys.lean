import OwnerKeys.Main
import OwnerKeys.Store.Faulty
import OwnerKeys.Store.Memory
import OwnerKeys.Proofs.Text.Ascii
import OwnerKeys.Proofs.Text.GuidText
import OwnerKeys.Proofs.Text.GuidParsing
import OwnerKeys.Proofs.Text.GuidOrder
import OwnerKeys.Proofs.Text.Utf16
import OwnerKeys.Proofs.SignatureList.Framing
import OwnerKeys.Proofs.SignatureList.Entries
import OwnerKeys.Proofs.SignatureList.Grammar
import OwnerKeys.Proofs.SignatureList.RoundTrip
import OwnerKeys.Proofs.Machine.Frame
import OwnerKeys.Proofs.Store.Laws
import OwnerKeys.Proofs.Store.Paths
import OwnerKeys.Proofs.Store.Efivars
import OwnerKeys.Proofs.Request.Retrying
import OwnerKeys.Proofs.Request.Dialogue
import OwnerKeys.Proofs.Request.Query
import OwnerKeys.Proofs.Request.Staging
import OwnerKeys.Proofs.Request.Binding
import OwnerKeys.Proofs.Request.CommitPoint
import OwnerKeys.Proofs.Request.Eligibility
import OwnerKeys.Proofs.Request.Merging
import OwnerKeys.Proofs.Request.Rollback
import OwnerKeys.Proofs.Request.Reissue
import OwnerKeys.Proofs.Request.Gate
import OwnerKeys.Proofs.Request.CommitInMemory
import OwnerKeys.Proofs.Request.Session
import OwnerKeys.Proofs.Request.Pairing
import OwnerKeys.Proofs.SignatureList.Truncation
import OwnerKeys.Proofs.Request.Accounting
import OwnerKeys.Proofs.Machine.Simulation
import OwnerKeys.Proofs.Request.Agreement
import OwnerKeys.Proofs.Request.Services
import OwnerKeys.Proofs.Store.Refinement
import OwnerKeys.Proofs.Request.Order
import OwnerKeys.Proofs.Store.Recorded
import OwnerKeys.Proofs.Request.Justification
import OwnerKeys.Proofs.SignatureList.Concatenation
import OwnerKeys.Proofs.Store.Changes
import OwnerKeys.Proofs.Request.Batches
import OwnerKeys.Proofs.Machine.Footprint
import OwnerKeys.Proofs.Request.Footprint
import OwnerKeys.Proofs.Store.SortedMap
import OwnerKeys.Proofs.Store.Independence
import OwnerKeys.Proofs.Store.Edits
import OwnerKeys.Proofs.Request.Independence
import OwnerKeys.Proofs.CommandLine.Footprint
import OwnerKeys.Proofs.CommandLine.ExitStatus
import OwnerKeys.Proofs.Request.Committing
import OwnerKeys.Proofs.Request.Secrecy
import OwnerKeys.Proofs.Request.Supersession
import OwnerKeys.Proofs.Export.Numbering
import OwnerKeys.Proofs.Export.Files
import OwnerKeys.Proofs.Export.Variables
import OwnerKeys.Proofs.CommandLine.ExportedKeys
import OwnerKeys.Proofs.Request.Deletion
import OwnerKeys.Proofs.Request.Challenge
import OwnerKeys.Proofs.Request.NewPassword
import OwnerKeys.Proofs.Request.Lookups
import OwnerKeys.Proofs.CommandLine.KeyTest
import OwnerKeys.Proofs.SignatureList.Scanning
import OwnerKeys.Proofs.SignatureList.Places
import OwnerKeys.Proofs.SignatureList.Channels
import OwnerKeys.Proofs.Request.Progress
import OwnerKeys.Proofs.Store.Restoring
import OwnerKeys.Proofs.Store.Calls
import OwnerKeys.Proofs.Store.Steps
import OwnerKeys.Proofs.Store.Handling
import OwnerKeys.Proofs.Request.Revocation
import OwnerKeys.Proofs.Request.Validation
import OwnerKeys.Proofs.Text.Lines
import OwnerKeys.Proofs.Store.History
