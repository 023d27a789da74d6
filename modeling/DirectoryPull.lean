import DirectoryPull.Bench
import DirectoryPull.Form.Reply
import DirectoryPull.Form.Schema
import DirectoryPull.Sample
import DirectoryPull.Server.Scripted
import DirectoryPull.Proofs.Frame
import DirectoryPull.Proofs.Pull.Steps
import DirectoryPull.Proofs.Pull.Script
import DirectoryPull.Proofs.Server.Numbering
import DirectoryPull.Proofs.Pull.Pages
import DirectoryPull.Proofs.Pull.Rewinds
import DirectoryPull.Proofs.Server.Following
import DirectoryPull.Proofs.Server.Outlines
import DirectoryPull.Proofs.Client.AttributeFilter
import DirectoryPull.Proofs.Pull.Turns
import DirectoryPull.Proofs.Client.Failures
import DirectoryPull.Proofs.Pull.Chain
import DirectoryPull.Proofs.Client.Confined
import DirectoryPull.Proofs.Pull.Ends
import DirectoryPull.Proofs.Pull.Layouts
import DirectoryPull.Proofs.Client.Binding
import DirectoryPull.Proofs.Form.Replies
import DirectoryPull.Proofs.Schema.Catalog
import DirectoryPull.Proofs.Pull.Filtered
import DirectoryPull.Proofs.Client.Lives
import DirectoryPull.Proofs.Pull.Histories
import DirectoryPull.Proofs.Schema.FlagWord
import DirectoryPull.Proofs.Pull.ValidReplies
import DirectoryPull.Proofs.Server.Removals
import DirectoryPull.Proofs.Client.Roster
import DirectoryPull.Proofs.Views
import DirectoryPull.Proofs.Client.Tasks
import DirectoryPull.Proofs.Pull.Termination
import DirectoryPull.Proofs.Pull.Log
import DirectoryPull.Proofs.Form.AttributeSets
import DirectoryPull.Proofs.Client.Records
import DirectoryPull.Proofs.Client.StoredValues
import DirectoryPull.Proofs.Server.Ledger
