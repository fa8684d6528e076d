import PocketShell.Main
import PocketShell.Proofs.Audience
import PocketShell.Proofs.Checkpoint.CutShort
import PocketShell.Proofs.Desk.Inert
import PocketShell.Proofs.Editor.Checked
import PocketShell.Proofs.Editor.Pasting
import PocketShell.Proofs.Editor.Shifted
import PocketShell.Proofs.Editor.Typing
import PocketShell.Proofs.Pipeline.IgnoreCase
import PocketShell.Proofs.Pipeline.Redirect
import PocketShell.Proofs.Session.Creation
import PocketShell.Proofs.Session.Going
import PocketShell.Proofs.Session.Removal
import PocketShell.Proofs.Shell.Completion
import PocketShell.Proofs.Shell.Confinement
import PocketShell.Proofs.Shell.Display
import PocketShell.Proofs.Shell.Editing
import PocketShell.Proofs.Shell.Keyboard
import PocketShell.Proofs.Shell.Permission
import PocketShell.Proofs.Shell.Pipeline
import PocketShell.Proofs.Shell.Shared
import PocketShell.Proofs.Shell.UpToDate
import PocketShell.Proofs.Store.Damaged
import PocketShell.Proofs.Store.Unwritten
import PocketShell.Proofs.Text.Words
import PocketShell.Proofs.Wildcard
import PocketShell.Rehearsal
