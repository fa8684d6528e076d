import PocketShell.Calendar
import PocketShell.FileTree.Basic

/-!
The trees that a session may start from: the default one and one with more to look at.
-/

namespace PocketShell.Directory

def single (name : Text) (node : Node) : Directory := .cons name node .nil

def hostnameFile : Node := .file "localhost\n"

def defaultTree (user : Text) : Directory :=
  ofList
    [("home", .dir (single user (.dir (ofList
        [("README.md", .file "# Welcome\n\nThis is a simple Unix shell emulator.\n"),
         ("example.txt", .file "This is an example file.\n")])))),
     ("etc", .dir (single "hostname" hostnameFile)),
     ("tmp", .dir .nil)]

def welcomeText : Text := Text.unlines
  ["# Welcome to Unix Shell",
   "",
   "This is an in-memory Unix shell emulator.",
   "",
   "## Available Commands",
   "",
   "Type \x60help\x60 to see all available commands.",
   "",
   "## Examples",
   "",
   "- \x60ls -la\x60 - List all files including hidden ones",
   "- \x60cat example.txt\x60 - Display file contents",
   "- \x60mkdir mydir\x60 - Create a new directory",
   "- \x60cd mydir\x60 - Change to that directory",
   "- \x60vim file.txt\x60 - Edit a file with the vi editor",
   "",
   "Have fun!",
   ""]

def exampleText : Text := Text.unlines
  ["This is an example text file.",
   "",
   "You can view this with: cat example.txt",
   "You can edit it with: vim example.txt",
   "",
   "Try creating your own files with touch or vim!",
   ""]

def notesText (today : Moment) : Text := Text.unlines
  ["Development Notes",
   "==================",
   "",
   "- Project started on " ++ today.isoDate,
   "- This is a minimal Unix shell emulator",
   "- Add your own notes here!",
   ""]

def exampleTree (user : Text) (today : Moment) : Directory :=
  ofList
    [("home", .dir (single user (.dir (ofList
        [("README.md", .file welcomeText),
         ("example.txt", .file exampleText),
         ("notes.txt", .file (notesText today))])))),
     ("etc", .dir (ofList
        [("hostname", hostnameFile),
         ("motd", .file "Welcome to Unix Shell!\n\nType \"help\" for available commands.\n")])),
     ("tmp", .dir .nil)]

end PocketShell.Directory
