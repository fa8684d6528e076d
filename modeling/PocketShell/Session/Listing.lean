import PocketShell.Calendar
import PocketShell.FileSize
import PocketShell.Session.Basic

/-!
Listings of directories and drawings of trees. A listing puts directories before files, each
group in the order of names, and leaves out names that begin with a dot unless asked for them.
A drawing has one line for each node below the directory, in the order of the entries.
-/

namespace PocketShell

structure ListingStyle where
  showHidden : Bool
  long : Bool
  human : Bool
  /-- One name a line, for another stage to read. -/
  piped : Bool
  deriving DecidableEq, Repr

namespace Listing

abbrev Entry := Text × Node

def isHidden (entry : Entry) : Bool := entry.1.head? == some (.char '.')

def before (a b : Entry) : Bool :=
  if a.2.isDir = b.2.isDir then Text.ble a.1 b.1 else a.2.isDir

/-- The entries that a listing shows, in its order. -/
def shown (showHidden : Bool) (d : Directory) : List Entry :=
  (d.toList.filter fun entry => showHidden || !isHidden entry).mergeSort before

def label (entry : Entry) : Text := if entry.2.isDir then entry.1 ++ (['/'] : Text) else entry.1

def sizeText (human : Bool) : Node → Text
  | .dir _ => "4096"
  | .file content => if human then humanSize content.length else Text.ofNat content.length

def longLine (now : Moment) (user directory : Text) (human : Bool) (entry : Entry) : Text :=
  let owner := ownerOf (Path.join directory entry.1) user
  let (mode, links) : Text × Text :=
    if entry.2.isDir then (directoryMode, ['2']) else (fileMode, ['1'])
  mode ++ " " ++ links ++ " " ++ Text.padEnd 8 owner.user ++ " " ++ Text.padEnd 8 owner.group ++ " "
    ++ Text.padStart ' ' (if human then 5 else 8) (sizeText human entry.2) ++ " "
    ++ now.listingStamp ++ " " ++ entry.1

/-- The listing of a directory; one that shows no entry has no text. -/
def text (style : ListingStyle) (now : Moment) (user path : Text) (d : Directory) : Option Text :=
  match shown style.showHidden d with
  | [] => none
  | entries =>
      some <|
        if style.long then Text.unlines (entries.map (longLine now user path style.human))
        else if style.piped then Text.unlines (entries.map label)
        else Text.join "    " (entries.map label)

end Listing

namespace Drawing

/-- How an entry hangs on the line above it, and what stands before the entries below it. -/
def branch (isLast : Bool) : Text := if isLast then "└── " else "├── "

def trunk (isLast : Bool) : Text := if isLast then "    " else "│   "

def isLast : Directory → Bool
  | .nil => true
  | .cons _ _ _ => false

mutual

def nodeLines (indent : Text) : Node → List Text
  | .file _ => []
  | .dir d => entryLines indent d

def entryLines (indent : Text) : Directory → List Text
  | .nil => []
  | .cons name node rest =>
      (indent ++ branch (isLast rest) ++ Listing.label (name, node))
        :: (nodeLines (indent ++ trunk (isLast rest)) node ++ entryLines indent rest)

end

def header (path : Text) : Text :=
  if path = (['/'] : Text) then ['/'] else path ++ (['/'] : Text)

def text (path : Text) (d : Directory) : Text :=
  (header path :: entryLines [] d).flatMap (· ++ (['\n'] : Text))

end Drawing
end PocketShell
