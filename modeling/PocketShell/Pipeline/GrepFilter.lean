import PocketShell.Text.Case
import PocketShell.Text.Quoted

/-!
The `grep` stage of a command line: which lines of the output are kept.
-/

namespace PocketShell

structure GrepFilter where
  pattern : Text
  ignoreCase : Bool
  invert : Bool
  deriving DecidableEq, Repr

namespace GrepFilter

/-- The filter that some words select so far; the first word that is no flag is the pattern. -/
structure Draft where
  ignoreCase : Bool := false
  invert : Bool := false
  pattern : Option Text := none

def Draft.add (draft : Draft) (word : Text) : Draft :=
  if word = (['-', 'i'] : Text) then { draft with ignoreCase := true }
  else if word = (['-', 'v'] : Text) then { draft with invert := true }
  else match draft.pattern with
    | none => { draft with pattern := some (Text.unquote word) }
    | some _ => draft

/-- Reads `[-i] [-v] pattern`; without a pattern there is no filter. -/
def parse (arguments : Text) : Option GrepFilter :=
  let draft := (Text.quotedWords arguments).foldl Draft.add {}
  draft.pattern.map fun pattern => ⟨pattern, draft.ignoreCase, draft.invert⟩

def finds (filter : GrepFilter) (line : Text) : Bool :=
  if filter.ignoreCase then Text.includes (Text.lower line) (Text.lower filter.pattern)
  else Text.includes line filter.pattern

def keeps (filter : GrepFilter) (line : Text) : Bool := filter.finds line != filter.invert

/-- Of two line feeds at the very end, one is dropped. -/
def dropDoubleEnd (t : Text) : Text :=
  if (['\n', '\n'] : Text).isSuffixOf t then t.dropLast else t

def apply (filter : GrepFilter) (output : Text) : Text :=
  dropDoubleEnd (Text.unlines ((Text.lines output).filter filter.keeps))

end GrepFilter
end PocketShell
