import PocketShell.Pipeline.GrepFilter
import PocketShell.Pipeline.Redirect

/-!
The stages of a command line: a command, at most one `grep` filter behind the first `|`, and at
most one redirect.
-/

namespace PocketShell

structure Stages where
  command : Text
  filter : Option GrepFilter
  redirect : Option Redirect
  deriving DecidableEq, Repr

namespace Stages

/-- What follows the word `grep` when a text begins with it. -/
def grepArguments (text : Text) : Option Text :=
  match text with
  | 'g' :: 'r' :: 'e' :: 'p' :: [] => some []
  | 'g' :: 'r' :: 'e' :: 'p' :: ' ' :: rest => some (' ' :: rest)
  | _ => none

/-- Parts a line at its first `|` if `grep` follows; any other line is one command. -/
def ofPipe (line : Text) : Stages :=
  match Text.cutFirst '|' line with
  | none => ⟨line, none, none⟩
  | some (before, after) =>
      match grepArguments (Text.trim after) with
      | none => ⟨line, none, none⟩
      | some arguments =>
          let (arguments, redirect) := Redirect.parse (Text.trim arguments)
          ⟨Text.trim before, GrepFilter.parse arguments, redirect⟩

/-- All stages of a line: a redirect of the command counts if the filter has none. -/
def ofLine (line : Text) : Stages :=
  let stages := ofPipe line
  match stages.redirect with
  | some _ => stages
  | none =>
      let (command, redirect) := Redirect.parse stages.command
      ⟨command, stages.filter, redirect⟩

end Stages
end PocketShell
