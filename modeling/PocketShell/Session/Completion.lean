import PocketShell.Session.Basic
import PocketShell.Text.Blank

/-!
What may follow a line that has been begun: command names for its first word, entries of a
directory for a later one. A later word is completed behind its last slash.
-/

namespace PocketShell

inductive CompletionKind
  | command
  | path
  deriving DecidableEq, Repr

structure Completion where
  kind : CompletionKind
  found : List Text
  /-- The word that is completed. -/
  word : Text
  /-- The part of it that an entry must begin with, when a directory was searched. -/
  nameStart : Option Text
  deriving DecidableEq, Repr

inductive CompletionFault
  | outOfRange
  deriving DecidableEq, Repr

def CompletionFault.message : CompletionFault → Text
  | .outOfRange => "list index out of range"

namespace Session

/-- The word that the cursor stands behind; behind a blank it is empty. -/
def lastWord (line : Text) : Text :=
  match line.getLast? with
  | none => []
  | some c => if isBlank c then [] else (Text.words line).getLastD []

def entriesFor (nameStart : Text) (d : Directory) : List Text :=
  (d.toList.filter fun entry => nameStart.isPrefixOf entry.1).map fun (name, node) =>
    if node.isDir then name ++ (['/'] : Text) else name

def completePath (s : Session) (word : Text) : Completion :=
  let (directory, nameStart) := match Text.cutLast '/' word with
    | some (before, after) => (s.resolve (before ++ (['/'] : Text)), after)
    | none => (s.path, word)
  match s.nodeAt directory with
  | some (.dir d) => ⟨.path, entriesFor nameStart d, word, some nameStart⟩
  | _ => ⟨.path, [], word, none⟩

def complete (s : Session) (line : Text) : Completion :=
  let line := Text.trimStart line
  if line.any isBlank then s.completePath (lastWord line)
  else ⟨.command, s.registry.keys.filter line.isPrefixOf, line, none⟩

/-- The words that may stand in the place of the last one. -/
def completionOptions (s : Session) (line : Text) : List Text :=
  let completion := s.complete line
  match completion.kind with
  | .command => completion.found
  | .path =>
      let kept := completion.word.length - (completion.nameStart.getD []).length
      completion.found.map (completion.word.take kept ++ ·)

/-- The option with a number, from zero; behind the last one there is none. A negative number
counts from the end, and must not go beyond the first option. -/
def completionOption (s : Session) (line : Text) (n : Int) : Except CompletionFault (Option Text) :=
  let options := s.completionOptions line
  match n with
  | .ofNat k => .ok options[k]?
  | .negSucc k =>
      match options.reverse[k]? with
      | some option => .ok (some option)
      | none => .error .outOfRange

end Session
end PocketShell
