import PocketShell.Text.Blank

/-!
Redirects at the end of a command: `>> target` appends and `> target` overwrites. A redirect
needs something before its operator and something behind it; an append operator anywhere is
preferred to an overwrite operator that stands before it.
-/

namespace PocketShell

inductive WriteMode
  | overwrite
  | append
  deriving DecidableEq, Repr

structure Redirect where
  target : Text
  mode : WriteMode
  deriving DecidableEq, Repr

namespace Redirect

/-- What stands before and behind the first `operator` that has something behind it. -/
def cutAt (operator : Text) : Text → Option (Text × Text)
  | [] => none
  | c :: t =>
      if operator.isPrefixOf (c :: t) && decide (operator.length < (c :: t).length) then
        some ([], (c :: t).drop operator.length)
      else (cutAt operator t).map fun (before, after) => (c :: before, after)

/-- As `cutAt`, for operators that also have something before them. -/
def cutInside (operator : Text) : Text → Option (Text × Text)
  | [] => none
  | c :: t => (cutAt operator t).map fun (before, after) => (c :: before, after)

def parse (text : Text) : Text × Option Redirect :=
  match cutInside ['>', '>'] text with
  | some (before, after) => (Text.trim before, some ⟨Text.trim after, .append⟩)
  | none =>
      match cutInside ['>'] text with
      | some (before, after) => (Text.trim before, some ⟨Text.trim after, .overwrite⟩)
      | none => (text, none)

end Redirect
end PocketShell
