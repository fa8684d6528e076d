import PocketShell.Text.Basic

/-!
Wildcard arguments: `*` stands for any run of characters and `?` for any single one. A pattern
matches a whole name; a line feed at the end of a name may be left over. An argument that
matches no name stands for itself.
-/

namespace PocketShell.Wildcard

/-- Whether the pattern matches all of the text. -/
def covers : Text → Text → Bool
  | [], t => t.isEmpty
  | p :: pattern, t =>
      if p = '*' then Text.anySuffix (covers pattern) t
      else match t with
        | [] => false
        | c :: rest => (p = '?' || p = c) && covers pattern rest

def matchesName (pattern name : Text) : Bool :=
  covers pattern name || (name.getLast? == some (.char '\n') && covers pattern name.dropLast)

def isPattern (argument : Text) : Bool := argument.contains '*' || argument.contains '?'

def expandOne (names : List Text) (argument : Text) : List Text :=
  if isPattern argument then
    match names.filter (matchesName argument) with
    | [] => [argument]
    | found => found
  else [argument]

def expand (arguments names : List Text) : List Text := arguments.flatMap (expandOne names)

/-- What it means for a text to match a pattern as a whole. -/
inductive Matches : Text → Text → Prop
  | done : Matches [] []
  | run {pattern rest : Text} (skipped : Text) :
      Matches pattern rest → Matches ('*' :: pattern) (skipped ++ rest)
  | any {pattern rest : Text} (c : CodePoint) :
      Matches pattern rest → Matches ('?' :: pattern) (c :: rest)
  | same {pattern rest : Text} (c : CodePoint) :
      c ≠ '*' → c ≠ '?' → Matches pattern rest → Matches (c :: pattern) (c :: rest)

end PocketShell.Wildcard
