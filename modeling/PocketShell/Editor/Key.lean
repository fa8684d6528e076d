import PocketShell.Text.Basic

/-!
Keys and what they ask for. A key has a name, of one character for a key that types a
character, and the modifiers that were held down with it.
-/

namespace PocketShell

structure Key where
  name : Text
  shift : Bool := false
  control : Bool := false
  metaKey : Bool := false
  deriving DecidableEq, Repr

/-- What a key asks for in normal mode. -/
inductive Action
  | left
  | down
  | up
  | right
  | lineStart
  | lineEnd
  | lastLine
  | insertHere
  | insertAfter
  | openBelow
  | openAbove
  | deleteChar
  | truncate
  | startDelete
  | yankLine
  | paste
  | startCommand
  deriving DecidableEq, Repr

/-- Motions over whole rows: the current one, or it and a neighbour. -/
inductive RowMotion
  | current
  | below
  | above
  deriving DecidableEq, Repr

/-- Motions within the current line. -/
inductive SpanMotion
  | toEnd
  | toStart
  | word
  | right
  | left
  deriving DecidableEq, Repr

inductive Motion
  | rows (m : RowMotion)
  | span (m : SpanMotion)
  deriving DecidableEq, Repr

namespace Key

def plain (name : Text) : Key := { name := name }

/-- The character that the key types. -/
def typed? (k : Key) : Option CodePoint :=
  match k.name with
  | [c] => if k.control || k.metaKey then none else some c
  | _ => none

def isSmall (k : Key) (letter : CodePoint) : Bool := k.name == [letter] && !k.shift

/-- Shift may show in the name of the key or as a modifier. -/
def isCapital (k : Key) (capital small : CodePoint) : Bool :=
  k.name == [capital] || (k.name == [small] && k.shift)

def isNamed (k : Key) (letter : CodePoint) (arrow : Text) : Bool :=
  k.name == [letter] || k.name == arrow

def action? (k : Key) : Option Action :=
  if k.isNamed 'h' "ArrowLeft" then some .left
  else if k.isNamed 'j' "ArrowDown" then some .down
  else if k.isNamed 'k' "ArrowUp" then some .up
  else if k.isNamed 'l' "ArrowRight" then some .right
  else if k.name = (['0'] : Text) then some .lineStart
  else if k.name = (['$'] : Text) then some .lineEnd
  else if k.isCapital 'G' 'g' then some .lastLine
  else if k.isSmall 'i' then some .insertHere
  else if k.isSmall 'a' then some .insertAfter
  else if k.isSmall 'o' then some .openBelow
  else if k.isCapital 'O' 'o' then some .openAbove
  else if k.isSmall 'x' then some .deleteChar
  else if k.isCapital 'D' 'd' then some .truncate
  else if k.isSmall 'd' then some .startDelete
  else if k.isCapital 'Y' 'y' then some .yankLine
  else if k.isSmall 'p' then some .paste
  else if k.name = ([':'] : Text) then some .startCommand
  else none

/-- What a key means behind `d`; the modifiers do not count. -/
def motion? (k : Key) : Option Motion :=
  if k.name = (['d'] : Text) then some (.rows .current)
  else if k.isNamed 'j' "ArrowDown" then some (.rows .below)
  else if k.isNamed 'k' "ArrowUp" then some (.rows .above)
  else if k.name = (['$'] : Text) then some (.span .toEnd)
  else if k.name = (['0'] : Text) then some (.span .toStart)
  else if k.name = (['w'] : Text) then some (.span .word)
  else if k.isNamed 'l' "ArrowRight" then some (.span .right)
  else if k.isNamed 'h' "ArrowLeft" then some (.span .left)
  else none

def isEscape (k : Key) : Bool := k.name == "Escape"

def isEnter (k : Key) : Bool := k.name == "Enter"

def isBackspace (k : Key) : Bool := k.name == "Backspace"

end Key
end PocketShell
