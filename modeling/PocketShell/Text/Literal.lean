import PocketShell.Text.Case
import PocketShell.Text.PrintableTable

/-!
Quoted literals, as messages and nested values show texts: single quotes, or double quotes when
the text holds a single quote and no double one. Characters that cannot be printed are written
as escapes.
-/

namespace PocketShell.Text

def isPrintable (c : CodePoint) : Bool := inRanges printableRanges c.toNat

def hex (width n : Nat) : Text := padStart '0' width ((Nat.toDigits 16 n).map .char)

def literalChar (quote c : CodePoint) : Text :=
  if c = quote ∨ c = '\\' then ['\\', c]
  else if c = '\n' then ['\\', 'n']
  else if c = '\r' then ['\\', 'r']
  else if c = '\t' then ['\\', 't']
  else if isPrintable c then [c]
  else if c.toNat < 0x100 then (['\\', 'x'] : Text) ++ hex 2 c.toNat
  else if c.toNat < 0x10000 then (['\\', 'u'] : Text) ++ hex 4 c.toNat
  else (['\\', 'U'] : Text) ++ hex 8 c.toNat

def literalQuote (t : Text) : CodePoint := if t.contains '\'' && !t.contains '"' then '"' else '\''

def literal (t : Text) : Text :=
  [literalQuote t] ++ t.flatMap (literalChar (literalQuote t)) ++ [literalQuote t]

end PocketShell.Text
