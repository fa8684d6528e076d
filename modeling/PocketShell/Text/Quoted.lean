import PocketShell.Text.Blank

/-!
Words in which quotes may hide separators. A quote character counts only where a word begins;
such a word ends right at the next quote of the same kind, quotes included. Every other word
ends at a space, tab, carriage return or line feed. When a quote stays open, the text is cut
at blanks instead, as if it held no quotes.
-/

namespace PocketShell.Text

def isQuote (c : CodePoint) : Bool := c == '\'' || c == '"'

def isSeparator (c : CodePoint) : Bool := c == ' ' || c == '\t' || c == '\r' || c == '\n'

/-- Where a reader of quoted words stands: between two words, in a plain word, or behind the
opening quote of a quoted one. The characters of the current word come last first. -/
inductive Reading
  | between
  | plain (sofar : Text)
  | quoted (quote : CodePoint) (sofar : Text)

/-- The words of a text, or nothing when a quote stays open. -/
def readQuoted : Reading → Text → Option (List Text)
  | .between, [] => some []
  | .plain sofar, [] => some [sofar.reverse]
  | .quoted _ _, [] => none
  | .between, c :: t =>
      if isSeparator c then readQuoted .between t
      else if isQuote c then readQuoted (.quoted c [c]) t
      else readQuoted (.plain [c]) t
  | .plain sofar, c :: t =>
      if isSeparator c then (readQuoted .between t).map (sofar.reverse :: ·)
      else readQuoted (.plain (c :: sofar)) t
  | .quoted quote sofar, c :: t =>
      if c = quote then (readQuoted .between t).map ((c :: sofar).reverse :: ·)
      else readQuoted (.quoted quote (c :: sofar)) t

def quotedWords (t : Text) : List Text := (readQuoted .between t).getD (words t)

/-- Takes away one pair of equal quotes around the text. -/
def unquote : Text → Text
  | [] => []
  | [c] => [c]
  | c :: d :: t =>
      if isQuote c && (d :: t).getLast? == some c then (d :: t).dropLast else c :: d :: t

end PocketShell.Text
