import PocketShell.Json.Value
import PocketShell.Decimal.Shortest

/-!
Writing JSON on one line, with a blank after each comma and colon, and a flat object of strings
over several lines. Only the quote, the backslash and control characters are escaped.
-/

namespace PocketShell.Json

def hexDigit (n : Nat) : CodePoint := (Nat.digitChar (n % 16))

def escape (c : CodePoint) : Text :=
  if c = '"' then ['\\', '"']
  else if c = '\\' then ['\\', '\\']
  else if c = '\n' then ['\\', 'n']
  else if c = '\r' then ['\\', 'r']
  else if c = '\t' then ['\\', 't']
  else if c = '\x0c' then ['\\', 'f']
  else if c = '\x08' then ['\\', 'b']
  else if c.toNat < 0x20 then ['\\', 'u', '0', '0', hexDigit (c.toNat / 16), hexDigit c.toNat]
  else [c]

def quote (t : Text) : Text := .char '"' :: (t.flatMap escape ++ (['"'] : Text))

def writeFloating : Binary64 → Text
  | .nan => "NaN"
  | .infinite negative => (if negative then "-Infinity" else "Infinity")
  | x => x.text

mutual

def Value.write : Value → Text
  | .null => "null"
  | .boolean b => (if b then "true" else "false")
  | .integer n => Text.ofInt n
  | .floating x => writeFloating x
  | .string t => quote t
  | .array .nil => ['[', ']']
  | .array (.cons v rest) => '[' :: (v.write ++ rest.writeTail)
  | .object .nil => ['\x7b', '\x7d']
  | .object (.cons name v rest) =>
      '\x7b' :: (quote name ++ ([':', ' '] : Text) ++ v.write ++ rest.writeTail)

/-- The items that follow the first one, and the closing bracket. -/
def Items.writeTail : Items → Text
  | .nil => [']']
  | .cons v rest => ([',', ' '] : Text) ++ v.write ++ rest.writeTail

/-- The members that follow the first one, and the closing brace. -/
def Members.writeTail : Members → Text
  | .nil => ['\x7d']
  | .cons name v rest =>
      ([',', ' '] : Text) ++ quote name ++ ([':', ' '] : Text) ++ v.write ++ rest.writeTail

end

/-- A record behind its first member, in pieces. -/
def recordRest : List (Text × Text) → List Text
  | [] => ["\n", "\x7d"]
  | (name, value) :: rest => ",\n  " :: quote name :: ": " :: quote value :: recordRest rest

/-- An object of strings, one member a line, indented by two blanks: the pieces in which it is
written. -/
def recordPieces : List (Text × Text) → List Text
  | [] => ["\x7b\x7d"]
  | (name, value) :: rest =>
      "\x7b" :: "\n  " :: quote name :: ": " :: quote value :: recordRest rest

def writeRecord (entries : List (Text × Text)) : Text := (recordPieces entries).flatten

end PocketShell.Json
