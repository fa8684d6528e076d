import PocketShell.Text.Literal

/-!
The bytes of a text in a file. A half has none, so a text with a half in it cannot be written, while
bytes that are read never give one.
-/

namespace PocketShell

/-- Why a text has no bytes: the halves that stand at a position of it. -/
structure Unencodable where
  position : Nat
  halves : Text
  deriving DecidableEq, Repr

namespace Unencodable

def place (u : Unencodable) : Text :=
  match u.halves with
  | [c] => "character '\\u" ++ Text.hex 4 c.toNat ++ "' in position " ++ Text.ofNat u.position
  | _ => "characters in position " ++ Text.ofNat u.position ++ "-"
      ++ Text.ofNat (u.position + u.halves.length - 1)

def message (u : Unencodable) : Text :=
  "'utf-8' codec can't encode " ++ u.place ++ ": surrogates not allowed"

end Unencodable

namespace Text

/-- The first code point that may not be written, and the halves that follow it at once. -/
def unencodable? (forbidden : CodePoint → Bool) (t : Text) : Option Unencodable :=
  match t.dropWhile fun c => !forbidden c with
  | [] => none
  | rest => some ⟨t.length - rest.length, rest.takeWhile CodePoint.isHalf⟩

def encode (t : Text) : Except Unencodable ByteArray :=
  match t.unencodable? CodePoint.isHalf with
  | some u => .error u
  | none => .ok (String.ofList (t.filterMap CodePoint.char?)).toUTF8

/-- The bytes of the pieces in front of the first one that has none, and what is wrong with that. -/
def encodeAll : List Text → ByteArray × Except Unencodable Unit
  | [] => (.empty, .ok ())
  | piece :: pieces =>
      match piece.encode with
      | .error u => (.empty, .error u)
      | .ok bytes =>
          let (rest, result) := encodeAll pieces
          (bytes ++ rest, result)

/-- The text as the host can show it, with a mark for each half. -/
def shown (t : Text) : String := String.ofList (t.map fun c => c.char?.getD '\ufffd')

def decode (bytes : ByteArray) : Option Text :=
  (String.fromUTF8? bytes).map fun s => s.toList.map .char

end Text
end PocketShell
