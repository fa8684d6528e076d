import PocketShell.Text.CodePoint

/-!
Texts are lists of code points, so every length, index and column in this library counts code
points. This module holds what has no domain of its own: cutting a text at separators and
joining it again, searching, trimming, padding and the order of texts.
-/

namespace PocketShell

abbrev Text := List CodePoint

instance : Coe String Text := ⟨fun s => s.toList.map .char⟩

namespace Text

/-- The pieces between the characters that satisfy `p`; there is always at least one. -/
def splitWhen (p : CodePoint → Bool) : Text → List Text
  | [] => [[]]
  | c :: t =>
      if p c then [] :: splitWhen p t
      else match splitWhen p t with
        | [] => [[c]]
        | piece :: pieces => (c :: piece) :: pieces

def splitOn (sep : CodePoint) (t : Text) : List Text := splitWhen (· == sep) t

def join (sep : Text) : List Text → Text
  | [] => []
  | [t] => t
  | t :: u :: ts => t ++ sep ++ join sep (u :: ts)

def unlines (lines : List Text) : Text := join ['\n'] lines

def lines (t : Text) : List Text := splitOn '\n' t

/-- Whether some suffix of the text, the empty one included, satisfies `p`. -/
def anySuffix (p : Text → Bool) : Text → Bool
  | [] => p []
  | c :: t => p (c :: t) || anySuffix p t

/-- Whether `part` occurs in the text as a run of consecutive characters. -/
def includes (t part : Text) : Bool := anySuffix part.isPrefixOf t

/-- What stands before and after the first `sep`, if there is one. -/
def cutFirst (sep : CodePoint) : Text → Option (Text × Text)
  | [] => none
  | c :: t =>
      if c = sep then some ([], t)
      else (cutFirst sep t).map fun (before, after) => (c :: before, after)

/-- What stands before and after the last `sep`, if there is one. -/
def cutLast (sep : CodePoint) : Text → Option (Text × Text)
  | [] => none
  | c :: t =>
      match cutLast sep t with
      | some (before, after) => some (c :: before, after)
      | none => if c = sep then some ([], t) else none

def trimStartWhen (p : CodePoint → Bool) (t : Text) : Text := t.dropWhile p

def trimEndWhen (p : CodePoint → Bool) (t : Text) : Text := (t.reverse.dropWhile p).reverse

/-- Fills up with blanks on the right to at least `width` characters. -/
def padEnd (width : Nat) (t : Text) : Text :=
  t ++ List.replicate (width - t.length) (.char ' ')

/-- Fills up on the left to at least `width` characters. -/
def padStart (fill : CodePoint) (width : Nat) (t : Text) : Text :=
  List.replicate (width - t.length) fill ++ t

/-- The order of texts compares code points from the left; a shorter text comes first. -/
def ble : Text → Text → Bool
  | [], _ => true
  | _ :: _, [] => false
  | c :: t, d :: u => if c = d then ble t u else decide (c.toNat < d.toNat)

def ofNat (n : Nat) : Text := (Nat.toDigits 10 n).map .char

def ofInt : Int → Text
  | .ofNat n => ofNat n
  | .negSucc n => '-' :: ofNat (n + 1)

/-- The first `n` characters; a negative count leaves off that many at the end. -/
def clip (n : Int) (t : Text) : Text :=
  match n with
  | .ofNat k => t.take k
  | .negSucc k => t.take (t.length - (k + 1))

end Text
end PocketShell
