import PocketShell.Editor.Key
import PocketShell.Surface

/-!
Full-screen use of a surface: the codes that a keyboard delivers as keys, and a frame cut to the
height and width of a screen. The last line of a frame is its status and stands in the bottom
row, in reverse. A line loses what does not fit before the last column.
-/

namespace PocketShell

structure ScreenSize where
  height : Int
  width : Int
  deriving DecidableEq, Repr

/-- A piece of text on the screen. -/
structure Span where
  row : Nat
  col : Nat
  text : Text
  isReverse : Bool
  deriving DecidableEq, Repr

namespace FullScreen

/-- What is said where no screen can be drawn on. -/
def unavailable : Text := "curses not available"

def controlKeys : List (Int × Text) :=
  [(27, "Escape"), (10, "Enter"), (13, "Enter"), (127, "Backspace"), (8, "Backspace"), (9, "Tab")]

def keypadKeys : List (Int × Text) :=
  [(263, "Backspace"), (260, "ArrowLeft"), (261, "ArrowRight"), (259, "ArrowUp"),
   (258, "ArrowDown"), (343, "Enter")]

/-- The key of a code; the codes of a keypad count only where there is one. Shift shows in
capital letters. -/
def keyOfCode (keypad : Bool) (code : Int) : Option Key :=
  let named := if keypad then controlKeys ++ keypadKeys else controlKeys
  match named.find? (·.1 = code) with
  | some (_, name) => some (.plain name)
  | none =>
      if 32 ≤ code ∧ code ≤ 126 then
        let c := Char.ofNat code.toNat
        some { name := [c], shift := c.isUpper }
      else none

/-- The spans of a frame; rows outside the screen are left out. -/
def layout (size : ScreenSize) (frame : Text) : List Span :=
  let lines := Text.lines frame
  let cut (t : Text) : Text := Text.clip (size.width - 1) t
  let shown := (lines.dropLast.take (max 1 (size.height - 1)).toNat).zipIdx
  let body := (shown.filter fun (_, row) => (row : Int) < size.height).map
    fun (text, row) => (⟨row, 0, cut text, false⟩ : Span)
  let status := if 1 ≤ size.height then
      [(⟨(size.height - 1).toNat, 0, cut (lines.getLastD []), true⟩ : Span)]
    else []
  body ++ status

/-- Hands on keys while the surface in `w` has subscribers, drawing before each one. Gives the
state, the screens drawn and the codes not used. -/
def pump {W α : Type} (size : ScreenSize) (surface : W → Surface α) (send : Key → W → W) :
    W → List Int → W × List (List Span) × List Int
  | w, [] => (w, [], [])
  | w, code :: codes =>
      if (surface w).isActive then
        let drawn := layout size (surface w).screen
        let w := match keyOfCode true code with
          | some k => send k w
          | none => w
        let (w, screens, rest) := pump size surface send w codes
        (w, drawn :: screens, rest)
      else (w, [], code :: codes)

end FullScreen
end PocketShell
