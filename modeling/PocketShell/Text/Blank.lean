import PocketShell.Text.Basic

/-!
Blank characters: those of the Unicode white-space property and the four information
separators U+001C to U+001F. Words are the longest runs of other characters.
-/

namespace PocketShell

def isBlank (c : CodePoint) : Bool :=
  let n := c.toNat
  (9 ≤ n && n ≤ 13) || (28 ≤ n && n ≤ 32) || n == 0x85 || n == 0xA0 || n == 0x1680
    || (0x2000 ≤ n && n ≤ 0x200A) || n == 0x2028 || n == 0x2029 || n == 0x202F
    || n == 0x205F || n == 0x3000

namespace Text

def trimStart (t : Text) : Text := trimStartWhen isBlank t

def trimEnd (t : Text) : Text := trimEndWhen isBlank t

def trim (t : Text) : Text := trimEnd (trimStart t)

def words (t : Text) : List Text := (splitWhen isBlank t).filter (· ≠ [])

end Text
end PocketShell
