import PocketShell.Text.Basic

/-!
Sizes for people: bytes below 1024, then kilobytes below a million or so, then megabytes, each
rounded to the nearest whole number with a half going up.
-/

namespace PocketShell

def kilobyte : Nat := 1024

def megabyte : Nat := 1024 * 1024

def humanSize (size : Nat) : Text :=
  if size < kilobyte then Text.ofNat size ++ (['B'] : Text)
  else if size < megabyte then Text.ofNat ((2 * size + kilobyte) / (2 * kilobyte)) ++ (['K'] : Text)
  else Text.ofNat ((2 * size + megabyte) / (2 * megabyte)) ++ (['M'] : Text)

end PocketShell
