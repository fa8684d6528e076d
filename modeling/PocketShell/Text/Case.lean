import PocketShell.Text.Basic
import PocketShell.Text.CaseTable

/-!
Full case conversion of texts. Small letters are found character by character but for two
things: U+0130 becomes two characters, and a capital sigma that ends a word becomes U+03C2. A
sigma ends a word when a letter stands before it and none after it, marks being passed over.
-/

namespace PocketShell.Text

/-- Membership of a code point in an increasing list of ranges. -/
def inRanges : List (Nat × Nat) → Nat → Bool
  | [], _ => false
  | (first, last) :: rest, n => if n < first then false else decide (n ≤ last) || inRanges rest n

/-- The image of a code point under an increasing list of runs; others are their own image. -/
def mapRuns : List (Nat × Nat × Nat × Nat) → Nat → Nat
  | [], n => n
  | (first, last, step, image) :: rest, n =>
      if n < first then n
      else if n ≤ last ∧ (n - first) % step = 0 then image + (n - first)
      else mapRuns rest n

def isCased (c : CodePoint) : Bool := inRanges casedRanges c.toNat

def isCaseIgnorable (c : CodePoint) : Bool := inRanges caseIgnorableRanges c.toNat

def capitalSigma : CodePoint := CodePoint.ofNat 0x3A3

/-- Whether the nearest character that is no mark is a letter with case. -/
def meetsLetter (t : Text) : Bool :=
  match t.dropWhile isCaseIgnorable with
  | [] => false
  | c :: _ => isCased c

def lowerChar (c : CodePoint) : Text :=
  if c.toNat = 0x130 then [CodePoint.ofNat 0x69, CodePoint.ofNat 0x307]
  else [CodePoint.ofNat (mapRuns lowerRuns c.toNat)]

/-- Small letters for a text that follows `before`, of which the last character comes first. -/
def lowerAfter (before : Text) : Text → Text
  | [] => []
  | c :: after =>
      let image :=
        if c = capitalSigma then
          [CodePoint.ofNat (if meetsLetter before && !meetsLetter after then 0x3C2 else 0x3C3)]
        else lowerChar c
      image ++ lowerAfter (c :: before) after

def lower (t : Text) : Text := lowerAfter [] t

def upperChar (c : CodePoint) : Text :=
  match upperExpansions.find? (·.1 = c.toNat) with
  | some (_, images) => images.map CodePoint.ofNat
  | none => [CodePoint.ofNat (mapRuns upperRuns c.toNat)]

def upper (t : Text) : Text := t.flatMap upperChar

end PocketShell.Text
