import PocketShell.Decimal.Binary64
import PocketShell.Text.Basic

/-!
Shortest decimal text of a double-precision number. `Binary64.shortest` looks for the fewest
digits that read back as the same number and, among those, for the digits nearest to it.
-/

namespace PocketShell.Binary64

/-- The number `digits * 10 ^ scale`. -/
structure Decimal where
  digits : Nat
  scale : Int
  deriving Repr, DecidableEq

/-- The fraction `num * 2 ^ e / 10 ^ scale`. -/
def onGrid (num : Nat) (e scale : Int) : Nat × Nat :=
  let (num, den) := if 0 ≤ e then (num * Nat.pow 2 e.toNat, 1) else (num, Nat.pow 2 (-e).toNat)
  if 0 ≤ scale then (num, den * Nat.pow 10 scale.toNat)
  else (num * Nat.pow 10 (-scale).toNat, den)

/-- Whether `digits * 10 ^ scale` reads back as `m * 2 ^ e`: it lies between the two points half
way to the neighbouring numbers, which count as inside when `m` is even. -/
def readsBack (m : Nat) (e : Int) (digits : Nat) (scale : Int) : Bool :=
  let below := if m = Nat.pow 2 52 ∧ leastExponent < e then 1 else 2
  let (lowNum, lowDen) := onGrid (4 * m - below) (e - 2) scale
  let (highNum, highDen) := onGrid (4 * m + 2) (e - 2) scale
  if m % 2 = 0 then decide (lowNum ≤ digits * lowDen) && decide (digits * highDen ≤ highNum)
  else decide (lowNum < digits * lowDen) && decide (digits * highDen < highNum)

/-- The best multiple of `10 ^ scale` that reads back, if one does. -/
def nearestOn (m : Nat) (e scale : Int) : Option Decimal :=
  let (num, den) := onGrid m e scale
  let floor := num / den
  match readsBack m e floor scale, readsBack m e (floor + 1) scale with
  | false, false => none
  | true, false => some ⟨floor, scale⟩
  | false, true => some ⟨floor + 1, scale⟩
  | true, true => some ⟨roundHalfEven num den, scale⟩

/-- The first of the grids `10 ^ scale`, `10 ^ (scale - 1)`, … that has a hit. -/
def firstGrid (m : Nat) (e : Int) : Nat → Int → Decimal
  | 0, scale => (nearestOn m e scale).getD ⟨0, 0⟩
  | n + 1, scale => (nearestOn m e scale).getD (firstGrid m e n (scale - 1))

/-- A power of ten with a scale that is not below that of `m * 2 ^ e`. -/
def topScale (m : Nat) (e : Int) : Int :=
  let (num, den) := onGrid m e 0
  if den ≤ num then (Nat.toDigits 10 (num / den)).length
  else 1 - ((Nat.toDigits 10 (den / num)).length : Int)

def shortest (m : Nat) (e : Int) : Decimal := firstGrid m e 20 (topScale m e)

/-- Positional notation serves while the point stands at most sixteen digits to the right of the
first digit and fewer than four zeros to the left of it; a whole number keeps one decimal. -/
def layout (d : Decimal) : Text :=
  let written := Text.ofNat d.digits
  let digits := Text.trimEndWhen (· == '0') written
  let point : Int := written.length + d.scale
  if -4 < point ∧ point ≤ 0 then
    "0." ++ List.replicate (-point).toNat ('0' : CodePoint) ++ digits
  else if 0 < point ∧ point ≤ 16 then
    let whole := point.toNat
    let fraction := digits.drop whole
    digits.take whole ++ List.replicate (whole - digits.length) ('0' : CodePoint) ++ (['.'] : Text)
      ++ (if fraction.isEmpty then (['0'] : Text) else fraction)
  else
    let power := point - 1
    let fraction := digits.drop 1
    digits.take 1 ++ (if fraction.isEmpty then [] else .char '.' :: fraction) ++ (['e'] : Text)
      ++ ([if power < 0 then '-' else '+'] : Text) ++ Text.padStart '0' 2 (Text.ofNat power.natAbs)

def text : Binary64 → Text
  | .nan => "nan"
  | .infinite negative => (if negative then "-inf" else "inf")
  | .finite negative m e =>
      let size : Text := if m = 0 then "0.0" else layout (shortest m e)
      if negative then '-' :: size else size

end PocketShell.Binary64
