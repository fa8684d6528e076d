/-!
Double-precision numbers by exact integer arithmetic: a finite number is a whole number below
2^53 times a power of two. `ofDecimal` rounds a decimal fraction to the nearest such number, a
tie going to the even significand.
-/

namespace PocketShell

inductive Binary64
  | finite (negative : Bool) (significand : Nat) (exponent : Int)
  | infinite (negative : Bool)
  | nan
  deriving Repr, DecidableEq

namespace Binary64

def leastExponent : Int := -1074

def greatestExponent : Int := 971

/-- The fraction `num / den * 2 ^ (-e)` as a fraction of natural numbers. -/
def scaleDown (num den : Nat) (e : Int) : Nat × Nat :=
  if 0 ≤ e then (num, den * Nat.pow 2 e.toNat) else (num * Nat.pow 2 (-e).toNat, den)

def roundHalfEven (num den : Nat) : Nat :=
  let q := num / den
  let r := num % den
  if den < 2 * r ∨ (2 * r = den ∧ q % 2 = 1) then q + 1 else q

/-- The exponent at which the fraction, brought to a whole number, has 53 binary digits, or the
least exponent if that is greater. -/
def exponentFor (num den : Nat) : Int :=
  let guess := max ((Nat.log2 num : Int) - Nat.log2 den - 52) leastExponent
  let (n, d) := scaleDown num den guess
  if n / d < Nat.pow 2 52 ∧ leastExponent < guess then guess - 1 else guess

def ofFraction (negative : Bool) (num den : Nat) : Binary64 :=
  let e := exponentFor num den
  let (n, d) := scaleDown num den e
  let m := roundHalfEven n d
  let (m, e) := if m = Nat.pow 2 53 then (Nat.pow 2 52, e + 1) else (m, e)
  if greatestExponent < e then .infinite negative else .finite negative m e

/-- The number nearest to `digits * 10 ^ scale`. Magnitudes that lie beyond all finite numbers
or below half the least one are told by the place of their first digit. -/
def ofDecimal (negative : Bool) (digits : Nat) (scale : Int) : Binary64 :=
  let place := ((Nat.toDigits 10 digits).length : Int) + scale
  if digits = 0 ∨ place < -330 then .finite negative 0 leastExponent
  else if 310 < place then .infinite negative
  else if 0 ≤ scale then ofFraction negative (digits * Nat.pow 10 scale.toNat) 1
  else ofFraction negative digits (Nat.pow 10 (-scale).toNat)

end Binary64
end PocketShell
