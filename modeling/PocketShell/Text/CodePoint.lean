/-!
Code points. Most of them are characters. The others are halves of surrogate pairs: a JSON escape
may name one without the other, and then it stands in a text by itself. No bytes stand for a half.
-/

namespace PocketShell

inductive CodePoint
  | char (c : Char)
  | half (n : Fin 0x800)
  deriving DecidableEq, Repr, Inhabited

namespace CodePoint

instance : Coe Char CodePoint := ⟨.char⟩

def toNat : CodePoint → Nat
  | .char c => c.toNat
  | .half n => 0xD800 + n

/-- The code point with a number; a number that is too great stands for null. -/
def ofNat (n : Nat) : CodePoint :=
  if h : 0xD800 ≤ n ∧ n < 0xE000 then .half ⟨n - 0xD800, by omega⟩ else .char (Char.ofNat n)

instance : LE CodePoint := ⟨fun c d => c.toNat ≤ d.toNat⟩

instance (c d : CodePoint) : Decidable (c ≤ d) := inferInstanceAs (Decidable (c.toNat ≤ d.toNat))

theorem toNat_half (n : Fin 0x800) : (half n).toNat = 0xD800 + n := rfl

theorem ofNat_toNat (c : CodePoint) : ofNat c.toNat = c := by
  cases c with
  | half n => simp [ofNat, toNat]; omega
  | char c =>
      have apart : ¬(0xD800 ≤ c.toNat ∧ c.toNat < 0xE000) := by
        have valid := c.valid
        simp only [UInt32.isValidChar, Nat.isValidChar] at valid
        exact fun h => by have := h.1; have := h.2; simp only [Char.toNat] at *; omega
      rw [toNat, ofNat, dif_neg apart, Char.ofNat_toNat]

theorem toNat_inj {c d : CodePoint} : c.toNat = d.toNat ↔ c = d := by
  refine ⟨fun same => ?_, fun same => by rw [same]⟩
  rw [← ofNat_toNat c, same, ofNat_toNat]

def char? : CodePoint → Option Char
  | .char c => some c
  | .half _ => none

def isHalf : CodePoint → Bool
  | .char _ => false
  | .half _ => true

end CodePoint
end PocketShell
