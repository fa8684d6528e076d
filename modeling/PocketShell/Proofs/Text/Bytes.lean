import Mathlib.Data.List.TakeWhile
import PocketShell.Text.Bytes

/-!
A text without halves has bytes, and these are read as the text again. Of several pieces that are
written one behind the other, the bytes are those of the whole, unless a half is in one of them:
then the bytes end before that piece.
-/

namespace PocketShell.Text

/-- No half is in the text. -/
def HasBytes (t : Text) : Prop := ∀ c ∈ t, c.isHalf = false

instance (t : Text) : Decidable t.HasBytes :=
  inferInstanceAs (Decidable (∀ c ∈ t, c.isHalf = false))

variable {t u : Text} {bytes : ByteArray}

theorem hasBytes_append : (t ++ u).HasBytes ↔ t.HasBytes ∧ u.HasBytes := List.forall_mem_append

theorem hasBytes_cons_char {c : Char} : HasBytes (.char c :: t) ↔ t.HasBytes := by
  rw [HasBytes, List.forall_mem_cons, CodePoint.isHalf]
  exact and_iff_right rfl

theorem unencodable?_eq_none_iff {forbidden : CodePoint → Bool} :
    t.unencodable? forbidden = none ↔ ∀ c ∈ t, forbidden c = false := by
  have none_left : (t.dropWhile fun c => !forbidden c) = [] ↔ ∀ c ∈ t, forbidden c = false := by
    rw [List.dropWhile_eq_nil_iff]
    simp
  rw [← none_left, unencodable?]
  cases t.dropWhile fun c => !forbidden c <;> simp

/-- The characters of a text without halves are the text. -/
theorem map_filterMap_char? (h : t.HasBytes) : (t.filterMap CodePoint.char?).map .char = t := by
  induction t with
  | nil => rfl
  | cons c t ih =>
      obtain ⟨first, others⟩ := List.forall_mem_cons.mp h
      cases c with
      | half n => cases first
      | char c => exact congrArg (CodePoint.char c :: ·) (ih others)

theorem encode_of_hasBytes (h : t.HasBytes) :
    t.encode = .ok (String.ofList (t.filterMap CodePoint.char?)).toUTF8 := by
  rw [encode, unencodable?_eq_none_iff.mpr h]

theorem encode_of_not_hasBytes (h : ¬ t.HasBytes) : ∃ u, t.encode = .error u := by
  rw [encode]
  match some_half : t.unencodable? CodePoint.isHalf with
  | some u => exact ⟨u, rfl⟩
  | none => exact absurd (unencodable?_eq_none_iff.mp some_half) h

theorem hasBytes_of_encode (encoded : t.encode = .ok bytes) : t.HasBytes := by
  by_contra half
  obtain ⟨u, failed⟩ := encode_of_not_hasBytes half
  cases failed.symm.trans encoded

theorem decode_toUTF8 (s : String) : decode s.toUTF8 = some ↑s := by
  have valid : s.toUTF8.IsValidUTF8 := s.isValidUTF8
  rw [decode, String.fromUTF8?, dif_pos valid]
  rfl

theorem decode_of_encode (encoded : t.encode = .ok bytes) : decode bytes = some t := by
  have whole := hasBytes_of_encode encoded
  cases (encode_of_hasBytes whole).symm.trans encoded
  refine (decode_toUTF8 _).trans (congrArg some ?_)
  rw [String.toList_ofList, map_filterMap_char? whole]

theorem encode_append {more : ByteArray} (front : t.encode = .ok bytes)
    (back : u.encode = .ok more) : (t ++ u).encode = .ok (bytes ++ more) := by
  have whole := hasBytes_of_encode front
  have whole' := hasBytes_of_encode back
  cases (encode_of_hasBytes whole).symm.trans front
  cases (encode_of_hasBytes whole').symm.trans back
  rw [encode_of_hasBytes (hasBytes_append.mpr ⟨whole, whole'⟩), List.filterMap_append,
    String.ofList_append]
  exact congrArg Except.ok String.toByteArray_append

theorem encodeAll_of_hasBytes {pieces : List Text} (h : HasBytes pieces.flatten) :
    ∃ bytes, encodeAll pieces = (bytes, .ok ()) ∧ encode pieces.flatten = .ok bytes := by
  induction pieces with
  | nil => exact ⟨_, rfl, rfl⟩
  | cons piece pieces ih =>
      rw [List.flatten_cons, hasBytes_append] at h
      obtain ⟨more, others, back⟩ := ih h.2
      have front := encode_of_hasBytes h.1
      exact ⟨_, by simp only [encodeAll, front, others], encode_append front back⟩

theorem encodeAll_of_not_hasBytes {pieces : List Text} (h : ¬ HasBytes pieces.flatten) :
    ∃ u, (encodeAll pieces).2 = .error u := by
  induction pieces with
  | nil => exact absurd (List.forall_mem_nil _) h
  | cons piece pieces ih =>
      rw [List.flatten_cons, hasBytes_append] at h
      match encoded : piece.encode with
      | .error u => exact ⟨u, by simp only [encodeAll, encoded]⟩
      | .ok bytes =>
          obtain ⟨u, failed⟩ := ih fun rest => h ⟨hasBytes_of_encode encoded, rest⟩
          exact ⟨u, by simp only [encodeAll, encoded, failed]⟩

end PocketShell.Text
