import PocketShell.Json.Writer
import PocketShell.Proofs.Json.Distinct

/-!
What is written is read back, for values of strings and objects. A character is read back
whatever it is written as; an object is read back member by member, each one going behind
those that are known already, so the order is kept as long as no name is there twice. The text
itself is long enough to bound the steps of the reader.
-/

namespace PocketShell.Json

theorem hexNumber?_control : ∀ n < 0x20,
    hexNumber? '0' '0' (hexDigit (n / 16)) (hexDigit n) = some n := by
  decide

theorem readString_unescaped (c : CodePoint) (t : Text)
    (hq : c ≠ '"') (hb : c ≠ '\\') (hc : ¬c.toNat < 0x20) :
    readString none (c :: t) = (readString none t).map fun (s, rest) => (c :: s, rest) := by
  rw [readString]
  · simp only [hq, hc, if_false, unpaired, List.nil_append]
  · intro _ _ _ _ _ h _
    exact hb h
  · intro _ _ h _
    exact hb h

theorem readString_escape (c : CodePoint) (t : Text) :
    readString none (escape c ++ t) =
      (readString none t).map fun (s, rest) => (c :: s, rest) := by
  simp only [escape]
  iterate 7
    split
    · subst c; rfl
  split
  · next hc =>
      have first : ¬(0xD800 ≤ c.toNat ∧ c.toNat < 0xDC00) := by omega
      have second : ¬(0xDC00 ≤ c.toNat ∧ c.toNat < 0xE000) := by omega
      simp only [List.cons_append, List.nil_append, readString, hexNumber?_control _ hc, unit,
        first, second, if_false, unpaired, CodePoint.ofNat_toNat]
  · next hq hb _ _ _ _ _ hc => exact readString_unescaped c t hq hb hc

theorem readString_quote (t rest : Text) :
    readString none (t.flatMap escape ++ .char '"' :: rest) = some (t, rest) := by
  induction t with
  | nil => rfl
  | cons c t ih =>
      rw [List.flatMap_cons, List.append_assoc, readString_escape, ih]
      rfl

mutual

/-- Values of strings and objects alone. -/
def Value.Textual : Value → Prop
  | .string _ => True
  | .object members => members.Textual
  | _ => False

def Members.Textual : Members → Prop
  | .nil => True
  | .cons _ v rest => v.Textual ∧ rest.Textual

end

namespace Members

def append : Members → Members → Members
  | .nil, m => m
  | .cons name v rest, m => .cons name v (rest.append m)

theorem append_assoc (known m more : Members) :
    (known.append m).append more = known.append (m.append more) := by
  induction known with
  | nil => rfl
  | cons name v rest ih => rw [append, append, ih, append]

theorem get?_append (known m : Members) (key : Text) :
    (known.append m).get? key = (known.get? key).or (m.get? key) := by
  induction known with
  | nil => rfl
  | cons name v rest ih =>
      simp only [append, get?]
      split
      · rfl
      · exact ih

theorem insert_of_get?_eq_none (known : Members) (name : Text) (v : Value)
    (h : known.get? name = none) : known.insert name v = known.append (.cons name v .nil) := by
  induction known with
  | nil => rfl
  | cons other w rest ih =>
      by_cases hn : other = name
      · simp [get?, hn] at h
      · simp only [get?, hn, if_false] at h
        simp only [insert, hn, if_false, append, ih h]

/-- No name of the members to come is known already. -/
def Fresh (known : Members) : Members → Prop
  | .nil => True
  | .cons name _ rest => known.get? name = none ∧ Fresh known rest

theorem fresh_nil (m : Members) : Members.nil.Fresh m := by
  induction m with
  | nil => trivial
  | cons name v rest ih => exact ⟨rfl, ih⟩

theorem fresh_append (known m : Members) (name : Text) (v : Value)
    (h : known.Fresh m) (hn : m.get? name = none) :
    (known.append (.cons name v .nil)).Fresh m := by
  induction m with
  | nil => trivial
  | cons other w rest ih =>
      simp only [get?] at hn
      split at hn
      · contradiction
      · next hne =>
        refine ⟨?_, ih h.2 hn⟩
        simp [get?_append, h.1, get?, Ne.symm hne]

/-- The text of an object behind its opening brace. -/
def body : Members → Text
  | .nil => ['\x7d']
  | .cons name v rest => quote name ++ ([':', ' '] : Text) ++ v.write ++ rest.writeTail

end Members

theorem write_object (m : Members) : (Value.object m).write = .char '\x7b' :: m.body := by
  cases m <;> rfl

theorem skipSpace_write (v : Value) (h : v.Textual) (rest : Text) :
    skipSpace (v.write ++ rest) = v.write ++ rest := by
  cases v with
  | string t => rfl
  | object m => cases m <;> rfl
  | null | boolean _ | integer _ | floating _ | array _ => contradiction

theorem skipSpace_colon (t : Text) : skipSpace (.char ':' :: t) = .char ':' :: t := rfl

theorem skipSpace_blank (t : Text) : skipSpace (' ' :: t) = skipSpace t := rfl

section Member

variable {n : Nat} {v : Value} {rest u : Text} (known : Members) (name : Text) (textual : v.Textual)
  (value : readValue n (v.write ++ rest) = .ok (v, rest))

include textual value

/-- A member is read with which the object ends. -/
theorem readMembers_last (ends : skipSpace rest = .char '\x7d' :: u) :
    readMembers (n + 1) known (quote name ++ ([':', ' '] : Text) ++ v.write ++ rest) =
      .ok (.object (known.insert name v), u) := by
  simp only [quote, List.cons_append, List.append_assoc, List.nil_append, readMembers,
    readString_quote, skipSpace_colon, skipSpace_blank, skipSpace_write v textual, value, ends]

/-- A member is read behind which another one comes. -/
theorem readMembers_next (goes_on : skipSpace rest = .char ',' :: u) :
    readMembers (n + 1) known (quote name ++ ([':', ' '] : Text) ++ v.write ++ rest) =
      readMembers n (known.insert name v) (skipSpace u) := by
  simp only [quote, List.cons_append, List.append_assoc, List.nil_append, readMembers,
    readString_quote, skipSpace_colon, skipSpace_blank, skipSpace_write v textual, value, goes_on]

end Member

mutual

theorem readValue_write : ∀ (v : Value) (n : Nat) (rest : Text),
    v.Textual → v.Distinct → v.write.length ≤ n →
    readValue n (v.write ++ rest) = .ok (v, rest)
  | .string t, n + 1, rest, _, _, _ => by
      simp only [Value.write, quote, List.cons_append, List.append_assoc, List.nil_append,
        readValue, readString_quote]
  | .object .nil, n + 1, rest, _, _, _ => rfl
  | .object (.cons name v m), n + 1, rest, ht, hd, hn => by
      rw [write_object, List.length_cons] at hn
      have members := readMembers_body (.cons name v m) n .nil rest (by simp) ht hd
        (Members.fresh_nil _) (by omega)
      rw [write_object]
      exact members
  | .string _, 0, _, _, _, hn => by simp [Value.write, quote] at hn
  | .object m, 0, _, _, _, hn => by simp [write_object] at hn

theorem readMembers_body : ∀ (m : Members) (n : Nat) (known : Members) (rest : Text),
    m ≠ .nil → m.Textual → m.Distinct → known.Fresh m → m.body.length ≤ n →
    readMembers n known (m.body ++ rest) = .ok (.object (known.append m), rest)
  | .nil, _, _, _, h, _, _, _, _ => absurd rfl h
  | .cons _ _ _, 0, _, _, _, _, _, _, hn => by simp [Members.body, quote] at hn
  | .cons name v m, n + 1, known, rest, _, ht, hd, hf, hn => by
      have lengths : v.write.length ≤ n ∧ m.writeTail.length ≤ n := by
        simp only [Members.body, quote, List.length_append, List.length_cons] at hn
        omega
      have value := readValue_write v n (m.writeTail ++ rest) ht.1 hd.2.1 lengths.1
      have inserted := known.insert_of_get?_eq_none name v hf.1
      rw [Members.body, List.append_assoc]
      cases m with
      | nil =>
          rw [readMembers_last known name ht.1 value rfl, inserted]
          rfl
      | cons next w m =>
          rw [readMembers_next known name ht.1 value rfl, inserted]
          have fresh := Members.fresh_append known _ name v hf.2 hd.1
          have members := readMembers_body (.cons next w m) n (known.append (.cons name v .nil))
            rest (by simp) ht.2 hd.2.2 fresh
            (by simp only [Members.writeTail, Members.body, List.length_append] at lengths ⊢; omega)
          rwa [Members.append_assoc] at members

end

theorem read_write (v : Value) (ht : v.Textual) (hd : v.Distinct) : read v.write = .ok v := by
  have value := readValue_write v (2 * v.write.length + 2) [] ht hd (by omega)
  have start := skipSpace_write v ht []
  rw [List.append_nil] at value start
  rw [read, start, value]
  rfl

end PocketShell.Json
