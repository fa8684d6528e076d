import PocketShell.FileTree.Codec
import PocketShell.Proofs.FileTree.WellNamed
import PocketShell.Proofs.Json.RoundTrip

/-!
Trees and their JSON. A tree without repeated names is written as a value of strings and
objects without repeated names, so it comes back whole from its text; and a tree that comes
from any JSON text has no repeated names, because the reader leaves none.
-/

namespace PocketShell

theorem Directory.get?_toMembers (d : Directory) (key : Text) :
    d.toMembers.get? key = (d.get? key).map Node.toJson := by
  induction d with
  | nil => rfl
  | cons name node rest ih =>
      simp only [toMembers, Json.Members.get?, get?, ih]
      split <;> rfl

mutual

theorem Node.textual_toJson : ∀ node : Node, node.toJson.Textual
  | .file _ => trivial
  | .dir d => d.textual_toMembers

theorem Directory.textual_toMembers : ∀ d : Directory, d.toMembers.Textual
  | .nil => trivial
  | .cons _ node rest => ⟨node.textual_toJson, rest.textual_toMembers⟩

end

mutual

theorem Node.distinct_toJson {p : Text → Prop} :
    ∀ node : Node, node.WellNamed p → node.toJson.Distinct
  | .file _, _ => trivial
  | .dir d, h => d.distinct_toMembers h

theorem Directory.distinct_toMembers {p : Text → Prop} :
    ∀ d : Directory, d.WellNamed p → d.toMembers.Distinct
  | .nil, _ => trivial
  | .cons name node rest, h =>
      ⟨by rw [rest.get?_toMembers, h.2.1]; rfl, node.distinct_toJson h.2.2.1,
        rest.distinct_toMembers h.2.2.2⟩

end

mutual

theorem Node.ofJson_toJson : ∀ node : Node, Node.ofJson node.toJson = .ok node
  | .file _ => rfl
  | .dir d => by rw [Node.toJson, Node.ofJson, d.ofMembers_toMembers]; rfl

theorem Directory.ofMembers_toMembers : ∀ d : Directory, Directory.ofMembers d.toMembers = .ok d
  | .nil => rfl
  | .cons name node rest => by
      rw [Directory.toMembers, Directory.ofMembers, node.ofJson_toJson, rest.ofMembers_toMembers]
      rfl

end

namespace Directory

theorem ofTreeJson_toTreeJson (root : Directory) : ofTreeJson root.toTreeJson = .ok root := by
  simp only [toTreeJson, ofTreeJson, Json.Members.get?, if_true, Node.ofJson_toJson]

theorem read_treeText (root : Directory) (h : root.Distinct) :
    Json.read root.treeText = .ok root.toTreeJson :=
  Json.read_write root.toTreeJson ⟨(Node.dir root).textual_toJson, trivial⟩
    ⟨rfl, (Node.dir root).distinct_toJson h, trivial⟩

theorem treeText_ne_nil (root : Directory) : root.treeText ≠ [] := by
  rw [treeText, toTreeJson, Json.write_object]
  exact List.cons_ne_nil _ _

end Directory

theorem exists_of_bind_eq_ok {ε α β : Type} {x : Except ε α} {f : α → Except ε β} {b : β}
    (h : x >>= f = .ok b) : ∃ a, x = .ok a ∧ f a = .ok b := by
  cases x with
  | error e => contradiction
  | ok a => exact ⟨a, rfl, h⟩

mutual

theorem Node.distinct_of_ofJson : ∀ (v : Json.Value) (node : Node),
    v.Distinct → Node.ofJson v = .ok node → node.WellNamed fun _ => True
  | .string _, node, _, h => by cases h; trivial
  | .object m, node, hd, h => by
      obtain ⟨d, hm, he⟩ := exists_of_bind_eq_ok h
      cases he
      exact (Directory.distinct_of_ofMembers m d hd hm).1
  | .null, _, _, h | .boolean _, _, _, h | .integer _, _, _, h | .floating _, _, _, h
  | .array _, _, _, h => by cases h

theorem Directory.distinct_of_ofMembers : ∀ (m : Json.Members) (d : Directory),
    m.Distinct → Directory.ofMembers m = .ok d →
    d.Distinct ∧ ∀ key, m.get? key = none → d.get? key = none
  | .nil, d, _, h => by cases h; exact ⟨trivial, fun _ _ => rfl⟩
  | .cons name v rest, d, hd, h => by
      obtain ⟨node, hv, h⟩ := exists_of_bind_eq_ok h
      obtain ⟨others, hr, he⟩ := exists_of_bind_eq_ok h
      cases he
      have below := Node.distinct_of_ofJson v node hd.2.1 hv
      obtain ⟨distinct, absent⟩ := Directory.distinct_of_ofMembers rest others hd.2.2 hr
      refine ⟨⟨trivial, absent name hd.1, below, distinct⟩, fun key hk => ?_⟩
      simp only [Json.Members.get?] at hk
      split at hk
      · contradiction
      · next hne => simpa only [Directory.get?, hne, if_false] using absent key hk

end

theorem Directory.distinct_of_ofTreeJson (v : Json.Value) (root : Directory) (hd : v.Distinct)
    (h : Directory.ofTreeJson v = .ok root) : root.Distinct := by
  unfold Directory.ofTreeJson at h
  split at h
  · next members =>
    split at h
    · contradiction
    · next w hw =>
      split at h
      · contradiction
      · contradiction
      · next hroot =>
        cases h
        exact Node.distinct_of_ofJson w _ (members.distinct_get? _ w hd hw) hroot
  · contradiction

end PocketShell
