import Mathlib.Data.List.Basic
import PocketShell.Checkpoint
import PocketShell.Proofs.OrderedMap
import PocketShell.Store.Memory

/-!
The keys of checkpoints in a store in memory. Two stems have no key in common, whatever they are:
the endings of the three keys differ in their last letters, and behind one ending there is one
stem. What is saved or cleared under a stem concerns its three keys, and what is found under it
depends on these.
-/

namespace PocketShell

namespace MemoryStore

theorem get_set (s : MemoryStore) (key other value : Text) :
    (s.set key value).get other = if key = other then some value else s.get other :=
  s.entries.get?_insert key other value

theorem get_remove (s : MemoryStore) (key other : Text) :
    (s.remove key).get other = if key = other then none else s.get other :=
  s.entries.get?_erase key other

/-- The two stores hold the same under these keys. -/
def AgreeOn (keys : List Text) (s t : MemoryStore) : Prop := ∀ key ∈ keys, s.get key = t.get key

/-- The two stores hold the same under all other keys. -/
def AgreeOff (keys : List Text) (s t : MemoryStore) : Prop := ∀ key ∉ keys, s.get key = t.get key

variable {keys : List Text} {s t : MemoryStore}

theorem AgreeOn.set (agree : AgreeOn keys s t) (key value : Text) :
    AgreeOn keys (s.set key value) (t.set key value) := by
  intro other mem
  rw [get_set, get_set, agree other mem]

theorem AgreeOn.remove (agree : AgreeOn keys s t) (key : Text) :
    AgreeOn keys (s.remove key) (t.remove key) := by
  intro other mem
  rw [get_remove, get_remove, agree other mem]

theorem agreeOff_set (s : MemoryStore) {key : Text} (value : Text) (mem : key ∈ keys) :
    AgreeOff keys (s.set key value) s := by
  intro other away
  have ne : key ≠ other := fun same => away (same ▸ mem)
  rw [get_set, if_neg ne]

theorem agreeOff_remove (s : MemoryStore) {key : Text} (mem : key ∈ keys) :
    AgreeOff keys (s.remove key) s := by
  intro other away
  have ne : key ≠ other := fun same => away (same ▸ mem)
  rw [get_remove, if_neg ne]

theorem AgreeOff.trans {u : MemoryStore} (h : AgreeOff keys s t) (h' : AgreeOff keys t u) :
    AgreeOff keys s u :=
  fun key away => (h key away).trans (h' key away)

end MemoryStore

namespace Checkpoint

open MemoryStore

def endings : List Text := ["_filesystem", "_current_user", "_current_path"]

theorem keys_eq (stem : Text) : keys stem = endings.map (stem ++ ·) := rfl

theorem keys_apart {stem other : Text} (ne : stem ≠ other) :
    ∀ key ∈ keys stem, key ∉ keys other := by
  intro key mem mem'
  rw [keys_eq] at mem mem'
  obtain ⟨ending, listed, rfl⟩ := List.mem_map.mp mem
  obtain ⟨ending', listed', same⟩ := List.mem_map.mp mem'
  have filled : ∀ ending ∈ endings, ending ≠ [] := by decide
  have last_letters : ∀ ending ∈ endings, ∀ ending' ∈ endings,
      ending'.getLast? = ending.getLast? → ending' = ending := by decide
  have last := congrArg List.getLast? same
  rw [List.getLast?_append_of_ne_nil _ (filled ending' listed'),
    List.getLast?_append_of_ne_nil _ (filled ending listed)] at last
  have one := last_letters ending listed ending' listed' last
  subst one
  exact ne (List.append_cancel_right same).symm

section InMemory

variable {keys : List Text} {s t : MemoryStore}

theorem setAll_memory (s : MemoryStore) (entries : List (Text × Text)) :
    setAll s entries = ⟨.ok (), entries.foldl (fun s entry => s.set entry.1 entry.2) s, []⟩ := by
  induction entries generalizing s with
  | nil => rfl
  | cons entry rest ih =>
      obtain ⟨key, value⟩ := entry
      have first : KeyValueStore.set s key value = ⟨.ok (), s.set key value, []⟩ := rfl
      simp only [setAll, first, Reply.andThen, ih]
      rfl

theorem removeAll_memory (s : MemoryStore) (keys : List Text) :
    removeAll s keys = ⟨.ok (), keys.foldl MemoryStore.remove s, []⟩ := by
  induction keys generalizing s with
  | nil => rfl
  | cons key rest ih =>
      have first : KeyValueStore.remove s key = ⟨.ok (), s.remove key, []⟩ := rfl
      simp only [removeAll, first, Reply.andThen, ih]
      rfl

/-- One change after the other keeps stores in agreement, if each change does. -/
theorem agreeOn_foldl {α : Type} {f : MemoryStore → α → MemoryStore}
    (each : ∀ s t a, AgreeOn keys s t → AgreeOn keys (f s a) (f t a)) (changes : List α)
    (agree : AgreeOn keys s t) : AgreeOn keys (changes.foldl f s) (changes.foldl f t) := by
  induction changes generalizing s t with
  | nil => exact agree
  | cons change changes ih => exact ih (each s t change agree)

theorem agreeOff_foldl {α : Type} {f : MemoryStore → α → MemoryStore} (changes : List α)
    (each : ∀ s, ∀ a ∈ changes, AgreeOff keys (f s a) s) :
    AgreeOff keys (changes.foldl f s) s := by
  induction changes generalizing s with
  | nil => exact fun _ _ => rfl
  | cons change changes ih =>
      have rest := ih (s := f s change) fun s a mem => each s a (List.mem_cons_of_mem change mem)
      exact rest.trans (each s change List.mem_cons_self)

end InMemory

variable {stem : Text} {s t : MemoryStore}

/-- What a save or a clearing under a stem does to a store in memory. -/
theorem save_memory (stem : Text) (state : SavedState) (s : MemoryStore) :
    (save stem state s).2 = [] ∧ AgreeOff (keys stem) (save stem state s).1 s ∧
      ∀ t, AgreeOn (keys stem) s t →
        AgreeOn (keys stem) (save stem state s).1 (save stem state t).1 := by
  simp only [save, setAll_memory, settle]
  refine ⟨trivial, ?_, fun t agree => ?_⟩
  · refine agreeOff_foldl _ fun s entry mem => agreeOff_set s entry.2 ?_
    exact List.mem_map_of_mem (f := Prod.fst) mem
  · exact agreeOn_foldl (fun s t entry agree => agree.set entry.1 entry.2) _ agree

theorem clear_memory (stem : Text) (s : MemoryStore) :
    (clear stem s).2 = [] ∧ AgreeOff (keys stem) (clear stem s).1 s ∧
      ∀ t, AgreeOn (keys stem) s t → AgreeOn (keys stem) (clear stem s).1 (clear stem t).1 := by
  simp only [clear, removeAll_memory, settle]
  refine ⟨trivial, ?_, fun t agree => ?_⟩
  · exact agreeOff_foldl _ fun s key mem => agreeOff_remove s mem
  · exact agreeOn_foldl (fun s t key agree => agree.remove key) _ agree

/-- A look for a checkpoint leaves a store in memory alone and sees nothing but the keys of its
stem. -/
theorem load_memory (agree : AgreeOn (keys stem) s t) :
    ∃ found notes, load stem s = (found, s, notes) ∧ load stem t = (found, t, notes) := by
  have texts (s : MemoryStore) : getTexts stem s =
      ⟨.ok (s.get (treeKey stem), s.get (userKey stem), s.get (pathKey stem)), s, []⟩ := rfl
  have tree := agree (treeKey stem) (.head _)
  have user := agree (userKey stem) (.tail _ (.head _))
  have path := agree (pathKey stem) (.tail _ (.tail _ (.head _)))
  simp only [load, texts, tree, user, path]
  split
  · exact ⟨_, _, rfl, rfl⟩
  · exact ⟨_, _, rfl, rfl⟩
  · exact ⟨_, _, rfl, rfl⟩

end Checkpoint
end PocketShell
