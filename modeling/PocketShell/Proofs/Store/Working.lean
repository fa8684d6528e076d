import PocketShell.Proofs.OrderedMap
import PocketShell.Store.Memory

/-!
Stores at work. In the states called ready no call fails, each key holds the text that was set
for it last, and every call leads to a ready state again. Nothing is said about what a store
does otherwise, so a store that may fail can be at work as long as it does not.
-/

namespace PocketShell

structure WorkingStore (σ : Type) [KeyValueStore σ] where
  Ready : σ → Prop
  holds : σ → Text → Option Text
  get_spec (s : σ) (key : Text) : Ready s → ∃ after notes,
    KeyValueStore.get s key = ⟨.ok (holds s key), after, notes⟩ ∧
      Ready after ∧ holds after = holds s
  set_spec (s : σ) (key value : Text) : Ready s → ∃ after notes,
    KeyValueStore.set s key value = ⟨.ok (), after, notes⟩ ∧
      Ready after ∧ ∀ other, holds after other = if key = other then some value else holds s other

/-- A store in memory is always ready. -/
def MemoryStore.working : WorkingStore MemoryStore where
  Ready _ := True
  holds := MemoryStore.get
  get_spec s _ _ := ⟨s, [], rfl, trivial, rfl⟩
  set_spec s key value _ :=
    ⟨s.set key value, [], rfl, trivial, fun other => s.entries.get?_insert key other value⟩

end PocketShell
