import PocketShell.Checkpoint
import PocketShell.Proofs.FileTree.Codec
import PocketShell.Proofs.Store.Working

/-!
A checkpoint comes back as it was saved. Saving to a store at work leaves the three texts of
the state under their keys, which never collide; decoding these texts gives the state again,
unless its path leads nowhere. Every state that loading ever gives can be saved and loaded
again, because the reader leaves no name twice and the other conditions are those that loading
itself checks.
-/

namespace PocketShell

/-- The states that survive being saved and loaded. -/
structure SavedState.Loadable (state : SavedState) : Prop where
  distinct : state.root.Distinct
  user_ne_nil : state.user ≠ []
  path_ne_nil : state.path ≠ []
  walks : (state.root.walk (Path.segments state.path)).isSome

/-- The state, if its path leads to a node of its tree. -/
def SavedState.ifThere (state : SavedState) : Option SavedState :=
  if (state.root.walk (Path.segments state.path)).isSome then some state else none

theorem SavedState.Loadable.ifThere_eq {state : SavedState} (loadable : state.Loadable) :
    state.ifThere = some state :=
  if_pos loadable.walks

namespace Checkpoint

theorem decode_texts (state : SavedState) (hd : state.root.Distinct)
    (hu : state.user ≠ []) (hp : state.path ≠ []) :
    decode (some state.root.treeText) (some state.user) (some state.path) =
      if (state.root.walk (Path.segments state.path)).isSome then .ok state
      else .error (.pathGone state.path) := by
  obtain ⟨root, user, path⟩ := state
  obtain ⟨c, tree, htree⟩ := List.exists_cons_of_ne_nil root.treeText_ne_nil
  obtain ⟨d, name, rfl⟩ := List.exists_cons_of_ne_nil hu
  obtain ⟨e, place, rfl⟩ := List.exists_cons_of_ne_nil hp
  have text := root.read_treeText hd
  rw [htree] at text ⊢
  simp only [decode, Option.getD_some, text, Directory.ofTreeJson_toTreeJson]
  cases root.walk (Path.segments (e :: place)) <;> rfl

theorem loadable_of_decode (tree user path : Option Text) (state : SavedState)
    (h : decode tree user path = .ok state) : state.Loadable := by
  simp only [decode] at h
  split at h
  · split at h
    · contradiction
    · contradiction
    · next v hv =>
      split at h
      · contradiction
      · next root hroot =>
        split at h
        · contradiction
        · next node hwalk =>
          cases h
          exact
            { distinct :=
                Directory.distinct_of_ofTreeJson v root (Json.distinct_of_read _ v hv) hroot
              user_ne_nil := List.cons_ne_nil _ _
              path_ne_nil := List.cons_ne_nil _ _
              walks := by simp [hwalk] }
  · contradiction

theorem keys_nodup (stem : Text) : (keys stem).Nodup := by
  simp only [keys, treeKey, userKey, pathKey, List.nodup_cons, List.mem_cons, not_or,
    List.append_cancel_left_eq, List.not_mem_nil, not_false_eq_true, List.nodup_nil, and_true]
  decide

/-- What a look for a checkpoint makes of the decoded texts. -/
def found : Except Rejection SavedState → Found
  | .ok state => .ok (some state)
  | .error (.longNumber n) => .error n
  | .error _ => .ok none

theorem decode_of_found (result : Except Rejection SavedState) (state : SavedState)
    (h : found result = .ok (some state)) : result = .ok state := by
  simp only [found] at h
  split at h <;> cases h
  rfl

variable {σ : Type} [KeyValueStore σ]

theorem load_eq_found (stem : Text) (store : σ) (tree user path : Option Text) (after : σ)
    (notes : List LogEntry) (h : getTexts stem store = ⟨.ok (tree, user, path), after, notes⟩) :
    (load stem store).1 = found (decode tree user path) ∧ (load stem store).2.1 = after := by
  simp only [load, found]
  rw [h]
  dsimp only
  split <;> simp_all

/-- Whatever the store is and whatever it does, what is loaded could be saved. -/
theorem loadable_of_load (stem : Text) (store : σ) (state : SavedState)
    (h : (load stem store).1 = .ok (some state)) : state.Loadable := by
  cases ht : getTexts stem store with
  | mk outcome after notes =>
    cases outcome with
    | error e => simp [load, ht] at h
    | ok texts =>
        rw [(load_eq_found stem store _ _ _ after notes ht).1] at h
        exact loadable_of_decode _ _ _ state (decode_of_found _ state h)

variable (working : WorkingStore σ)

theorem getTexts_working (stem : Text) (store : σ) (h : working.Ready store) :
    ∃ after notes, getTexts stem store =
        ⟨.ok (working.holds store (treeKey stem), working.holds store (userKey stem),
          working.holds store (pathKey stem)), after, notes⟩ ∧
      working.Ready after ∧ working.holds after = working.holds store := by
  obtain ⟨s₁, n₁, h₁, r₁, e₁⟩ := working.get_spec store (treeKey stem) h
  obtain ⟨s₂, n₂, h₂, r₂, e₂⟩ := working.get_spec s₁ (userKey stem) r₁
  obtain ⟨s₃, n₃, h₃, r₃, e₃⟩ := working.get_spec s₂ (pathKey stem) r₂
  refine ⟨s₃, n₁ ++ (n₂ ++ (n₃ ++ [])), ?_, r₃, e₃.trans (e₂.trans e₁)⟩
  simp only [getTexts, Reply.andThen, h₁, h₂, h₃, e₁, e₂]

theorem load_working (stem : Text) (store : σ) (h : working.Ready store) :
    (load stem store).1 = found (decode (working.holds store (treeKey stem))
        (working.holds store (userKey stem)) (working.holds store (pathKey stem))) ∧
      working.Ready (load stem store).2.1 ∧
      working.holds (load stem store).2.1 = working.holds store := by
  obtain ⟨after, notes, ht, hr, he⟩ := getTexts_working working stem store h
  obtain ⟨loaded, left⟩ := load_eq_found stem store _ _ _ after notes ht
  rw [left]
  exact ⟨loaded, hr, he⟩

theorem setAll_working (store : σ) (entries : List (Text × Text)) (h : working.Ready store)
    (hn : (entries.map Prod.fst).Nodup) :
    ∃ after notes, setAll store entries = ⟨.ok (), after, notes⟩ ∧ working.Ready after ∧
      (∀ entry ∈ entries, working.holds after entry.1 = some entry.2) ∧
      ∀ key, key ∉ entries.map Prod.fst → working.holds after key = working.holds store key := by
  induction entries generalizing store with
  | nil => exact ⟨store, [], rfl, h, by simp, fun _ _ => rfl⟩
  | cons entry rest ih =>
      obtain ⟨key, value⟩ := entry
      rw [List.map_cons, List.nodup_cons] at hn
      obtain ⟨s₁, n₁, h₁, r₁, e₁⟩ := working.set_spec store key value h
      obtain ⟨s₂, n₂, h₂, r₂, inside, outside⟩ := ih s₁ r₁ hn.2
      refine ⟨s₂, n₁ ++ n₂, by simp only [setAll, Reply.andThen, h₁, h₂], r₂, ?_, ?_⟩
      · intro other ho
        cases ho with
        | head => rw [outside key hn.1, e₁, if_pos rfl]
        | tail _ ho => exact inside other ho
      · intro other ho
        rw [List.map_cons, List.mem_cons, not_or] at ho
        rw [outside other ho.2, e₁, if_neg (Ne.symm ho.1)]

theorem save_working (stem : Text) (state : SavedState) (store : σ) (h : working.Ready store) :
    working.Ready (save stem state store).1 ∧
      (∀ entry ∈ entries stem state,
        working.holds (save stem state store).1 entry.1 = some entry.2) ∧
      ∀ key, key ∉ keys stem →
        working.holds (save stem state store).1 key = working.holds store key := by
  obtain ⟨after, notes, hs, hr, inside, outside⟩ :=
    setAll_working working store (entries stem state) h (keys_nodup stem)
  rw [save, hs]
  exact ⟨hr, inside, outside⟩

/-- Three texts that are there are found as the state that they stand for. -/
theorem load_texts (stem : Text) (store : σ) (state : SavedState) (h : working.Ready store)
    (hd : state.root.Distinct) (hu : state.user ≠ []) (hp : state.path ≠ [])
    (tree : working.holds store (treeKey stem) = some state.root.treeText)
    (user : working.holds store (userKey stem) = some state.user)
    (path : working.holds store (pathKey stem) = some state.path) :
    (load stem store).1 = .ok state.ifThere := by
  rw [(load_working working stem store h).1, tree, user, path, decode_texts state hd hu hp,
    SavedState.ifThere]
  split <;> rfl

/-- After a save, a look for the checkpoint finds the state if its path leads to a node, and
nothing otherwise. -/
theorem load_save (stem : Text) (state : SavedState) (store : σ) (h : working.Ready store)
    (hd : state.root.Distinct) (hu : state.user ≠ []) (hp : state.path ≠ []) :
    (load stem (save stem state store).1).1 =
      .ok (if (state.root.walk (Path.segments state.path)).isSome then some state else none) := by
  obtain ⟨ready, inside, _⟩ := save_working working stem state store h
  exact load_texts working stem _ state ready hd hu hp
    (inside (treeKey stem, state.root.treeText) (by simp [entries]))
    (inside (userKey stem, state.user) (by simp [entries]))
    (inside (pathKey stem, state.path) (by simp [entries]))

/-- A tree without repeated names, a user and a path that leads to a node come back from a
checkpoint exactly as they were saved; and so does everything that a checkpoint gives. -/
theorem saved_state_comes_back (stem : Text) :
    (∀ (store : σ) (state : SavedState), working.Ready store →
      state.root.Distinct → state.user ≠ [] → state.path ≠ [] →
      (state.root.walk (Path.segments state.path)).isSome →
      (load stem (save stem state store).1).1 = .ok (some state)) ∧
    ∀ (store : σ) (state : SavedState), working.Ready store →
      (load stem store).1 = .ok (some state) →
      (load stem (save stem state (load stem store).2.1).1).1 = .ok (some state) := by
  have back (store : σ) (state : SavedState) (h : working.Ready store) (hl : state.Loadable) :
      (load stem (save stem state store).1).1 = .ok (some state) := by
    rw [load_save working stem state store h hl.distinct hl.user_ne_nil hl.path_ne_nil,
      if_pos hl.walks]
  refine ⟨fun store state h hd hu hp hw => back store state h ⟨hd, hu, hp, hw⟩, ?_⟩
  intro store state h hs
  exact back _ state (load_working working stem store h).2.1 (loadable_of_load stem store state hs)

/-- Names and contents with what JSON has to escape, with halves by themselves and beside each
other, and a path that is not in its normal form. -/
def quotedState : SavedState where
  root := .cons "a\"b\\" (.dir (.cons "\n" (.file "tab\tquote\"\r\n") (.cons "" (.dir .nil) .nil)))
    (.cons [.half 0] (.file [.half 0x3FF, .half 0x400]) (.cons [.half 1] (.file []) .nil))
  user := "root"
  path := "//a\"b\\/"

theorem quotedState_comes_back :
    let saved := (save "shop" quotedState ({} : MemoryStore)).1
    (quotedState.root.Distinct ∧ quotedState.user ≠ [] ∧ quotedState.path ≠ [] ∧
      (quotedState.root.walk (Path.segments quotedState.path)).isSome) ∧
    (load "shop" saved).1 = .ok (some quotedState) ∧
    (load "shop" (save "shop" quotedState (load "shop" saved).2.1).1).1 =
      .ok (some quotedState) := by
  intro saved
  have distinct : quotedState.root.Distinct := by
    simp [quotedState, Directory.Distinct, Directory.WellNamed, Node.WellNamed, Directory.get?]
  have user_ne_nil : quotedState.user ≠ [] := by decide
  have path_ne_nil : quotedState.path ≠ [] := by decide
  have walks : (quotedState.root.walk (Path.segments quotedState.path)).isSome := by decide
  have back : (load "shop" saved).1 = .ok (some quotedState) :=
    (saved_state_comes_back MemoryStore.working "shop").1 {} quotedState trivial distinct
      user_ne_nil path_ne_nil walks
  exact ⟨⟨distinct, user_ne_nil, path_ne_nil, walks⟩, back,
    (saved_state_comes_back MemoryStore.working "shop").2 saved quotedState trivial back⟩

end Checkpoint
end PocketShell
