import PocketShell.Proofs.Checkpoint.Keys
import PocketShell.Proofs.Checkpoint.RoundTrip

/-!
Saves that are cut short. The three texts are set one after the other, the tree first and the path
last, and the first call that fails ends the save: the texts before it are new, and the others are
as they were. A look for the checkpoint takes them for one state. So it finds the new tree with the
path from before, as far as that path leads anywhere in the new tree, or it finds nothing.
-/

namespace PocketShell.Checkpoint

theorem settle_store {σ : Type} (what : Text) (reply : Reply σ Unit) :
    (settle what reply).1 = reply.store := by
  obtain ⟨outcome, store, notes⟩ := reply
  cases outcome <;> rfl

/-- The entries up to the first one whose call fails are set, and none behind it. -/
theorem setAll_unreliable (store : UnreliableStore) (entries : List (Text × Text)) :
    (setAll store entries).store =
      { store with
        memory := (entries.takeWhile fun entry => !store.fails .set entry.1).foldl
          (fun memory entry => memory.set entry.1 entry.2) store.memory } := by
  induction entries generalizing store with
  | nil => rfl
  | cons entry rest ih =>
      obtain ⟨key, value⟩ := entry
      cases refused : store.fails .set key with
      | true =>
          have first : KeyValueStore.set store key value = ⟨.error .quotaExceeded, store, []⟩ := by
            simp [KeyValueStore.set, refused]
          simp only [setAll, first, Reply.andThen, List.takeWhile_cons, refused, Bool.not_true,
            Bool.false_eq_true, if_false, List.foldl_nil]
      | false =>
          let next : UnreliableStore := { store with memory := store.memory.set key value }
          have first : KeyValueStore.set store key value = ⟨.ok (), next, []⟩ := by
            simp [KeyValueStore.set, refused, next]
          have same : next.fails = store.fails := rfl
          simp only [setAll, first, Reply.andThen, ih next, same, List.takeWhile_cons, refused,
            Bool.not_false, if_true, List.foldl_cons]
          rfl

/-- User and path are read as they are written. -/
theorem texts_of_decode {tree user path : Option Text} {state : SavedState}
    (decoded : decode tree user path = .ok state) :
    user = some state.user ∧ path = some state.path := by
  have read {text : Option Text} {c : CodePoint} {rest : Text} (given : text.getD [] = c :: rest) :
      text = some (c :: rest) := by
    cases text with
    | none => cases given
    | some text => exact congrArg some given
  simp only [decode] at decoded
  split at decoded
  · next user_eq path_eq =>
    split at decoded
    · cases decoded
    · cases decoded
    · split at decoded
      · cases decoded
      · split at decoded
        · cases decoded
        · cases decoded
          exact ⟨read user_eq, read path_eq⟩
  · cases decoded

section CutShort

variable {stem : Text} {store : UnreliableStore} {old new : SavedState}

/-- The texts that a save leaves in the memory of the store. -/
theorem save_memory_eq (stem : Text) (new : SavedState) (store : UnreliableStore) :
    (save stem new store).1.memory =
      ((entries stem new).takeWhile fun entry => !store.fails .set entry.1).foldl
        (fun memory entry => memory.set entry.1 entry.2) store.memory := by
  rw [save, settle_store, setAll_unreliable]

theorem keys_ne (stem : Text) :
    treeKey stem ≠ userKey stem ∧ treeKey stem ≠ pathKey stem ∧ userKey stem ≠ pathKey stem := by
  have different := keys_nodup stem
  simp only [keys, List.nodup_cons, List.mem_cons, List.not_mem_nil, or_false, not_or] at different
  exact ⟨different.1.1, different.1.2, different.2.1⟩

/-- What the save leaves under each of its keys, by the calls that fail. -/
theorem texts_cut_short (stem : Text) (store : UnreliableStore) (new : SavedState) :
    let memory := (save stem new store).1.memory
    let tree := store.fails .set (treeKey stem)
    let user := tree || store.fails .set (userKey stem)
    let path := user || store.fails .set (pathKey stem)
    memory.get (treeKey stem) =
        (if tree then store.memory.get (treeKey stem) else some new.root.treeText) ∧
      memory.get (userKey stem) =
        (if user then store.memory.get (userKey stem) else some new.user) ∧
      memory.get (pathKey stem) =
        (if path then store.memory.get (pathKey stem) else some new.path) := by
  obtain ⟨tree_user, tree_path, user_path⟩ := keys_ne stem
  intro memory tree user path
  simp only [memory, tree, user, path, save_memory_eq, entries]
  by_cases tree_fails : store.fails .set (treeKey stem)
  · simp [tree_fails]
  · by_cases user_fails : store.fails .set (userKey stem)
    · simp [tree_fails, user_fails, MemoryStore.get_set, tree_user, tree_path]
    · by_cases path_fails : store.fails .set (pathKey stem) <;>
        simp [tree_fails, user_fails, path_fails, MemoryStore.get_set, tree_user.symm,
          tree_path, tree_path.symm, user_path, user_path.symm]

/-- What is found after a save that some calls may have cut short. -/
def foundAfter (stem : Text) (store : UnreliableStore) (old new : SavedState) : Option SavedState :=
  if store.fails .set (treeKey stem) then some old
  else if store.fails .set (userKey stem) then SavedState.ifThere ⟨new.root, old.user, old.path⟩
  else if store.fails .set (pathKey stem) then SavedState.ifThere ⟨new.root, new.user, old.path⟩
  else some new

theorem load_cut_short (held : (load stem store.memory).1 = .ok (some old)) (fits : new.Loadable) :
    (load stem (save stem new store).1.memory).1 = .ok (foundAfter stem store old new) := by
  have loadable := loadable_of_load stem store.memory old held
  have decoded := (load_working MemoryStore.working stem store.memory trivial).1
  obtain ⟨old_user, old_path⟩ := texts_of_decode (decode_of_found _ _ (decoded.symm.trans held))
  have old_user : store.memory.get (userKey stem) = some old.user := old_user
  have old_path : store.memory.get (pathKey stem) = some old.path := old_path
  obtain ⟨tree, user, path⟩ := texts_cut_short stem store new
  rw [old_user] at user
  rw [old_path] at path
  -- behind the tree, each text is the old or the new one, and there either way
  have new_tree (user path : Text) (user_ne_nil : user ≠ []) (path_ne_nil : path ≠ []) :=
    load_texts MemoryStore.working stem (save stem new store).1.memory ⟨new.root, user, path⟩
      trivial fits.distinct user_ne_nil path_ne_nil
  simp only [foundAfter]
  by_cases tree_fails : store.fails .set (treeKey stem)
  · have unset : (save stem new store).1.memory = store.memory := by
      simp [save_memory_eq, entries, tree_fails]
    rw [unset, held, if_pos tree_fails]
  · rw [if_neg tree_fails]
    by_cases user_fails : store.fails .set (userKey stem)
    · rw [if_pos user_fails]
      simp only [tree_fails, user_fails] at tree user path
      exact new_tree _ _ loadable.user_ne_nil loadable.path_ne_nil tree user path
    · rw [if_neg user_fails]
      by_cases path_fails : store.fails .set (pathKey stem)
      · rw [if_pos path_fails]
        simp only [tree_fails, user_fails, path_fails] at tree user path
        exact new_tree _ _ fits.user_ne_nil loadable.path_ne_nil tree user path
      · rw [if_neg path_fails, ← fits.ifThere_eq]
        simp only [tree_fails, user_fails, path_fails] at tree user path
        exact new_tree _ _ fits.user_ne_nil fits.path_ne_nil tree user path

theorem foundAfter_isSome (stem : Text) (store : UnreliableStore)
    (leads : (new.root.walk (Path.segments old.path)).isSome) :
    ∃ state, foundAfter stem store old new = some state := by
  have there (user : Text) : SavedState.ifThere ⟨new.root, user, old.path⟩ =
      some ⟨new.root, user, old.path⟩ := if_pos leads
  simp only [foundAfter, there]
  split
  · exact ⟨_, rfl⟩
  · split
    · exact ⟨_, rfl⟩
    · split <;> exact ⟨_, rfl⟩

/-- Two states that differ in one part at most have no mixture besides themselves. -/
theorem foundAfter_of_alike (stem : Text) (store : UnreliableStore) (loadable : old.Loadable)
    (fits : new.Loadable)
    (alike : old.user = new.user ∧ old.path = new.path ∨
      old.root = new.root ∧ (old.user = new.user ∨ old.path = new.path)) :
    foundAfter stem store old new = some old ∨ foundAfter stem store old new = some new := by
  have mixed {state : SavedState} (one : state = old ∨ state = new) :
      state.ifThere = some old ∨ state.ifThere = some new := by
    rcases one with rfl | rfl
    · exact .inl loadable.ifThere_eq
    · exact .inr fits.ifThere_eq
  have with_old_user : (⟨new.root, old.user, old.path⟩ : SavedState) = old ∨
      (⟨new.root, old.user, old.path⟩ : SavedState) = new := by
    rcases alike with ⟨user, path⟩ | ⟨root, _⟩
    · exact .inr (by rw [user, path])
    · exact .inl (by rw [← root])
  have with_new_user : (⟨new.root, new.user, old.path⟩ : SavedState) = old ∨
      (⟨new.root, new.user, old.path⟩ : SavedState) = new := by
    rcases alike with ⟨_, path⟩ | ⟨root, user | path⟩
    · exact .inr (by rw [path])
    · exact .inl (by rw [← root, ← user])
    · exact .inr (by rw [path])
  simp only [foundAfter]
  split
  · exact .inl rfl
  · split
    · exact mixed with_old_user
    · split
      · exact mixed with_new_user
      · exact .inr rfl

/-- After a save that may have failed, the old state is found if the tree was not set, and the new
one if all was set. In between it is the new tree with the old path, with the old user or with the
new one, if that path leads somewhere in that tree, and nothing if it does not. So something is
found whenever the old path is in the new tree; and it is the old or the new state whenever the two
differ in one part at most. -/
theorem failed_save_keeps_old_path (held : (load stem store.memory).1 = .ok (some old))
    (fits : new.Loadable) :
    let found := (load stem (save stem new store).1.memory).1
    found = .ok (foundAfter stem store old new) ∧
      ((new.root.walk (Path.segments old.path)).isSome → ∃ state, found = .ok (some state)) ∧
      (old.user = new.user ∧ old.path = new.path ∨
          old.root = new.root ∧ (old.user = new.user ∨ old.path = new.path) →
        found = .ok (some old) ∨ found = .ok (some new)) := by
  intro found
  have loadable := loadable_of_load stem store.memory old held
  have found_eq : found = .ok (foundAfter stem store old new) := load_cut_short held fits
  refine ⟨found_eq, fun leads => ?_, fun alike => ?_⟩
  · obtain ⟨state, there⟩ := foundAfter_isSome stem store leads
    exact ⟨state, by rw [found_eq, there]⟩
  · rw [found_eq]
    exact (foundAfter_of_alike stem store loadable fits alike).imp (congrArg Except.ok)
      (congrArg Except.ok)

/-- A guest at home, and what can follow: root has added a file, or has cleared everything away. -/
def guestState : SavedState where
  root := .cons "home" (.dir (.cons "guest" (.dir .nil) .nil)) .nil
  user := "guest"
  path := "/home/guest"

def rootState : SavedState where
  root := .cons "home" (.dir (.cons "guest" (.dir .nil) .nil)) (.cons "motd" (.file "hi\n") .nil)
  user := "root"
  path := "/"

def clearedState : SavedState := ⟨.nil, "root", "/"⟩

/-- A store with the state of the guest, in which one key cannot be set any more. -/
def guestStore (stuck : Text) : UnreliableStore where
  memory := (save "shop" guestState ({} : MemoryStore)).1
  outages := [⟨.set, some stuck⟩]

theorem guestState_found (stuck : Text) :
    (load "shop" (guestStore stuck).memory).1 = .ok (some guestState) := rfl

theorem rootState_loadable : rootState.Loadable where
  distinct := by
    simp [rootState, Directory.Distinct, Directory.WellNamed, Node.WellNamed, Directory.get?]
  user_ne_nil := by decide
  path_ne_nil := by decide
  walks := by decide

/-- Root is found at the home of the guest. -/
theorem root_is_found_at_guest :
    let store := guestStore (pathKey "shop")
    (load "shop" store.memory).1 = .ok (some guestState) ∧ rootState.Loadable ∧
      store.fails .set (pathKey "shop") ∧
      (load "shop" (save "shop" rootState store).1.memory).1 =
        .ok (some ⟨rootState.root, "root", "/home/guest"⟩) := by
  intro store
  have held : (load "shop" store.memory).1 = .ok (some guestState) := guestState_found _
  obtain ⟨found, _⟩ := failed_save_keeps_old_path held rootState_loadable
  exact ⟨held, rootState_loadable, by decide +kernel, found.trans rfl⟩

/-- The guest has the tree of root, or is lost with the home directory. -/
theorem failed_save_is_torn :
    let found (new : SavedState) (stuck : Text) :=
      (load "shop" (save "shop" new (guestStore stuck)).1.memory).1
    (load "shop" (guestStore (userKey "shop")).memory).1 = .ok (some guestState) ∧
      rootState.Loadable ∧ clearedState.Loadable ∧
      found rootState (userKey "shop") = .ok (some ⟨rootState.root, "guest", "/home/guest"⟩) ∧
      found rootState (userKey "shop") ≠ .ok (some guestState) ∧
      found rootState (userKey "shop") ≠ .ok (some rootState) ∧
      found clearedState (pathKey "shop") = .ok none := by
  intro found
  have torn : found rootState (userKey "shop") =
      .ok (some ⟨rootState.root, "guest", "/home/guest"⟩) := rfl
  have cleared : clearedState.Loadable := ⟨trivial, by decide, by decide, by decide⟩
  refine ⟨guestState_found _, rootState_loadable, cleared, torn, ?_, ?_, rfl⟩
  · rw [torn]
    simp [guestState, rootState]
  · rw [torn]
    simp [rootState]

end CutShort
end PocketShell.Checkpoint
