import PocketShell.Proofs.Store.File

/-!
Changes that could not be written. Once a store in a file has read its entries, it answers from
them alone, and it changes them before it writes them. So a change stays with the store when the
file cannot be written, although the call fails and may have spoiled the file; and since the
entries are always written as a whole, the next write that succeeds takes the change along.
-/

namespace PocketShell

namespace FileStore

open KeyValueStore

variable {s : FileStore} {m : MemoryStore}

/-- No file but that of the store is touched, and that is written over from its beginning. -/
theorem overwrites_writeDisk (s : FileStore) (m : MemoryStore) :
    s.disk.Overwrites (s.writeDisk m).1 s.path.place (fileFront m) := by
  have kept := (Disk.makeDirectoriesUp_frame s.disk s.path.names.dropLast.reverse).1
  simp only [writeDisk, Disk.makeDirectories]
  split
  · next failed =>
    rw [failed] at kept
    exact .inl kept
  · next made prepared =>
    have kept : made.files = s.disk.files := by
      rw [prepared] at kept
      exact kept
    have written := made.overwrites_write s.path.names (fileFront m)
    rw [Disk.Overwrites, kept, fileFront] at written
    split
    · next torn =>
      rw [torn] at written
      exact written
    · next done =>
      rw [done] at written
      exact written

/-- The entries are kept in any case, whether they are written or not. -/
theorem keep_spec (s : FileStore) (m : MemoryStore) :
    ∃ disk, (s.keep m).store = { s with disk := disk, loaded := some m } ∧
      s.disk.Overwrites disk s.path.place (fileFront m) ∧
      s.writeDisk m = (disk, (s.keep m).outcome) :=
  ⟨(s.writeDisk m).1, rfl, s.overwrites_writeDisk m, rfl⟩

/-- The store has read its entries, and answers from them. -/
structure Remembers (s : FileStore) (m : MemoryStore) : Prop where
  loaded : s.loaded = some m
  different : m.entries.keys.Nodup
  good : s.path.fault? = none

theorem Remembers.load (h : Remembers s m) : s.load = ⟨.ok m, s, []⟩ := by
  simp only [FileStore.load, h.loaded]

theorem Remembers.get (h : Remembers s m) (key : Text) :
    answer s (.get key) = (.ok (m.get key), s) := by
  change ((s.get key).outcome, (s.get key).store) = _
  rw [FileStore.get, h.load]
  rfl

theorem Remembers.set (h : Remembers s m) (key value : Text) :
    answer s (.set key value) =
      ((s.keep (m.set key value)).outcome.map fun _ => none, (s.keep (m.set key value)).store) := by
  change ((s.set key value).outcome.map _, (s.set key value).store) = _
  rw [FileStore.set, h.load]
  rfl

theorem Remembers.remove_there (h : Remembers s m) {key : Text} (there : m.contains key = true) :
    answer s (.remove key) =
      ((s.keep (m.remove key)).outcome.map fun _ => none, (s.keep (m.remove key)).store) := by
  change ((s.remove key).outcome.map _, (s.remove key).store) = _
  rw [FileStore.remove, h.load]
  simp only [Reply.andThen, there, if_true]

/-- A key that is not there is neither removed nor written. -/
theorem Remembers.remove_absent (h : Remembers s m) {key : Text}
    (absent : m.contains key = false) :
    answer s (.remove key) = (.ok none, s) ∧ m.remove key = m := by
  refine ⟨?_, congrArg MemoryStore.mk
    (OrderedMap.erase_of_not_mem (OrderedMap.contains_eq_false_iff.mp absent))⟩
  change ((s.remove key).outcome.map _, (s.remove key).store) = _
  rw [FileStore.remove, h.load]
  simp only [Reply.andThen, absent]
  rfl

theorem Remembers.keep (h : Remembers s m) {m' : MemoryStore}
    (different : m'.entries.keys.Nodup) : Remembers (s.keep m').store m' := by
  obtain ⟨disk, store, _⟩ := s.keep_spec m'
  rw [store]
  exact ⟨rfl, different, h.good⟩

/-- A request is remembered as a store in memory does it, whether it can be written or not. -/
theorem Remembers.answer (h : Remembers s m) (request : StoreRequest) :
    Remembers (KeyValueStore.answer s request).2 (KeyValueStore.answer m request).2 := by
  cases request with
  | get key =>
      rw [h.get key]
      exact h
  | set key value =>
      rw [h.set key value]
      exact h.keep (OrderedMap.nodup_insert h.different key value)
  | remove key =>
      cases there : m.contains key with
      | true =>
          rw [h.remove_there there]
          exact h.keep (OrderedMap.nodup_erase h.different key)
      | false =>
          obtain ⟨answered, same⟩ := h.remove_absent there
          rw [answered]
          change Remembers s (m.remove key)
          rwa [same]

/-- A request that fails is a change, and what is left of it on the disk is a beginning at most. -/
theorem Remembers.overwrites (h : Remembers s m) {request : StoreRequest} {fault : StoreFault}
    (failed : (KeyValueStore.answer s request).1 = .error fault) :
    s.disk.Overwrites (KeyValueStore.answer s request).2.disk s.path.place
      (fileFront (KeyValueStore.answer m request).2) := by
  have kept (m' : MemoryStore) : s.disk.Overwrites (s.keep m').store.disk s.path.place
      (fileFront m') := by
    obtain ⟨disk, store, touched, _⟩ := s.keep_spec m'
    rw [store]
    exact touched
  cases request with
  | get key =>
      rw [h.get key] at failed
      cases failed
  | set key value =>
      rw [h.set key value]
      exact kept _
  | remove key =>
      cases there : m.contains key with
      | true =>
          rw [h.remove_there there]
          exact kept _
      | false =>
          rw [(h.remove_absent there).1] at failed
          cases failed

/-- What is set successfully is in the file then, with all that the store remembers. -/
theorem Remembers.shows_set (h : Remembers s m) {key value : Text}
    (done : (KeyValueStore.answer s (.set key value)).1 = .ok none) :
    Shows (KeyValueStore.answer s (.set key value)).2 (m.set key value) := by
  rw [h.set key value] at done ⊢
  obtain ⟨disk, store, _, written⟩ := s.keep_spec (m.set key value)
  cases result : (s.keep (m.set key value)).outcome with
  | ok =>
      rw [result] at written
      rw [store]
      exact shows_of_writeDisk h.good (OrderedMap.nodup_insert h.different key value) written
  | error fault =>
      rw [result] at done
      cases done

/-- A store remembers nothing yet, or entries with different keys. -/
def Sound (s : FileStore) : Prop := ∀ m, s.loaded = some m → s.Remembers m

/-- After the entries have been read, a request is answered as if they had been read before. -/
theorem answer_of_load {read : FileStore} {notes : List LogEntry}
    (loads : s.load = ⟨.ok m, read, notes⟩) (again : read.load = ⟨.ok m, read, []⟩)
    (request : StoreRequest) : answer s request = answer read request := by
  cases request with
  | get key =>
      change ((s.get key).outcome, (s.get key).store) =
        ((read.get key).outcome, (read.get key).store)
      rw [FileStore.get, FileStore.get, loads, again]
      rfl
  | set key value =>
      change ((s.set key value).outcome.map _, (s.set key value).store) =
        ((read.set key value).outcome.map _, (read.set key value).store)
      rw [FileStore.set, FileStore.set, loads, again]
      rfl
  | remove key =>
      change ((s.remove key).outcome.map _, (s.remove key).store) =
        ((read.remove key).outcome.map _, (read.remove key).store)
      rw [FileStore.remove, FileStore.remove, loads, again]
      rfl

/-- A store has its entries or reads them for the next request; if they cannot be read, every
request fails and nothing changes. -/
theorem Sound.cases (h : s.Sound) :
    (∃ fault, s.readFile = .error fault ∧ ∀ request, answer s request = (.error fault, s)) ∨
      ∃ m, Remembers { s with loaded := some m } m ∧
        ∀ request, answer s request = answer { s with loaded := some m } request := by
  cases loaded : s.loaded with
  | some m =>
      have same : ({ s with loaded := some m } : FileStore) = s := by rw [← loaded]
      exact .inr ⟨m, same.symm ▸ h m loaded, fun _ => by rw [same]⟩
  | none =>
      match file : s.readFile with
      | .error fault =>
          have fails := load_of_readFile_error loaded file
          exact .inl ⟨fault, rfl, answer_of_load_error fails⟩
      | .ok (m, ignored) =>
          have remembers : Remembers { s with loaded := some m } m :=
            ⟨rfl, nodup_of_readFile file, good_of_readFile file⟩
          obtain ⟨notes, loads⟩ := load_of_readFile loaded file
          exact .inr ⟨m, remembers, answer_of_load loads remembers.load⟩

/-- What befalls a store: a request, or a change that the host makes to the disk. -/
inductive Deed
  | ask (request : StoreRequest)
  | host (disk : Disk)

def Deed.request? : Deed → Option StoreRequest
  | .ask request => some request
  | .host _ => none

def undergo (s : FileStore) : Deed → FileStore
  | .ask request => (answer s request).2
  | .host disk => { s with disk := disk }

def undergoAll (s : FileStore) (deeds : List Deed) : FileStore := deeds.foldl undergo s

theorem Remembers.sound (h : Remembers s m) : s.Sound := by
  intro m' loaded
  cases h.loaded.symm.trans loaded
  exact h

theorem Sound.undergo (h : s.Sound) (deed : Deed) : (s.undergo deed).Sound := by
  cases deed with
  | host disk => exact fun m loaded => ⟨loaded, (h m loaded).different, (h m loaded).good⟩
  | ask request =>
      rcases h.cases with ⟨fault, _, fails⟩ | ⟨m, remembers, same⟩
      · simp only [FileStore.undergo, fails]
        exact h
      · simp only [FileStore.undergo, same]
        exact (remembers.answer request).sound

theorem Sound.undergoAll (h : s.Sound) (deeds : List Deed) : (s.undergoAll deeds).Sound := by
  induction deeds generalizing s with
  | nil => exact h
  | cons deed deeds ih => exact ih (h.undergo deed)

/-- Whether changes are written or not, the store remembers what a store in memory would. -/
theorem Remembers.undergoAll (h : Remembers s m) (deeds : List Deed) :
    Remembers (s.undergoAll deeds) (afterAll m (deeds.filterMap Deed.request?)) := by
  induction deeds generalizing s m with
  | nil => exact h
  | cons deed deeds ih =>
      cases deed with
      | ask request => exact ih (h.answer request)
      | host disk => exact ih (s := s.undergo (.host disk)) ⟨h.loaded, h.different, h.good⟩

theorem not_unwritable_of_fault? {path : DiskPath} {fault : StoreFault}
    (bad : path.fault? = some fault) (cause : DiskError) : fault ≠ .unwritable cause := by
  rw [DiskPath.fault?] at bad
  split at bad
  · cases bad
    nofun
  · split at bad
    · cases bad
      nofun
    · cases bad

theorem not_unwritable_of_readFile {fault : StoreFault} (unread : s.readFile = .error fault)
    (cause : DiskError) : fault ≠ .unwritable cause := by
  have finds := s.finds
  rw [unread] at finds
  cases finds with
  | badPath _ bad => exact not_unwritable_of_fault? bad cause
  | noText | longNumber => nofun

/-- When a change cannot be written, the store goes on as if the call had not failed: it answers
from its entries with the change in them, and with the later changes, whether these are written or
not. The next set that succeeds writes all of them, so a store that is opened on the file then
finds the change as well. On the disk, the failed call leaves a beginning of the new text in the
file at most, and every other file as it was. -/
theorem unwritten_changes_are_kept (path : DiskPath) (disk : Disk) (past : List Deed)
    {request : StoreRequest} {cause : DiskError} :
    let s := undergoAll { path := path, disk := disk } past
    let after := (answer s request).2
    (answer s request).1 = .error (.unwritable cause) →
    ∃ m : MemoryStore, (∀ key, (answer s (.get key)).1 = .ok (m.get key)) ∧
      s.disk.Overwrites after.disk s.path.place (fileFront (answer m request).2) ∧
      ∀ deeds : List Deed,
        let later := after.undergoAll deeds
        let kept := afterAll m (request :: deeds.filterMap Deed.request?)
        (∀ key, (answer later (.get key)).1 = .ok (kept.get key)) ∧
        ∀ key value, (answer later (.set key value)).1 = .ok none →
          let written := (answer later (.set key value)).2
          ∀ other, (answer written.reopen (.get other)).1 =
            .ok ((kept.set key value).get other) := by
  intro s after failed
  have sound : s.Sound := Sound.undergoAll (fun m loaded => by cases loaded) past
  rcases sound.cases with ⟨fault, unread, fails⟩ | ⟨m, remembers, same⟩
  · rw [fails] at failed
    exact absurd (Except.error.inj failed) (not_unwritable_of_readFile unread cause)
  · have remembers_after := remembers.answer request
    simp only [after, same] at failed ⊢
    refine ⟨m, fun key => ?_, remembers.overwrites failed, fun deeds => ?_⟩
    · rw [remembers.get key]
    · have remembers_later := remembers_after.undergoAll deeds
      refine ⟨fun key => ?_, fun key value done other => ?_⟩
      · rw [remembers_later.get key]
        rfl
      · exact (remembers_later.shows_set done).reopen.answer_get other

/-- A disk on which a file stands in the way of the directory of the store. -/
def blockedDisk : Disk := { files := .ofList [(["state"], "in the way".toUTF8)] }

def statePath : DiskPath := ⟨[], ["state", "s.json"]⟩

/-- An entry cannot be removed from its file while another file stands in the way, and is removed
from it by the next set behind that. -/
theorem removal_is_written_later :
    let past : List Deed := [.ask (.set "a" "1"), .host blockedDisk]
    let s := undergoAll { path := statePath, disk := {} } past
    let after := (answer s (.remove "a")).2
    let later := after.undergoAll [.host {}]
    let written := (answer later (.set "b" "2")).2
    (answer s (.remove "a")).1 = .error (.unwritable .fileExists) ∧
      (answer s (.get "a")).1 = .ok (some ("1" : Text)) ∧
      (answer after (.get "a")).1 = .ok none ∧
      (answer later (.set "b" "2")).1 = .ok none ∧
      (answer written.reopen (.get "a")).1 = .ok none ∧
      (answer written.reopen (.get "b")).1 = .ok (some ("2" : Text)) := by
  intro past s after later written
  have failed : (answer s (.remove "a")).1 = .error (.unwritable .fileExists) := rfl
  have done : (answer later (.set "b" "2")).1 = .ok none := rfl
  obtain ⟨m, _, _, kept⟩ := unwritten_changes_are_kept statePath {} past failed
  obtain ⟨now, _⟩ := kept []
  obtain ⟨_, found⟩ := kept [.host {}]
  have gone : (m.remove "a").get "a" = none := by
    simp [MemoryStore.get, MemoryStore.remove, OrderedMap.get?_erase]
  have gone_later : ((m.remove "a").set "b" "2").get "a" = none := by
    simpa [MemoryStore.get, MemoryStore.set, OrderedMap.get?_insert] using gone
  have there : ((m.remove "a").set "b" "2").get "b" = some ("2" : Text) := by
    simp [MemoryStore.get, MemoryStore.set, OrderedMap.get?_insert]
  exact ⟨failed, rfl, (now "a").trans (congrArg Except.ok gone), done,
    (found "b" "2" done "a").trans (congrArg Except.ok gone_later),
    (found "b" "2" done "b").trans (congrArg Except.ok there)⟩

/-- What a failed call was to set is answered by the next get, where nothing was answered before;
and once the directory can be made, it goes to the file with the set of another key. -/
theorem failed_set_is_answered :
    let s : FileStore := { path := statePath, disk := blockedDisk }
    let after := (answer s (.set "a" "1")).2
    let later := after.undergo (.host {})
    let written := (answer later (.set "b" "2")).2
    (answer s (.get "a")).1 = .ok none ∧
      (answer s (.set "a" "1")).1 = .error (.unwritable .fileExists) ∧
      (answer after (.get "a")).1 = .ok (some ("1" : Text)) ∧
      (answer later (.set "b" "2")).1 = .ok none ∧
      (answer written.reopen (.get "a")).1 = .ok (some ("1" : Text)) := by
  intro s after later written
  have remembers : later.Remembers (MemoryStore.set {} "a" "1") := ⟨rfl, by decide, rfl⟩
  have done : (answer later (.set "b" "2")).1 = .ok none := rfl
  have found := (remembers.shows_set done).reopen.answer_get "a"
  exact ⟨rfl, rfl, rfl, done, found⟩

/-- A store on a good file, on a disk that has no more room than for that. -/
def crowdedStore : FileStore where
  path := ⟨[], ["s.json"]⟩
  disk :=
    { files := .ofList [(["s.json"], fileFront (.ofList [("a", "1")]))], room := some 15 }

/-- A write that breaks off spoils the file, although the store itself knows what was in it. -/
example :
    (answer crowdedStore (.set "b" "2")).1.toOption = none ∧
      (answer (answer crowdedStore (.set "b" "2")).2 (.get "a")).1.toOption =
        some (some ("1" : Text)) ∧
      (answer (answer crowdedStore (.set "b" "2")).2.reopen (.get "a")).1.toOption = some none := by
  decide +kernel

end FileStore
end PocketShell
