import PocketShell.Proofs.Store.File

/-!
Damaged state files. A file that is not there, that cannot be read or that is no JSON counts as
empty, and so does one whose JSON is no object; the next set writes a good file in its place. Two
kinds of damage are not overcome, and every request fails on them for as long as they are there:
bytes that are no text, and a number with too many digits. A third kind is answered and cannot be
written back: JSON may name a half, for which there are no bytes in a file.
-/

namespace PocketShell.FileStore

open KeyValueStore

/-- What is in the file cannot even be taken for nothing. -/
inductive Spoiled (s : FileStore) : StoreFault → Prop
  | noText {bytes : ByteArray} : s.disk.read s.path.names = .ok bytes →
      Text.decode bytes = none → Spoiled s .undecodable
  | longNumber {bytes : ByteArray} {text : Text} {n : Json.LongNumber} :
      s.disk.read s.path.names = .ok bytes → Text.decode bytes = some text →
      Json.read text = .error (.longNumber n) → Spoiled s (.longNumber n)

/-- The file holds the text of a JSON object. -/
def HoldsObject (s : FileStore) : Prop :=
  ∃ bytes text members, s.disk.read s.path.names = .ok bytes ∧ Text.decode bytes = some text ∧
    Json.read text = .ok (.object members)

variable {s : FileStore} {m : MemoryStore}

theorem readFile_eq_error_iff (good : s.path.fault? = none) {fault : StoreFault} :
    s.readFile = .error fault ↔ s.Spoiled fault := by
  constructor
  · intro unread
    have finds := s.finds
    rw [unread] at finds
    cases finds with
    | badPath _ bad => cases good.symm.trans bad
    | noText bytes _ file undecoded => exact .noText file undecoded
    | longNumber bytes text n _ file decoded long => exact .longNumber file decoded long
  · intro spoiled
    cases spoiled with
    | noText file undecoded => simp [readFile, good, file, undecoded]
    | longNumber file decoded long => simp [readFile, good, file, decoded, long]

theorem empty_of_readFile (no_object : ¬ s.HoldsObject) {found : MemoryStore × Bool}
    (file : s.readFile = .ok found) : found.1 = {} := by
  have finds := s.finds
  rw [file] at finds
  cases finds with
  | absent | unreadable | malformed => rfl
  | value bytes text v _ here decoded whole =>
      cases v with
      | object members => exact absurd ⟨bytes, text, members, here, decoded, whole⟩ no_object
      | null | boolean | integer | floating | string | array => rfl

/-- No access has failed. -/
def Answered (s : FileStore) (accesses : List Access) : Prop :=
  ∀ reply ∈ s.answers accesses, ∃ found, reply = .ok found

/-- The store after all accesses. -/
def afterAccesses (s : FileStore) (accesses : List Access) : FileStore :=
  accesses.foldl (fun s access => match access with
    | .ask request => (answer s request).2
    | .reopen => s.reopen) s

theorem answers_append (s : FileStore) (before accesses : List Access) :
    s.answers (before ++ accesses) =
      s.answers before ++ (s.afterAccesses before).answers accesses := by
  induction before generalizing s with
  | nil => rfl
  | cons access before ih =>
      cases access with
      | ask request => exact congrArg ((answer s request).1 :: ·) (ih _)
      | reopen => exact ih _

theorem memory_answered (m : MemoryStore) (requests : List StoreRequest) :
    ∀ reply ∈ KeyValueStore.answers m requests, ∃ found, reply = .ok found := by
  induction requests generalizing m with
  | nil => exact List.forall_mem_nil _
  | cons request requests ih =>
      refine List.forall_mem_cons.mpr ⟨?_, ih _⟩
      cases request with
      | get key => exact ⟨m.get key, rfl⟩
      | set | remove => exact ⟨none, rfl⟩

/-- As long as no access fails, the store stands for the entries that it would have in memory. -/
theorem Holds.after (h : Holds s m) {accesses : List Access} (answered : s.Answered accesses) :
    Holds (s.afterAccesses accesses) (afterAll m (accesses.filterMap Access.request?)) := by
  induction accesses generalizing s m with
  | nil => exact h
  | cons access accesses ih =>
      cases access with
      | reopen => exact ih h.reopen answered
      | ask request =>
          obtain ⟨⟨found, done⟩, others⟩ := List.forall_mem_cons.mp answered
          rcases h.answer request with ⟨_, holds⟩ | ⟨_, cause, failed⟩
          · exact ih holds others
          · cases done.symm.trans failed

/-- What is set is found from then on, unless it leaves a half in an entry. -/
theorem Holds.set_get (h : Holds s m) (key value : Text) :
    ((m.set key value).HasBytes →
      s.answers [.ask (.set key value), .ask (.get key), .reopen, .ask (.get key)] =
        [.ok none, .ok (some value), .ok (some value)]) ∧
    (¬ (m.set key value).HasBytes →
      ∃ cause, s.answers [.ask (.set key value)] = [.error (.unencodable cause)]) := by
  rcases h.set key value with ⟨whole, done, holds⟩ | ⟨half, cause, failed⟩
  · refine ⟨fun _ => ?_, fun half => absurd whole half⟩
    have reads : (m.set key value).get key = some value := by
      simp [MemoryStore.get, MemoryStore.set, OrderedMap.get?_insert]
    have plain : ∀ access ∈ [Access.ask (.get key), .reopen, .ask (.get key)], access.HasBytes := by
      simp [Access.HasBytes]
    have found := holds.answers whole plain
    have replies : KeyValueStore.answers (m.set key value) [.get key, .get key] =
        [.ok ((m.set key value).get key), .ok ((m.set key value).get key)] := rfl
    rw [reads] at replies
    rw [FileStore.answers, done]
    exact congrArg (.ok none :: ·) (found.trans replies)
  · exact ⟨fun whole => absurd whole half, fun _ => ⟨cause, by rw [FileStore.answers, failed]; rfl⟩⟩

/-- A store that is opened on a file fails on every request, without any change, if the bytes of
the file are no text or if a number in it is too long. On any other file, or without one, every
key is answered, with nothing unless the file is a JSON object. If the file can be written, a key
that is set is found from then on, also by a store that is opened anew, as long as no half is in
an entry; and a set that would leave one in an entry fails. -/
theorem damaged_files_read_as_empty (path : DiskPath) (good : path.fault? = none) (disk : Disk) :
    let s : FileStore := { path := path, disk := disk }
    (∀ fault, s.Spoiled fault → ∀ request, answer s request = (.error fault, s)) ∧
    ((∀ fault, ¬ s.Spoiled fault) → ∃ contents : MemoryStore,
      (∀ key, (answer s (.get key)).1 = .ok (contents.get key)) ∧
      (¬ s.HoldsObject → contents = {}) ∧
      (s.Writable → ∀ before : List Access,
        let present := afterAll contents (before.filterMap Access.request?)
        (contents.HasBytes → (∀ access ∈ before, access.HasBytes) → s.Answered before) ∧
        (s.Answered before → ∀ key value : Text,
          ((present.set key value).HasBytes →
            s.answers (before ++
                [.ask (.set key value), .ask (.get key), .reopen, .ask (.get key)]) =
              s.answers before ++ [.ok none, .ok (some value), .ok (some value)]) ∧
          (¬ (present.set key value).HasBytes → ∃ cause,
            s.answers (before ++ [.ask (.set key value)]) =
              s.answers before ++ [.error (.unencodable cause)])))) := by
  intro s
  refine ⟨fun fault spoiled => ?_, fun unspoiled => ?_⟩
  · have unread := (readFile_eq_error_iff good).mpr spoiled
    exact answer_of_load_error (load_of_readFile_error rfl unread)
  · obtain ⟨⟨m, ignored⟩, file⟩ : ∃ found, s.readFile = .ok found := by
      match file : s.readFile with
      | .ok found => exact ⟨found, rfl⟩
      | .error fault => exact absurd ((readFile_eq_error_iff good).mp file) (unspoiled fault)
    have shows : s.Shows m := ⟨nodup_of_readFile file, ⟨ignored, file⟩, .inl rfl⟩
    refine ⟨m, shows.answer_get, fun no_object => empty_of_readFile no_object file,
      fun writable before => ?_⟩
    have holds : s.Holds m := ⟨shows, writable⟩
    refine ⟨fun whole written reply mem => ?_, fun answered key value => ?_⟩
    · rw [holds.answers whole written] at mem
      exact memory_answered m _ reply mem
    · obtain ⟨found, failed⟩ := (holds.after answered).set_get key value
      refine ⟨fun whole => ?_, fun half => ?_⟩
      · rw [answers_append, found whole]
      · obtain ⟨cause, failed⟩ := failed half
        exact ⟨cause, by rw [answers_append, failed]⟩

/-- A file with garbage in it, which is no JSON, is written over. -/
theorem garbage_is_written_over :
    let s := onBytes "garbage".toUTF8
    s.path.fault? = none ∧ (∀ fault, ¬ s.Spoiled fault) ∧ ¬ s.HoldsObject ∧ s.Writable ∧
      (answer s (.get "a")).1 = .ok none ∧
      s.answers [.ask (.get "a"), .ask (.set "a" "1"), .ask (.get "a"), .reopen, .ask (.get "a")] =
        [.ok none, .ok none, .ok (some ("1" : Text)), .ok (some ("1" : Text))] := by
  intro s
  have good : s.path.fault? = none := onBytes_good _
  have broken : Json.read "garbage" = .error .malformed := rfl
  have only {bytes : ByteArray} {text : Text} (file : s.disk.read s.path.names = .ok bytes)
      (decoded : Text.decode bytes = some text) : text = "garbage" := by
    cases (onBytes_read _).symm.trans file
    exact Option.some.inj (decoded.symm.trans (Text.decode_toUTF8 "garbage"))
  have unspoiled : ∀ fault, ¬ s.Spoiled fault := by
    rintro fault (⟨file, undecoded⟩ | ⟨file, decoded, long⟩)
    · cases (onBytes_read _).symm.trans file
      cases undecoded.symm.trans (Text.decode_toUTF8 "garbage")
    · rw [only file decoded, broken] at long
      cases long
  have no_object : ¬ s.HoldsObject := by
    rintro ⟨bytes, text, members, file, decoded, read⟩
    rw [only file decoded, broken] at read
    cases read
  have writable : s.Writable := onBytes_writable _
  obtain ⟨_, recovers⟩ := damaged_files_read_as_empty s.path good s.disk
  obtain ⟨contents, found, empty, written⟩ := recovers unspoiled
  obtain rfl : contents = {} := empty no_object
  obtain ⟨succeeds, then_set⟩ := written writable [.ask (.get "a")]
  have answered := succeeds (by decide) (by decide)
  refine ⟨good, unspoiled, no_object, writable, found "a", ?_⟩
  exact ((then_set answered "a" "1").1 (by decide)).trans (congrArg (· :: _) (found "a"))

/-- JSON names a half: it is read, nothing can be set beside it, and the attempt leaves a file
that is no JSON any more. -/
example :
    let s := onBytes "\x7b\"a\": \"\\ud800\"\x7d".toUTF8
    let after := (answer s (.set "b" "1")).2
    (answer s (.get "a")).1.toOption = some (some [.half 0]) ∧
      (answer s (.set "b" "1")).1.toOption = none ∧
      (answer after.reopen (.get "a")).1.toOption = some none := by
  decide +kernel

/-- Bytes that are no text are no JSON either, but no request gets over them. -/
theorem invalid_bytes_are_not_empty :
    let s := onBytes ⟨#[0xff]⟩
    Text.decode ⟨#[0xff]⟩ = none ∧ s.Writable ∧ (answer s (.get "a")).1 = .error .undecodable ∧
      answer s (.set "a" "1") = (.error .undecodable, s) :=
  ⟨rfl, ⟨rfl, rfl⟩, rfl, rfl⟩

end PocketShell.FileStore
