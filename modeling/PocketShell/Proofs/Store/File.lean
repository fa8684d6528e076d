import PocketShell.Proofs.Store.Written

/-!
A store in a file answers like a store in memory that has begun with what the file counts as,
however often it is opened anew in between. At every moment the file reads as the present entries,
whether the store has read it yet or not; for a record that was written is read back, and a
removal that finds nothing has nothing to write. Only a change after which there is a half in an
entry cannot be written. A file with a whole number that is too long is no case of this: it is
valid JSON and no object, and every call on it fails.
-/

namespace PocketShell

inductive StoreRequest
  | get (key : Text)
  | set (key value : Text)
  | remove (key : Text)

namespace KeyValueStore

variable {σ : Type} [KeyValueStore σ]

/-- The answer to a request, which only a `get` has anything in, and the store after it. -/
def answer (s : σ) : StoreRequest → Except StoreFault (Option Text) × σ
  | .get key => ((get s key).outcome, (get s key).store)
  | .set key value => ((set s key value).outcome.map fun _ => none, (set s key value).store)
  | .remove key => ((remove s key).outcome.map fun _ => none, (remove s key).store)

def answers (s : σ) : List StoreRequest → List (Except StoreFault (Option Text))
  | [] => []
  | request :: requests => (answer s request).1 :: answers (answer s request).2 requests

/-- The store after all requests have been answered. -/
def afterAll (s : σ) (requests : List StoreRequest) : σ :=
  requests.foldl (fun s request => (answer s request).2) s

theorem answers_append (s : σ) (requests more : List StoreRequest) :
    answers s (requests ++ more) = answers s requests ++ answers (afterAll s requests) more := by
  induction requests generalizing s with
  | nil => rfl
  | cons request requests ih => exact congrArg ((answer s request).1 :: ·) (ih _)

end KeyValueStore

namespace FileStore

theorem entriesOf_ofTexts (entries : List (Text × Text)) :
    entriesOf (.object (.ofTexts entries)) = .ofList entries := by
  rw [entriesOf, Json.Members.toList_ofTexts, List.map_map]
  exact congrArg MemoryStore.ofList (List.map_id entries)

/-- What a store finds when it reads its file, and why. -/
inductive Finds (s : FileStore) : Except StoreFault (MemoryStore × Bool) → Prop
  | badPath (fault : StoreFault) : s.path.fault? = some fault → Finds s (.error fault)
  | absent : s.path.fault? = none → s.disk.read s.path.names = .error .noSuchFile →
      Finds s (.ok ({}, false))
  | unreadable (cause : DiskError) : s.path.fault? = none →
      s.disk.read s.path.names = .error cause → cause ≠ .noSuchFile → Finds s (.ok ({}, true))
  | noText (bytes : ByteArray) : s.path.fault? = none → s.disk.read s.path.names = .ok bytes →
      Text.decode bytes = none → Finds s (.error .undecodable)
  | malformed (bytes : ByteArray) (text : Text) : s.path.fault? = none →
      s.disk.read s.path.names = .ok bytes → Text.decode bytes = some text →
      Json.read text = .error .malformed → Finds s (.ok ({}, true))
  | longNumber (bytes : ByteArray) (text : Text) (n : Json.LongNumber) : s.path.fault? = none →
      s.disk.read s.path.names = .ok bytes → Text.decode bytes = some text →
      Json.read text = .error (.longNumber n) → Finds s (.error (.longNumber n))
  | value (bytes : ByteArray) (text : Text) (v : Json.Value) : s.path.fault? = none →
      s.disk.read s.path.names = .ok bytes → Text.decode bytes = some text →
      Json.read text = .ok v → Finds s (.ok (entriesOf v, false))

theorem finds (s : FileStore) : s.Finds s.readFile := by
  simp only [readFile]
  split
  · next fault bad => exact .badPath fault bad
  · next good =>
    split
    · next file => exact .absent good file
    · next cause other file => exact .unreadable cause good file fun absent => other absent
    · next bytes file =>
      split
      · next none => exact .noText bytes good file none
      · next text decoded =>
        split
        · next broken => exact .malformed bytes text good file decoded broken
        · next n long => exact .longNumber bytes text n good file decoded long
        · next v whole => exact .value bytes text v good file decoded whole

/-- The store stands for the entries of a store in memory: its file reads as these, and so does what
it has read of it. -/
structure Shows (s : FileStore) (m : MemoryStore) : Prop where
  different : m.entries.keys.Nodup
  file : ∃ ignored, s.readFile = .ok (m, ignored)
  loaded : s.loaded = none ∨ s.loaded = some m

/-- A store that stands for entries and can take others. -/
structure Holds (s : FileStore) (m : MemoryStore) : Prop extends Shows s m where
  writable : s.Writable

variable {s : FileStore} {m : MemoryStore}

theorem load_of_readFile (unread : s.loaded = none) {ignored : Bool}
    (file : s.readFile = .ok (m, ignored)) :
    ∃ notes, s.load = ⟨.ok m, { s with loaded := some m }, notes⟩ :=
  ⟨_, by simp only [FileStore.load, unread, file]; rfl⟩

theorem load_of_readFile_error (unread : s.loaded = none) {fault : StoreFault}
    (fails : s.readFile = .error fault) : s.load = ⟨.error fault, s, []⟩ := by
  simp only [FileStore.load, unread, fails]

theorem Shows.read (h : Shows s m) : Shows { s with loaded := some m } m :=
  ⟨h.different, h.file, .inr rfl⟩

theorem Shows.load (h : Shows s m) :
    ∃ notes, s.load = ⟨.ok m, { s with loaded := some m }, notes⟩ := by
  obtain ⟨ignored, file⟩ := h.file
  rcases h.loaded with unread | read
  · exact load_of_readFile unread file
  · have same : ({ s with loaded := some m } : FileStore) = s := by rw [← read]
    exact ⟨[], by simp only [FileStore.load, read, same]⟩

/-- Entries that have been written are what the file reads as. -/
theorem shows_of_writeDisk (good : s.path.fault? = none) (different : m.entries.keys.Nodup)
    {disk : Disk} (written : s.writeDisk m = (disk, .ok ())) :
    Shows { s with disk := disk, loaded := some m } m := by
  obtain ⟨bytes, file, decoded⟩ := read_of_writeDisk written
  refine ⟨different, ⟨false, ?_⟩, .inr rfl⟩
  simp only [readFile, good, file, decoded, fileText, Json.read_writeRecord different,
    entriesOf_ofTexts, MemoryStore.ofList, OrderedMap.ofList_toList different]

theorem good_of_readFile {found : MemoryStore × Bool} (file : s.readFile = .ok found) :
    s.path.fault? = none := by
  match path : s.path.fault? with
  | none => rfl
  | some fault =>
      rw [readFile, path] at file
      cases file

theorem nodup_entriesOf (v : Json.Value) : (entriesOf v).entries.keys.Nodup := by
  cases v with
  | object members => exact OrderedMap.nodup_ofList _
  | null | boolean | integer | floating | string | array => exact List.nodup_nil

theorem nodup_of_readFile {found : MemoryStore × Bool} (file : s.readFile = .ok found) :
    found.1.entries.keys.Nodup := by
  have finds := s.finds
  rw [file] at finds
  cases finds with
  | absent | unreadable | malformed => exact List.nodup_nil
  | value _ _ v => exact nodup_entriesOf v

/-- Entries without halves can be kept, and others cannot. -/
theorem Holds.keep (h : Holds s m) (m' : MemoryStore) (different : m'.entries.keys.Nodup) :
    (m'.HasBytes ∧ ∃ after, s.keep m' = ⟨.ok (), after, []⟩ ∧ Holds after m') ∨
      (¬ m'.HasBytes ∧ ∃ cause, (s.keep m').outcome = .error (.unencodable cause)) := by
  obtain ⟨ignored, file⟩ := h.file
  obtain ⟨disk, again, whole, half⟩ := writeDisk_of_writable h.writable m'
  by_cases some_bytes : m'.HasBytes
  · have written := whole some_bytes
    refine .inl ⟨some_bytes, { s with disk := disk, loaded := some m' },
      by simp only [FileStore.keep, written], ?_, again _⟩
    exact shows_of_writeDisk (good_of_readFile file) different written
  · obtain ⟨cause, failed⟩ := half some_bytes
    exact .inr ⟨some_bytes, cause, by simp only [FileStore.keep, failed]⟩

theorem Shows.get (h : Shows s m) (key : Text) : ∃ notes,
    KeyValueStore.get s key = ⟨.ok (m.get key), { s with loaded := some m }, notes⟩ := by
  obtain ⟨notes, loads⟩ := h.load
  refine ⟨notes ++ [], ?_⟩
  change s.get key = _
  rw [FileStore.get, loads]
  rfl

theorem Shows.answer_get (h : Shows s m) (key : Text) :
    (KeyValueStore.answer s (.get key)).1 = .ok (m.get key) := by
  obtain ⟨notes, got⟩ := h.get key
  rw [KeyValueStore.answer, got]

theorem Holds.read (h : Holds s m) : Holds { s with loaded := some m } m :=
  ⟨h.toShows.read, h.writable.opens, h.writable.unlimited⟩

theorem Holds.set (h : Holds s m) (key value : Text) :
    ((m.set key value).HasBytes ∧ (KeyValueStore.answer s (.set key value)).1 = .ok none ∧
        Holds (KeyValueStore.answer s (.set key value)).2 (m.set key value)) ∨
      (¬ (m.set key value).HasBytes ∧
        ∃ cause, (KeyValueStore.answer s (.set key value)).1 = .error (.unencodable cause)) := by
  obtain ⟨notes, loads⟩ := h.load
  change _ ∧ (s.set key value).outcome.map _ = _ ∧ Holds (s.set key value).store _ ∨
    _ ∧ ∃ cause, (s.set key value).outcome.map _ = _
  rw [FileStore.set, loads]
  rcases h.read.keep (m.set key value) (OrderedMap.nodup_insert h.different key value) with
    ⟨some_bytes, after, kept, holds⟩ | ⟨half, cause, failed⟩
  · simp only [Reply.andThen, kept]
    exact .inl ⟨some_bytes, rfl, holds⟩
  · simp only [Reply.andThen, failed]
    exact .inr ⟨half, cause, rfl⟩

/-- A key that is not there is not written either, for the file says so already. -/
theorem Holds.remove (h : Holds s m) (key : Text) :
    ((KeyValueStore.answer s (.remove key)).1 = .ok none ∧
        Holds (KeyValueStore.answer s (.remove key)).2 (m.remove key)) ∨
      (¬ (m.remove key).HasBytes ∧
        ∃ cause, (KeyValueStore.answer s (.remove key)).1 = .error (.unencodable cause)) := by
  obtain ⟨notes, loads⟩ := h.load
  change (s.remove key).outcome.map _ = _ ∧ Holds (s.remove key).store _ ∨
    _ ∧ ∃ cause, (s.remove key).outcome.map _ = _
  rw [FileStore.remove, loads]
  cases there : m.contains key with
  | false =>
      have same : m.remove key = m := congrArg MemoryStore.mk
        (OrderedMap.erase_of_not_mem (OrderedMap.contains_eq_false_iff.mp there))
      rw [same]
      exact .inl ⟨by simp only [Reply.andThen, there]; rfl,
        by simpa [Reply.andThen, there] using h.read⟩
  | true =>
      rcases h.read.keep (m.remove key) (OrderedMap.nodup_erase h.different key) with
        ⟨_, after, kept, holds⟩ | ⟨half, cause, failed⟩
      · simp only [Reply.andThen, there, if_true, kept]
        exact .inl ⟨rfl, holds⟩
      · simp only [Reply.andThen, there, if_true, failed]
        exact .inr ⟨half, cause, rfl⟩

/-- A request is answered as by a store in memory, unless there is a half in an entry after it. -/
theorem Holds.answer (h : Holds s m) (request : StoreRequest) :
    ((KeyValueStore.answer s request).1 = (KeyValueStore.answer m request).1 ∧
        Holds (KeyValueStore.answer s request).2 (KeyValueStore.answer m request).2) ∨
      (¬ (KeyValueStore.answer m request).2.HasBytes ∧
        ∃ cause, (KeyValueStore.answer s request).1 = .error (.unencodable cause)) := by
  cases request with
  | get key =>
      obtain ⟨notes, got⟩ := h.get key
      rw [KeyValueStore.answer, got]
      exact .inl ⟨rfl, h.read⟩
  | set key value => exact (h.set key value).imp_left And.right
  | remove key => exact h.remove key

theorem Shows.reopen (h : Shows s m) : Shows s.reopen m := ⟨h.different, h.file, .inl rfl⟩

theorem Holds.reopen (h : Holds s m) : Holds s.reopen m :=
  ⟨h.toShows.reopen, h.writable.opens, h.writable.unlimited⟩

/-- A request, or the opening of a new store in the place of the present one. -/
inductive Access
  | ask (request : StoreRequest)
  | reopen

def Access.request? : Access → Option StoreRequest
  | .ask request => some request
  | .reopen => none

/-- The answers to the requests among the accesses. -/
def answers (s : FileStore) : List Access → List (Except StoreFault (Option Text))
  | [] => []
  | .ask request :: accesses =>
      (KeyValueStore.answer s request).1 :: answers (KeyValueStore.answer s request).2 accesses
  | .reopen :: accesses => answers s.reopen accesses

/-- No half is in what is to be set. -/
def Access.HasBytes : Access → Prop
  | .ask (.set key value) => key.HasBytes ∧ value.HasBytes
  | _ => True

instance : DecidablePred Access.HasBytes
  | .ask (.set key value) => inferInstanceAs (Decidable (key.HasBytes ∧ value.HasBytes))
  | .ask (.get _) | .ask (.remove _) | .reopen => inferInstanceAs (Decidable True)

theorem hasBytes_answer (whole : m.HasBytes) {request : StoreRequest}
    (some_bytes : Access.HasBytes (.ask request)) :
    (KeyValueStore.answer m request).2.HasBytes := by
  cases request with
  | get key => exact whole
  | set key value => exact whole.set some_bytes.1 some_bytes.2
  | remove key => exact whole.remove key

theorem Holds.answers (h : Holds s m) (whole : m.HasBytes) {accesses : List Access}
    (written : ∀ access ∈ accesses, access.HasBytes) :
    s.answers accesses = KeyValueStore.answers m (accesses.filterMap Access.request?) := by
  induction accesses generalizing s m with
  | nil => rfl
  | cons access accesses ih =>
      obtain ⟨first, others⟩ := List.forall_mem_cons.mp written
      cases access with
      | ask request =>
          have whole_after := hasBytes_answer whole first
          rcases h.answer request with ⟨same, holds⟩ | ⟨half, _⟩
          · rw [FileStore.answers, same, ih holds whole_after others]
            rfl
          · exact absurd whole_after half
      | reopen => exact ih h.reopen whole others

/-- What a file counts as that is not there, that is no JSON, that is no object, or that is an
object of strings without halves. -/
inductive CountsAs (s : FileStore) : MemoryStore → Prop
  | absent : s.disk.read s.path.names = .error .noSuchFile → CountsAs s {}
  | malformed {bytes : ByteArray} {text : Text} : s.disk.read s.path.names = .ok bytes →
      Text.decode bytes = some text → Json.read text = .error .malformed → CountsAs s {}
  | noObject {bytes : ByteArray} {text : Text} {v : Json.Value} :
      s.disk.read s.path.names = .ok bytes → Text.decode bytes = some text →
      Json.read text = .ok v → (∀ members, v ≠ .object members) → CountsAs s {}
  | record {bytes : ByteArray} {text : Text} {entries : List (Text × Text)} :
      s.disk.read s.path.names = .ok bytes → Text.decode bytes = some text →
      Json.read text = .ok (.object (.ofTexts entries)) →
      (∀ entry ∈ entries, entry.1.HasBytes ∧ entry.2.HasBytes) → CountsAs s (.ofList entries)

theorem CountsAs.different (counts : s.CountsAs m) : m.entries.keys.Nodup := by
  cases counts with
  | absent | malformed | noObject => exact List.nodup_nil
  | record => exact OrderedMap.nodup_ofList _

theorem CountsAs.hasBytes (counts : s.CountsAs m) : m.HasBytes := by
  cases counts with
  | absent | malformed | noObject => exact List.forall_mem_nil _
  | record _ _ _ some_bytes => exact MemoryStore.hasBytes_ofList some_bytes

theorem CountsAs.readFile (counts : s.CountsAs m) (good : s.path.fault? = none) :
    ∃ ignored, s.readFile = .ok (m, ignored) := by
  cases counts with
  | absent file => exact ⟨false, by simp [FileStore.readFile, good, file]⟩
  | malformed file text value =>
      exact ⟨true, by simp [FileStore.readFile, good, file, text, value]⟩
  | @noObject bytes text v file decoded value no_object =>
      have empty : entriesOf v = {} := by
        rw [entriesOf]
        exact no_object
      exact ⟨false, by simp [FileStore.readFile, good, file, decoded, value, empty]⟩
  | record file text value =>
      exact ⟨false, by simp [FileStore.readFile, good, file, text, value, entriesOf_ofTexts]⟩

theorem CountsAs.holds (counts : s.CountsAs m) (unread : s.loaded = none)
    (good : s.path.fault? = none) (writable : s.Writable) : Holds s m :=
  ⟨⟨counts.different, counts.readFile good, .inl unread⟩, writable⟩

/-- A new store on a file that can be written answers like a store in memory that begins with what
the file counts as, whatever is asked of it and however often it is opened anew, as long as nothing
with a half in it is set. -/
theorem file_answers_like_memory (counts : s.CountsAs m) (unread : s.loaded = none)
    (good : s.path.fault? = none) (writable : s.Writable) {accesses : List Access}
    (written : ∀ access ∈ accesses, access.HasBytes) :
    s.answers accesses = KeyValueStore.answers m (accesses.filterMap Access.request?) :=
  (counts.holds unread good writable).answers counts.hasBytes written

/-- A new store on a file of the working directory that holds the bytes. -/
def onBytes (bytes : ByteArray) : FileStore :=
  { path := ⟨[], ["s.json"]⟩, disk := { files := .ofList [(["s.json"], bytes)] } }

theorem onBytes_read (bytes : ByteArray) :
    (onBytes bytes).disk.read (onBytes bytes).path.names = .ok bytes := rfl

theorem onBytes_good (bytes : ByteArray) : (onBytes bytes).path.fault? = none := rfl

theorem onBytes_writable (bytes : ByteArray) : (onBytes bytes).Writable := ⟨rfl, rfl⟩

theorem decode_fileFront {entries : MemoryStore} (whole : entries.HasBytes) :
    Text.decode (fileFront entries) = some (fileText entries) := by
  obtain ⟨bytes, encoded, front⟩ := encodeAll_filePieces whole
  rw [fileFront, encoded]
  exact Text.decode_of_encode front

theorem written_file_answers :
    let entries : List (Text × Text) := [("a", "one\n\"two\""), ("b", "")]
    let s := onBytes (fileFront ⟨⟨entries⟩⟩)
    let accesses : List Access := [.ask (.get "a"), .reopen, .ask (.set "c" "é"),
      .ask (.remove "a"), .reopen, .ask (.get "a"), .ask (.get "c")]
    s.CountsAs (.ofList entries) ∧ s.loaded = none ∧ s.path.fault? = none ∧ s.Writable ∧
      (∀ access ∈ accesses, access.HasBytes) ∧
      s.answers accesses =
        [.ok (some "one\n\"two\""), .ok none, .ok none, .ok none, .ok (some "é")] := by
  intro entries s accesses
  have different : (entries.map Prod.fst).Nodup := by decide
  have whole : ∀ entry ∈ entries, entry.1.HasBytes ∧ entry.2.HasBytes := by decide
  have counts : s.CountsAs (.ofList entries) := .record (onBytes_read _) (decode_fileFront whole)
    (Json.read_writeRecord different) whole
  have good : s.path.fault? = none := onBytes_good _
  have written : ∀ access ∈ accesses, access.HasBytes := by decide
  refine ⟨counts, rfl, good, onBytes_writable _, written, ?_⟩
  rw [file_answers_like_memory counts rfl good (onBytes_writable _) written]
  rfl

theorem answer_of_load_error {fault : StoreFault} {notes : List LogEntry}
    (fails : s.load = ⟨.error fault, s, notes⟩) (request : StoreRequest) :
    KeyValueStore.answer s request = (.error fault, s) := by
  cases request with
  | get key =>
      change ((s.get key).outcome, (s.get key).store) = _
      rw [FileStore.get, fails]
      rfl
  | set key value =>
      change ((s.set key value).outcome.map _, (s.set key value).store) = _
      rw [FileStore.set, fails]
      rfl
  | remove key =>
      change ((s.remove key).outcome.map _, (s.remove key).store) = _
      rw [FileStore.remove, fails]
      rfl

/-- A new store on a file with a whole number of so many digits. -/
def onDigits (n : Nat) : FileStore := onBytes (String.ofList (List.replicate n '1')).toUTF8

theorem answer_of_longNumber {n : Nat} (long : Json.maxDigits < n) (request : StoreRequest) :
    (KeyValueStore.answer (onDigits n) request).1 = .error (.longNumber ⟨n⟩) := by
  have decoded : Text.decode (String.ofList (List.replicate n '1')).toUTF8 =
      some (List.replicate n ('1' : CodePoint)) := by
    rw [Text.decode_toUTF8, String.toList_ofList, List.map_replicate]
  have unread : (onDigits n).readFile = .error (.longNumber ⟨n⟩) := by
    simp only [readFile, onDigits, onBytes_good, onBytes_read, decoded, Json.read_longNumber long]
  rw [answer_of_load_error (load_of_readFile_error rfl unread)]

/-- A whole number is JSON and no object, but a file with one that is too long is not read as empty:
where a store in memory has no entry to give, the call fails. -/
theorem long_number_is_not_empty :
    (onDigits 4301).Writable ∧
      (onDigits 4301).answers [.ask (.get "a")] = [.error (.longNumber ⟨4301⟩)] ∧
      KeyValueStore.answers ({} : MemoryStore) [.get "a"] = [.ok none] := by
  refine ⟨onBytes_writable _, ?_, rfl⟩
  rw [FileStore.answers, answer_of_longNumber (by decide), FileStore.answers]

end FileStore
end PocketShell
