import PocketShell.Proofs.Json.Record
import PocketShell.Proofs.Store.Disk
import PocketShell.Store.File

/-!
What a write leaves in the file of a store. Entries without halves are written as a record, which
is read back. With a half in an entry the write breaks off in front of it, and what was in the
file before is lost; but that is nothing to stop the next write.
-/

namespace PocketShell

namespace MemoryStore

/-- No half is in a key or a value. -/
def HasBytes (m : MemoryStore) : Prop :=
  ∀ entry ∈ m.entries.toList, entry.1.HasBytes ∧ entry.2.HasBytes

instance (m : MemoryStore) : Decidable m.HasBytes :=
  inferInstanceAs (Decidable (∀ entry ∈ m.entries.toList, _))

variable {m : MemoryStore} {key value : Text}

theorem HasBytes.set (h : m.HasBytes) (key_bytes : key.HasBytes) (value_bytes : value.HasBytes) :
    (m.set key value).HasBytes := by
  intro entry mem
  rcases OrderedMap.mem_insertEntry mem with rfl | there
  · exact ⟨key_bytes, value_bytes⟩
  · exact h entry there

theorem HasBytes.remove (h : m.HasBytes) (key : Text) : (m.remove key).HasBytes :=
  fun entry mem => h entry (List.mem_filter.mp mem).1

theorem hasBytes_ofList {entries : List (Text × Text)}
    (h : ∀ entry ∈ entries, entry.1.HasBytes ∧ entry.2.HasBytes) : (ofList entries).HasBytes := by
  have onto (m : MemoryStore) (some_bytes : m.HasBytes) :
      HasBytes ⟨entries.foldl (fun m entry => m.insert entry.1 entry.2) m.entries⟩ := by
    induction entries generalizing m with
    | nil => exact some_bytes
    | cons entry rest ih =>
        obtain ⟨first, others⟩ := List.forall_mem_cons.mp h
        exact ih others (m.set entry.1 entry.2) (some_bytes.set first.1 first.2)
  exact onto {} (List.forall_mem_nil _)

end MemoryStore

namespace FileStore

/-- The text of a file with the entries. -/
def fileText (entries : MemoryStore) : Text :=
  Json.writeRecord entries.entries.toList ++ (['\n'] : Text)

/-- The bytes that a write of the entries comes to: all of them if there is no half in an entry, and
otherwise those in front of the first one. -/
def fileFront (entries : MemoryStore) : ByteArray := (Text.encodeAll (filePieces entries)).1

theorem flatten_filePieces (entries : MemoryStore) :
    (filePieces entries).flatten = fileText entries := by
  rw [filePieces, List.flatten_append]
  rfl

theorem hasBytes_fileText {entries : MemoryStore} :
    (fileText entries).HasBytes ↔ entries.HasBytes := by
  have feed : Text.HasBytes ['\n'] := by decide
  rw [fileText, Text.hasBytes_append, and_iff_left feed, Json.hasBytes_writeRecord]
  rfl

theorem encodeAll_filePieces {entries : MemoryStore} (whole : entries.HasBytes) :
    ∃ bytes, Text.encodeAll (filePieces entries) = (bytes, .ok ()) ∧
      (fileText entries).encode = .ok bytes := by
  rw [← flatten_filePieces]
  apply Text.encodeAll_of_hasBytes
  rwa [flatten_filePieces, hasBytes_fileText]

theorem encodeAll_filePieces_error {entries : MemoryStore} (half : ¬ entries.HasBytes) :
    ∃ cause, Text.encodeAll (filePieces entries) = (fileFront entries, .error cause) := by
  obtain ⟨cause, failed⟩ : ∃ cause, (Text.encodeAll (filePieces entries)).2 = .error cause := by
    apply Text.encodeAll_of_not_hasBytes
    rwa [flatten_filePieces, hasBytes_fileText]
  exact ⟨cause, congrArg (Prod.mk _) failed⟩

/-- The file can be written, and there is room for whatever is written to it. -/
structure Writable (s : FileStore) : Prop where
  opens : (s.writeDisk {}).2 = .ok ()
  unlimited : s.disk.room = none

/-- The directories can be made, and after that the file can be written. -/
theorem made_of_writable {s : FileStore} (writable : s.Writable) :
    ∃ made, s.disk.makeDirectories s.path.names.dropLast = (made, .ok ()) ∧
      made.room = none ∧ made.TakesFile s.path.names := by
  obtain ⟨opens, unlimited⟩ := writable
  have room := (s.disk.makeDirectoriesUp_frame s.path.names.dropLast.reverse).2
  simp only [writeDisk] at opens
  split at opens
  · cases opens
  · next made prepared =>
    refine ⟨made, prepared, ?_, ?_⟩
    · rw [Disk.makeDirectories] at prepared
      rw [prepared] at room
      exact room.trans unlimited
    · apply Disk.takesFile_of_write
      split at opens
      · cases opens
      · next done => rw [done]

/-- The file takes the entries if no half is in them, and it can be written again in any case. -/
theorem writeDisk_of_writable {s : FileStore} (writable : s.Writable) (entries : MemoryStore) :
    ∃ disk, (∀ loaded, ({ s with disk := disk, loaded := loaded } : FileStore).Writable) ∧
      (entries.HasBytes → s.writeDisk entries = (disk, .ok ())) ∧
      (¬ entries.HasBytes →
        ∃ cause, s.writeDisk entries = (disk, .error (.unencodable cause))) := by
  obtain ⟨made, prepared, room, takes⟩ := made_of_writable writable
  obtain ⟨disk, done, same, still, takes_more⟩ :=
    Disk.write_of_takesFile takes room (fileFront entries)
  refine ⟨disk, fun loaded => ⟨?_, still.trans room⟩, fun whole => ?_, fun half => ?_⟩
  · obtain ⟨_, again, _⟩ := Disk.write_of_takesFile takes_more (still.trans room) (fileFront {})
    have nothing : MemoryStore.HasBytes {} := List.forall_mem_nil _
    obtain ⟨_, empty, _⟩ := encodeAll_filePieces nothing
    rw [fileFront, empty] at again
    simp only [writeDisk, Disk.makeDirectories_again prepared same, empty, again]
    rfl
  · obtain ⟨bytes, encoded, _⟩ := encodeAll_filePieces whole
    rw [fileFront, encoded] at done
    simp only [writeDisk, prepared, encoded, done]
    rfl
  · obtain ⟨cause, failed⟩ := encodeAll_filePieces_error half
    refine ⟨cause, ?_⟩
    simp only [writeDisk, prepared, failed, done]
    rfl

/-- Entries that have been written are read from the file as their text. -/
theorem read_of_writeDisk {s : FileStore} {entries : MemoryStore} {disk : Disk}
    (written : s.writeDisk entries = (disk, .ok ())) :
    ∃ bytes, disk.read s.path.names = .ok bytes ∧ Text.decode bytes = some (fileText entries) := by
  by_cases whole : entries.HasBytes
  · obtain ⟨bytes, encoded, front⟩ := encodeAll_filePieces whole
    simp only [writeDisk, encoded] at written
    split at written
    · cases written
    · split at written
      · cases written
      · next done =>
        cases written
        exact ⟨bytes, Disk.read_of_write done, Text.decode_of_encode front⟩
  · obtain ⟨cause, failed⟩ := encodeAll_filePieces_error whole
    simp only [writeDisk, failed] at written
    split at written
    · cases written
    · split at written <;> cases written

end FileStore
end PocketShell
