import PocketShell.Proofs.OrderedMap
import PocketShell.Store.Disk

/-!
What stays on a disk. A path that leads somewhere leads there on every disk with more directories;
so directories that have been made once need not be made again, and bytes that were written to a
path are read from it. A write that breaks off leaves every other file alone, and a beginning of the
bytes at most in its own.
-/

namespace PocketShell.Disk

variable {d d' : Disk} {path : List Text}

theorem isDirectory_mono (more : d.directories ⊆ d'.directories) {place : List Text}
    (there : d.isDirectory place = true) : d'.isDirectory place = true := by
  simp only [isDirectory, Bool.or_eq_true, List.contains_iff_mem] at there ⊢
  exact there.imp_right fun mem => more mem

theorem checkDirectory_eq_ok {place : List Text} :
    d.checkDirectory place = .ok () ↔ d.isDirectory place = true := by
  simp only [checkDirectory]
  split
  · next there => simp [there]
  · next absent =>
    split <;> simp [absent]

theorem follow_mono (more : d.directories ⊆ d'.directories) {place found : List Text}
    (leads : d.follow place path = .ok found) : d'.follow place path = .ok found := by
  induction path generalizing place with
  | nil => exact leads
  | cons segment path ih =>
      simp only [follow] at leads ⊢
      split at leads
      · cases leads
      · next there =>
        rw [checkDirectory_eq_ok] at there
        rw [checkDirectory_eq_ok.mpr (isDirectory_mono more there)]
        dsimp only
        split at leads
        · cases leads
        · next short =>
          rw [if_neg short]
          exact ih leads

theorem locate_mono (more : d.directories ⊆ d'.directories) {place : List Text}
    (leads : d.locate path = .ok place) : d'.locate path = .ok place := by
  simp only [locate] at leads ⊢
  split at leads
  · cases leads
  · next short =>
    rw [if_neg short]
    exact follow_mono more leads

/-- The path leads to a directory. -/
def IsMade (d : Disk) (path : List Text) : Prop :=
  ∃ place, d.locate path = .ok place ∧ d.isDirectory place = true

/-- The path leads to where a file can be written. -/
def TakesFile (d : Disk) (path : List Text) : Prop :=
  ∃ place, d.locate path = .ok place ∧ d.isDirectory place = false ∧ d.mayWrite place = true

theorem IsMade.mono (made : d.IsMade path) (more : d.directories ⊆ d'.directories) :
    d'.IsMade path := by
  obtain ⟨place, leads, there⟩ := made
  exact ⟨place, locate_mono more leads, isDirectory_mono more there⟩

theorem makeDirectory_of_isMade (made : d.IsMade path) : d.makeDirectory path = .ok d := by
  obtain ⟨place, leads, there⟩ := made
  simp only [makeDirectory, leads, there, if_true]

theorem isMade_of_makeDirectory (made : d.makeDirectory path = .ok d') : d'.IsMade path := by
  simp only [makeDirectory] at made
  split at made
  · cases made
  · next place leads =>
    split at made
    · next there =>
      cases made
      exact ⟨place, leads, there⟩
    · split at made
      · cases made
      · split at made
        · cases made
        · cases made
          exact ⟨place, locate_mono (List.subset_append_left _ _) leads, by simp [isDirectory]⟩

/-- Once a directory has been made, making it again changes nothing. -/
theorem makeDirectories_again (made : d.makeDirectories path = (d', .ok ())) {d'' : Disk}
    (same : d''.directories = d'.directories) : d''.makeDirectories path = (d'', .ok ()) := by
  simp only [makeDirectories] at made ⊢
  generalize path.reverse = up at made ⊢
  cases up with
  | nil => rfl
  | cons segment above =>
      have last : d'.IsMade (segment :: above).reverse := by
        simp only [makeDirectoriesUp] at made
        split at made
        · next first =>
          cases made
          exact isMade_of_makeDirectory first
        · split at made
          · cases made
          · split at made
            · next second =>
              cases made
              exact isMade_of_makeDirectory second
            · cases made
        · cases made
      have again : d''.makeDirectory (segment :: above).reverse = .ok d'' :=
        makeDirectory_of_isMade (last.mono (same ▸ List.Subset.refl _))
      rw [makeDirectoriesUp, again]

theorem fitting_of_not_lt {bytes : ByteArray} (whole : ¬(d.fitting bytes).size < bytes.size) :
    d.fitting bytes = bytes := by
  simp only [fitting] at whole ⊢
  split
  · rfl
  · next n limited =>
    rw [limited, ByteArray.size_extract] at whole
    apply ByteArray.ext
    rw [ByteArray.data_extract]
    exact Array.extract_eq_self_of_le (show bytes.size ≤ n by omega)

/-- What is in a file after a write that has not failed is read from it. -/
theorem read_of_write {bytes : ByteArray} (written : d.write path bytes = (d', .ok ())) :
    d'.read path = .ok bytes := by
  simp only [write] at written
  split at written
  · cases written
  · next place leads =>
    split at written
    · cases written
    · next absent =>
      split at written
      · cases written
      · split at written
        · cases written
        · next whole =>
          cases written
          rw [fitting_of_not_lt whole]
          let after : Disk := { d with files := d.files.insert place bytes }
          have leads_still : after.locate path = .ok place :=
            locate_mono (show d.directories ⊆ after.directories from List.Subset.refl _) leads
          have absent_still : after.isDirectory place = false := Bool.not_eq_true _ ▸ absent
          change after.read path = .ok bytes
          simp [read, leads_still, absent_still, after, OrderedMap.get?_insert]

theorem takesFile_of_write {bytes : ByteArray} (written : (d.write path bytes).2 = .ok ()) :
    d.TakesFile path := by
  simp only [write] at written
  split at written
  · cases written
  · next place leads =>
    split at written
    · cases written
    · next absent =>
      split at written
      · cases written
      · next allowed => exact ⟨place, leads, by simpa using absent, by simpa using allowed⟩

/-- Where there is room for all bytes, they are written, and others can be written after them. -/
theorem write_of_takesFile (takes : d.TakesFile path) (unlimited : d.room = none)
    (bytes : ByteArray) : ∃ d', d.write path bytes = (d', .ok ()) ∧
      d'.directories = d.directories ∧ d'.room = d.room ∧ d'.TakesFile path := by
  obtain ⟨place, leads, absent, allowed⟩ := takes
  have fits : d.fitting bytes = bytes := by rw [fitting, unlimited]
  let after : Disk := { d with files := d.files.insert place bytes }
  have leads_still : after.locate path = .ok place :=
    locate_mono (show d.directories ⊆ after.directories from List.Subset.refl _) leads
  have allowed_still : after.mayWrite place = true := by
    simp only [mayWrite, Bool.and_eq_true] at allowed ⊢
    refine ⟨allowed.1, ?_⟩
    simp [after, OrderedMap.contains, OrderedMap.get?_insert]
  refine ⟨after, ?_, rfl, rfl, place, leads_still, absent, allowed_still⟩
  simp [write, leads, absent, allowed, fits, after]

theorem follow_eq {place found : List Text} (leads : d.follow place path = .ok found) :
    found = path.foldl step place := by
  induction path generalizing place with
  | nil => exact (Except.ok.inj leads).symm
  | cons segment path ih =>
      simp only [follow] at leads
      split at leads
      · cases leads
      · split at leads
        · cases leads
        · exact ih leads

/-- The disk is another one in one file at most, and there it has a beginning of the bytes. -/
def Overwrites (d d' : Disk) (place : List Text) (bytes : ByteArray) : Prop :=
  d'.files = d.files ∨ ∃ n, d'.files = d.files.insert place (bytes.extract 0 n)

/-- Whether a write breaks off or not, it touches no other file than its own. -/
theorem overwrites_write (d : Disk) (path : List Text) (bytes : ByteArray) :
    d.Overwrites (d.write path bytes).1 (path.foldl step []) bytes := by
  simp only [write]
  split
  · exact .inl rfl
  · next place leads =>
    split
    · exact .inl rfl
    · split
      · exact .inl rfl
      · have here : place = path.foldl step [] := by
          simp only [locate] at leads
          split at leads
          · cases leads
          · exact follow_eq leads
        refine .inr ?_
        simp only [fitting, ← here]
        split
        · exact ⟨bytes.size, by rw [ByteArray.extract_zero_size]⟩
        · exact ⟨_, rfl⟩

theorem makeDirectory_frame (made : d.makeDirectory path = .ok d') :
    d'.files = d.files ∧ d'.room = d.room := by
  simp only [makeDirectory] at made
  split at made
  · cases made
  · split at made
    · cases made
      exact ⟨rfl, rfl⟩
    · split at made
      · cases made
      · split at made
        · cases made
        · cases made
          exact ⟨rfl, rfl⟩

/-- Whether directories can be made or not, nothing is written and no room is taken. -/
theorem makeDirectoriesUp_frame (d : Disk) (up : List Text) :
    (d.makeDirectoriesUp up).1.files = d.files ∧ (d.makeDirectoriesUp up).1.room = d.room := by
  induction up with
  | nil => exact ⟨rfl, rfl⟩
  | cons segment above ih =>
      simp only [makeDirectoriesUp]
      split
      · next first => exact makeDirectory_frame first
      · split
        · next failed =>
          rw [failed] at ih
          exact ih
        · next made =>
          rw [made] at ih
          split
          · next second =>
            obtain ⟨files, room⟩ := makeDirectory_frame second
            exact ⟨files.trans ih.1, room.trans ih.2⟩
          · exact ih
      · exact ⟨rfl, rfl⟩

end PocketShell.Disk
