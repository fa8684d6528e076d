import PocketShell.Proofs.Path.Segments

/-!
Canonical paths. A step along a segment leads from legal names to legal names, since `.` and `..`
add none; so a path is canonical once it is resolved from a canonical one, whatever the home is. A
canonical path stands for itself: from everywhere it leads to the place of its own names.
-/

namespace PocketShell.Path

theorem LegalSegment.isSegment {name : Text} (h : LegalSegment name) : IsSegment name :=
  ⟨h.1, h.2.1⟩

theorem legal_step {names : List Text} {segment : Text} (legal : ∀ name ∈ names, LegalSegment name)
    (piece : IsSegment segment) : ∀ name ∈ step names segment, LegalSegment name := by
  intro name mem
  simp only [step] at mem
  split at mem
  · exact legal name (List.dropLast_subset _ mem)
  · next not_up =>
    split at mem
    · exact legal name mem
    · next not_here =>
      rcases List.mem_append.mp mem with mem | mem
      · exact legal name mem
      · rw [List.mem_singleton.mp mem]
        exact ⟨piece.1, piece.2, not_here, not_up⟩

theorem legal_foldl_step {pieces names : List Text} (legal : ∀ name ∈ names, LegalSegment name)
    (all : ∀ piece ∈ pieces, IsSegment piece) :
    ∀ name ∈ pieces.foldl step names, LegalSegment name := by
  induction pieces generalizing names with
  | nil => exact legal
  | cons piece pieces ih =>
      exact ih (legal_step legal (all piece List.mem_cons_self)) fun other mem =>
        all other (List.mem_cons_of_mem piece mem)

theorem foldl_step_of_legal {pieces : List Text} (names : List Text)
    (all : ∀ piece ∈ pieces, LegalSegment piece) : pieces.foldl step names = names ++ pieces := by
  induction pieces generalizing names with
  | nil => simp
  | cons piece pieces ih =>
      obtain ⟨_, _, not_here, not_up⟩ := all piece List.mem_cons_self
      have stepped : step names piece = names ++ [piece] := by simp [step, not_here, not_up]
      have below := ih (names ++ [piece]) fun other mem =>
        all other (List.mem_cons_of_mem piece mem)
      rw [List.foldl_cons, stepped, below]
      simp

theorem segments_ofLegal {names : List Text} (legal : ∀ name ∈ names, LegalSegment name) :
    segments (ofSegments names) = names :=
  segments_ofSegments fun name mem => (legal name mem).isSegment

theorem Canonical.legal {path : Text} (h : Canonical path) :
    ∀ name ∈ segments path, LegalSegment name := by
  obtain ⟨names, legal, rfl⟩ := h
  rw [segments_ofLegal legal]
  exact legal

/-- What is resolved from a canonical path is canonical. -/
theorem Canonical.resolve {current : Text} (h : Canonical current) (path home : Text) :
    Canonical (resolve path current home) := by
  refine ⟨place path current home, legal_foldl_step ?_ fun piece => isSegment_of_mem, rfl⟩
  split
  · simp
  · exact h.legal

/-- A path of legal names leads to the place of these names. -/
theorem resolve_ofLegal {names : List Text} (legal : ∀ name ∈ names, LegalSegment name)
    (current home : Text) : resolve (ofSegments names) current home = ofSegments names := by
  have absolute : place (ofSegments names) current home =
      (segments (ofSegments names)).foldl step [] := rfl
  rw [resolve, absolute, segments_ofLegal legal, foldl_step_of_legal [] legal, List.nil_append]

theorem canonical_home {user : Text} (legal : LegalSegment user) :
    Canonical ("/home/" ++ user) := by
  have home : LegalSegment "home" := by decide
  refine ⟨["home", user], ?_, rfl⟩
  intro name mem
  rcases List.mem_cons.mp mem with rfl | mem
  · exact home
  · exact List.mem_singleton.mp mem ▸ legal

theorem canonical_homeFor {user : Text} (legal : LegalSegment user) : Canonical (homeFor user) := by
  simp only [homeFor]
  split
  · exact ⟨["root"], by decide, rfl⟩
  · exact canonical_home legal

theorem legal_parentAndName {path parent name : Text} (canonical : Canonical path)
    (parts : parentAndName path = (parent, name)) (named : name ≠ []) : LegalSegment name := by
  apply canonical.legal
  rw [segments_parentAndName parts named]
  simp

end PocketShell.Path
