import PocketShell.Proofs.Path.Canonical

/-!
Resolving in steps. A path that is put together at a slash is resolved by resolving its first
part, and then its second part from there, since both ways take the same steps along the same
segments. A canonical path is told by the pieces between its slashes, and it is put together again
from its parent and its name.
-/

namespace PocketShell.Path

variable {path rest current home : Text}

theorem mem_foldl_step {pieces names : List Text} {name : Text}
    (mem : name ∈ pieces.foldl step names) : name ∈ names ∨ name ∈ pieces := by
  induction pieces generalizing names with
  | nil => exact .inl mem
  | cons piece pieces ih =>
      rcases ih mem with stepped | later
      · simp only [step] at stepped
        split at stepped
        · exact .inl (List.dropLast_subset _ stepped)
        · split at stepped
          · exact .inl stepped
          · rcases List.mem_append.mp stepped with before | here
            · exact .inl before
            · exact .inr (List.mem_cons.mpr (.inl (List.mem_singleton.mp here)))
      · exact .inr (List.mem_cons_of_mem piece later)

theorem isSegment_of_mem_place {name : Text} (mem : name ∈ place path current home) :
    IsSegment name := by
  rcases mem_foldl_step mem with start | piece
  · split at start
    · cases start
    · exact isSegment_of_mem start
  · exact isSegment_of_mem piece

theorem segments_resolve (path current home : Text) :
    segments (resolve path current home) = place path current home :=
  segments_ofSegments fun _ => isSegment_of_mem_place

theorem expandHome_append (ne_nil : path ≠ []) (home rest : Text) :
    expandHome home (path ++ rest) = expandHome home path ++ rest := by
  obtain ⟨c, path, rfl⟩ := List.exists_cons_of_ne_nil ne_nil
  by_cases tilde : c = '~' <;> simp [expandHome, tilde]

theorem expandHome_ne_nil (ne_nil : path ≠ []) (rooted : isAbsolute home) :
    expandHome home path ≠ [] := by
  obtain ⟨c, path, rfl⟩ := List.exists_cons_of_ne_nil ne_nil
  have some_home : home ≠ [] := by
    rintro rfl
    cases rooted
  by_cases tilde : c = '~' <;> simp [expandHome, tilde, some_home]

theorem expandHome_of_no_tilde (no_tilde : path.head? ≠ some (.char '~')) (home : Text) :
    expandHome home path = path := by
  cases path with
  | nil => rfl
  | cons c path =>
      have other : c ≠ '~' := fun tilde => no_tilde (congrArg some tilde)
      simp [expandHome, other]

theorem isAbsolute_append (ne_nil : path ≠ []) (rest : Text) :
    isAbsolute (path ++ rest) = isAbsolute path := by
  obtain ⟨c, path, rfl⟩ := List.exists_cons_of_ne_nil ne_nil
  rfl

/-- Behind a slash the steps go on from the place that was reached before it. -/
theorem place_append (ne_nil : path ≠ []) (rooted : isAbsolute home) (rest current : Text) :
    place (path ++ .char '/' :: rest) current home =
      (segments rest).foldl step (place path current home) := by
  have some_path := expandHome_ne_nil ne_nil rooted
  simp only [place, expandHome_append ne_nil, isAbsolute_append some_path, segments_append,
    List.foldl_append]

/-- What is put behind a last slash goes on from the place of all that stands up to it. -/
theorem place_behind_slash (rooted : isAbsolute home) (path rest current : Text) :
    place (path ++ .char '/' :: rest) current home =
      (segments rest).foldl step (place (path ++ (['/'] : Text)) current home) := by
  by_cases root : path = []
  · subst root
    -- a lone slash leads to the root, where the names of an absolute path begin
    have absolute (path : Text) : place ('/' :: path) current home =
        (segments path).foldl step [] := by
      simp [place, expandHome, isAbsolute, segments_slash]
    exact absolute rest
  · rw [place_append root rooted, place_append root rooted []]
    rfl

theorem place_of_relative (not_absolute : rest.head? ≠ some (.char '/'))
    (no_tilde : rest.head? ≠ some (.char '~')) (current home : Text) :
    place rest current home = (segments rest).foldl step (segments current) := by
  have relative : isAbsolute rest = false := by simpa [isAbsolute] using not_absolute
  simp [place, expandHome_of_no_tilde no_tilde, relative]

theorem resolve_append (ne_nil : path ≠ []) (rooted : isAbsolute home)
    (not_absolute : rest.head? ≠ some (.char '/')) (no_tilde : rest.head? ≠ some (.char '~'))
    (current : Text) :
    resolve (path ++ .char '/' :: rest) current home =
      resolve rest (resolve path current home) home := by
  rw [resolve, place_append ne_nil rooted]
  rw [resolve, place_of_relative not_absolute no_tilde, segments_resolve]

theorem Canonical.resolve_eq (h : Canonical path) (current home : Text) :
    Path.resolve path current home = path := by
  obtain ⟨names, legal, rfl⟩ := h
  exact resolve_ofLegal legal current home

theorem ofSegments_concat {names : List Text} (some_name : names ≠ []) (name : Text) :
    ofSegments (names ++ [name]) = ofSegments names ++ .char '/' :: name := by
  induction names with
  | nil => exact absurd rfl some_name
  | cons first names ih =>
      cases names with
      | nil => simp [ofSegments, Text.join]
      | cons next names =>
          have below := ih (by simp)
          simp only [ofSegments, List.cons_append, List.cons.injEq, true_and] at below
          simp [ofSegments, Text.join, below]

theorem join_ofSegments {names : List Text} (filled : ∀ name ∈ names, name ≠ []) (name : Text) :
    join (ofSegments names) name = ofSegments (names ++ [name]) := by
  cases names with
  | nil => rfl
  | cons first names =>
      have below_root : ofSegments (first :: names) ≠ (['/'] : Text) := by
        have some_first : first ≠ [] := filled first List.mem_cons_self
        cases names <;> simp [ofSegments, Text.join, some_first]
      rw [join, if_neg below_root, ofSegments_concat (by simp)]

/-- The parent of a canonical path and its name make it up again. -/
theorem Canonical.join_parentAndName (h : Canonical path) (not_root : path ≠ (['/'] : Text)) :
    join (parentAndName path).1 (parentAndName path).2 = path := by
  obtain ⟨names, legal, rfl⟩ := h
  rcases List.eq_nil_or_concat names with rfl | ⟨parent, name, rfl⟩
  · exact absurd rfl not_root
  · rw [List.concat_eq_append] at legal ⊢
    have parts := segments_ofLegal legal
    rw [(parentAndName_of_segments parts).1]
    exact join_ofSegments (fun other mem => (legal other (by simp [mem])).1) name

/-- A path is canonical if it is the root, or if it begins with a slash and every piece between its
slashes is a legal segment; so it does not end in a slash. -/
theorem canonical_iff : Canonical path ↔ path = (['/'] : Text) ∨
    ∃ names, path = .char '/' :: names ∧ ∀ piece ∈ Text.splitOn '/' names, LegalSegment piece := by
  constructor
  · rintro ⟨names, legal, rfl⟩
    by_cases none : names = []
    · exact .inl (by rw [none]; rfl)
    · refine .inr ⟨Text.join ['/'] names, rfl, ?_⟩
      rwa [Text.splitOn_join none fun name mem => (legal name mem).2.1]
  · rintro (rfl | ⟨names, rfl, legal⟩)
    · exact ⟨[], by simp, rfl⟩
    · exact ⟨Text.splitOn '/' names, legal, by rw [ofSegments, Text.join_splitOn]⟩

end PocketShell.Path
