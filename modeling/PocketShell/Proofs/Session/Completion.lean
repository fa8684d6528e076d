import Mathlib.Data.List.Nodup
import PocketShell.Proofs.FileTree.Put
import PocketShell.Proofs.Session.Addressable
import PocketShell.Proofs.Text.Trimmed
import PocketShell.Session.Completion
import PocketShell.Session.Listing

/-!
Completion of the last word of a line. The word is cut behind its last slash, and what stands up to
there is put before every name that is offered. Behind a slash a path goes on from the place that it
has reached, so what was put together leads to the entry, however the directory was spelled. Only a
name alone may be read in another way: one that begins with a tilde stands for something at home.
-/

namespace PocketShell

namespace Listing

variable {entry other : Entry}

theorem segments_label (legal : Path.LegalSegment entry.1) :
    Path.segments (label entry) = [entry.1] := by
  have bare : Path.segments entry.1 = [entry.1] := Path.segments_of_isSegment legal.isSegment
  simp only [label]
  split
  · rw [Path.segments_append, bare]
    rfl
  · exact bare

theorem head?_label (legal : Path.LegalSegment entry.1) : (label entry).head? = entry.1.head? := by
  simp only [label]
  split
  · exact List.head?_append_of_ne_nil _ legal.1
  · rfl

theorem label_ne_nil (legal : Path.LegalSegment entry.1) : label entry ≠ [] := by
  have named := legal.1
  simp only [label]
  split <;> simp [named]

/-- A slash at the end of a label is the mark of a directory: no name has one. -/
theorem getLast?_label (legal : Path.LegalSegment entry.1) :
    (label entry).getLast? = some (.char '/') ↔ entry.2.isDir := by
  simp only [label]
  split
  · next directory => simp [directory]
  · next file =>
    refine iff_of_false (fun last => ?_) file
    exact legal.2.1 (List.mem_of_getLast? last)

theorem name_eq_of_label_eq (legal : Path.LegalSegment entry.1) (legal' : Path.LegalSegment other.1)
    (same : label entry = label other) : entry.1 = other.1 := by
  have segments := congrArg Path.segments same
  rw [segments_label legal, segments_label legal'] at segments
  exact List.singleton_inj.mp segments

end Listing

namespace Session

variable {s : Session} {line word lead start : Text} {place : List Text}

/-- The word is all that stands behind the last blank of the line, with some word before it. -/
def LastWord (line word : Text) : Prop :=
  ∃ before c, line = before ++ c :: word ∧ (∃ d ∈ before, isBlank d = false) ∧
    isBlank c = true ∧ ∀ d ∈ word, isBlank d = false

/-- A line with a blank behind its first word has a last word. -/
theorem exists_lastWord {before : Text} {c : CodePoint} (begun : ∃ d ∈ before, isBlank d = false)
    (blank : isBlank c = true) (rest : Text) : ∃ word, LastWord (before ++ c :: rest) word := by
  -- on what stands behind the blank, from its end: a blank there begins the word anew
  induction rest using List.reverseRecOn with
  | nil => exact ⟨[], before, c, rfl, begun, blank, by simp⟩
  | append_singleton rest d ih =>
      cases visible : isBlank d with
      | true =>
          obtain ⟨e, mem, seen⟩ := begun
          exact ⟨[], before ++ c :: rest, d, by simp, ⟨e, by simp [mem], seen⟩, visible, by simp⟩
      | false =>
          obtain ⟨word, before', c', same, begun', blank', whole⟩ := ih
          refine ⟨word ++ [d], before', c', ?_, begun', blank', ?_⟩
          · rw [← List.cons_append, ← List.append_assoc, same]
            simp
          · simpa [or_imp, forall_and, visible] using whole

theorem complete_of_lastWord (s : Session) (last : LastWord line word) :
    s.complete line = s.completePath word := by
  obtain ⟨before, c, rfl, begun, blank, whole⟩ := last
  have cut : lastWord (Text.trimStart before ++ c :: word) = word := by
    by_cases empty : word = []
    · simp [lastWord, empty, blank]
    · have seen_last : isBlank (word.getLast empty) = false := whole _ (List.getLast_mem empty)
      have last : (Text.trimStart before ++ c :: word).getLast? = some (word.getLast empty) := by
        simp [List.getLast?_append, List.getLast?_cons, List.getLast?_eq_some_getLast empty]
      simp [lastWord, last, seen_last, Text.words_append blank, Text.words_of_visible empty whole]
  have spaced : (Text.trimStart before ++ c :: word).any isBlank = true := by simp [blank]
  simp only [complete, Text.trimStart_append_of_visible begun, spaced, if_true, cut]

/-- How a word is cut into what is kept and the start of a name, and where the name is looked for:
what stands up to the last slash names the directory, and without a slash it is the working
directory. -/
inductive Cut (s : Session) : (word lead start : Text) → (place : List Text) → Prop
  | here {word : Text} : .char '/' ∉ word → s.Cut word [] word (Path.segments s.path)
  | below {before start : Text} : .char '/' ∉ start →
      s.Cut (before ++ .char '/' :: start) (before ++ (['/'] : Text)) start
        (s.placeOf (before ++ (['/'] : Text)))

theorem exists_cut (s : Session) (word : Text) :
    ∃ lead start place, s.Cut word lead start place := by
  cases cut : Text.cutLast '/' word with
  | none => exact ⟨_, _, _, .here (Text.cutLast_eq_none_iff.mp cut)⟩
  | some parts =>
      obtain ⟨rfl, free⟩ := Text.cutLast_eq_some_iff.mp cut
      exact ⟨_, _, _, .below free⟩

theorem Cut.word_eq (cut : s.Cut word lead start place) : lead ++ start = word := by
  cases cut <;> simp

/-- A word is cut in one way only. -/
theorem Cut.unique {lead' start' : Text} {place' : List Text} (cut : s.Cut word lead start place)
    (cut' : s.Cut word lead' start' place') : lead' = lead ∧ start' = start ∧ place' = place := by
  cases cut with
  | here free =>
      cases cut' with
      | here _ => exact ⟨rfl, rfl, rfl⟩
      | below _ => simp at free
  | @below before _ free =>
      generalize same : before ++ .char '/' :: start = word at cut'
      have first := Text.cutLast_eq_some_iff.mpr ⟨same.symm, free⟩
      cases cut' with
      | here none => simp [← same] at none
      | below free' =>
          rw [Text.cutLast_eq_some_iff.mpr ⟨rfl, free'⟩] at first
          cases first
          exact ⟨rfl, rfl, rfl⟩

theorem Cut.completePath_eq (cut : s.Cut word lead start place) :
    s.completePath word = match s.root.walk place with
      | some (.dir d) => ⟨.path, entriesFor start d, word, some start⟩
      | _ => ⟨.path, [], word, none⟩ := by
  cases cut with
  | here free => simp only [completePath, Text.cutLast_eq_none_iff.mpr free]; rfl
  | below free => simp only [completePath, Text.cutLast_eq_some_iff.mpr ⟨rfl, free⟩]; rfl

/-- The entries of a directory that a start may become, in their order. -/
def candidates (start : Text) (d : Directory) : List Listing.Entry :=
  d.toList.filter fun entry => start.isPrefixOf entry.1

theorem completionOptions_of_dir (cut : s.Cut word lead start place) (last : LastWord line word)
    {d : Directory} (there : s.root.walk place = some (.dir d)) :
    s.completionOptions line = (candidates start d).map (lead ++ Listing.label ·) := by
  have kept : word.take (word.length - start.length) = lead := by simp [← cut.word_eq]
  simp only [completionOptions, s.complete_of_lastWord last, cut.completePath_eq, there,
    Option.getD_some, kept]
  simp only [entriesFor, List.map_map]
  rfl

theorem completionOptions_of_no_dir (cut : s.Cut word lead start place) (last : LastWord line word)
    (no_dir : ∀ d, s.root.walk place ≠ some (.dir d)) : s.completionOptions line = [] := by
  have nothing : s.completePath word = ⟨.path, [], word, none⟩ := by
    rw [cut.completePath_eq]
    split
    · next d there => exact absurd there (no_dir d)
    · rfl
  simp only [completionOptions, s.complete_of_lastWord last, nothing, List.map_nil]

/-- What is put together for an entry leads to it. -/
theorem Cut.placeOf_option (cut : s.Cut word lead start place)
    (rooted : s.environment.home.head? = some (.char '/')) {entry : Listing.Entry}
    (legal : Path.LegalSegment entry.1)
    (plain : .char '/' ∈ word ∨ entry.1.head? ≠ some (.char '~')) :
    s.placeOf (lead ++ Listing.label entry) = place ++ [entry.1] := by
  have one_step (names : List Text) :
      (Path.segments (Listing.label entry)).foldl Path.step names = names ++ [entry.1] := by
    rw [Listing.segments_label legal]
    exact Path.foldl_step_of_legal names (List.forall_mem_singleton.mpr legal)
  cases cut with
  | here free =>
      have no_tilde := plain.resolve_left free
      have relative : entry.1.head? ≠ some (.char '/') :=
        fun slash => legal.2.1 (List.mem_of_head? slash)
      rw [← Listing.head?_label legal] at no_tilde relative
      rw [List.nil_append, placeOf, resolve, Path.segments_resolve,
        Path.place_of_relative relative no_tilde, one_step]
  | @below before =>
      have absolute : Path.isAbsolute s.environment.home := by simp [Path.isAbsolute, rooted]
      rw [List.append_assoc, List.singleton_append, placeOf, resolve, Path.segments_resolve,
        Path.place_behind_slash absolute, one_step, placeOf, resolve, Path.segments_resolve]

/-- What is offered for an entry of the directory at a place: it begins with the word, it ends in a
slash just for a directory, and it leads to the entry. Where the word has no slash, a name that
begins with a tilde leads to a place at home. -/
structure Offers (s : Session) (word : Text) (place : List Text) (entry : Listing.Entry)
    (option : Text) : Prop where
  begins : word <+: option
  slash : option.getLast? = some (.char '/') ↔ entry.2.isDir
  leads : .char '/' ∈ word ∨ entry.1.head? ≠ some (.char '~') →
    s.placeOf option = place ++ [entry.1] ∧ s.node? option = some entry.2
  home : .char '/' ∉ word → entry.1.head? = some (.char '~') →
    s.resolve option = s.resolve (s.environment.home ++ option.tail)

theorem resolve_tilde (rooted : s.environment.home.head? = some (.char '/')) {path : Text}
    (tilde : path.head? = some (.char '~')) :
    s.resolve path = s.resolve (s.environment.home ++ path.tail) := by
  obtain ⟨rest, rfl⟩ := List.head?_eq_some_iff.mp tilde
  have no_tilde : (s.environment.home ++ rest).head? ≠ some (.char '~') := by
    simp [List.head?_append, rooted]
  have expanded : Path.expandHome s.environment.home ('~' :: rest) =
      Path.expandHome s.environment.home (s.environment.home ++ rest) := by
    rw [Path.expandHome_of_no_tilde no_tilde]
    simp [Path.expandHome]
  rw [List.tail_cons]
  simp only [resolve, Path.resolve, Path.place, expanded]

theorem Cut.offers (cut : s.Cut word lead start place)
    (legal : s.root.WellNamed Path.LegalSegment)
    (rooted : s.environment.home.head? = some (.char '/')) {d : Directory}
    (there : s.root.walk place = some (.dir d)) {entry : Listing.Entry}
    (mem : entry ∈ candidates start d) :
    s.Offers word place entry (lead ++ Listing.label entry) := by
  obtain ⟨inside, starts⟩ := List.mem_filter.mp mem
  have named : d.WellNamed Path.LegalSegment :=
    Node.wellNamed_walk (.dir s.root) (.dir d) place legal there
  have name : Path.LegalSegment entry.1 :=
    d.wellNamed_names named _ (List.mem_map_of_mem inside)
  have found : d.get? entry.1 = some entry.2 := Directory.get?_of_mem_toList named inside
  refine ⟨?_, ?_, fun plain => ?_, fun free tilde => ?_⟩
  · have begins : entry.1 <+: Listing.label entry := by
      simp only [Listing.label]
      split
      · exact List.prefix_append _ _
      · exact List.prefix_refl _
    rw [← cut.word_eq, List.prefix_append_right_inj]
    exact (List.isPrefixOf_iff_prefix.mp starts).trans begins
  · rw [List.getLast?_append_of_ne_nil _ (Listing.label_ne_nil name)]
    exact Listing.getLast?_label name
  · have led := cut.placeOf_option rooted name plain
    refine ⟨led, ?_⟩
    rw [node?, nodeAt, ← placeOf, led, Directory.walk_concat_of_dir there, found]
  · cases cut with
    | here _ => exact resolve_tilde rooted ((Listing.head?_label name).trans tilde)
    | below _ => simp at free

/-- In a directory of legal names, each of them once, no text is offered twice. -/
theorem nodup_options {d : Directory} (named : d.WellNamed Path.LegalSegment) (lead start : Text) :
    ((candidates start d).map (lead ++ Listing.label ·)).Nodup := by
  have names : (d.toList.map Prod.fst).Nodup := Directory.nodup_names named
  have legal {entry : Listing.Entry} (mem : entry ∈ candidates start d) :
      entry ∈ d.toList ∧ Path.LegalSegment entry.1 := by
    have inside : entry ∈ d.toList := List.mem_of_mem_filter mem
    exact ⟨inside, d.wellNamed_names named _ (List.mem_map_of_mem inside)⟩
  refine List.Nodup.map_on (fun entry mem other mem' same => ?_) (names.of_map.filter _)
  obtain ⟨inside, name⟩ := legal mem
  obtain ⟨inside', name'⟩ := legal mem'
  have same_name := Listing.name_eq_of_label_eq name name' (List.append_cancel_left same)
  exact List.inj_on_of_nodup_map names inside inside' same_name

end Session
end PocketShell
