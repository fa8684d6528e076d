import PocketShell.Proofs.Path.Resolution
import PocketShell.Proofs.Text.Lines
import PocketShell.Proofs.Text.Order
import PocketShell.Session.Tools

/-!
What `ls` shows of the working directory. Sorting puts directories before files and each group in
the order of its names, so the rows of a listing are told by the names of the two groups; how the
rows are put together is all that differs between a listing for the screen and one for a filter. A
filter gets the rows back from the lines of its text, and none that it keeps is dropped at the end
of the text, as long as no name is empty or has a line feed in it.
-/

namespace PocketShell

namespace Listing

variable {d : Directory} {a b c : Entry}

def visible (d : Directory) : List Entry := d.toList.filter fun entry => !isHidden entry

/-- The names of the directories among some entries, or of the files, in their order. -/
def sortedNames (isDir : Bool) (entries : List Entry) : List Text :=
  ((entries.filter fun entry => entry.2.isDir == isDir).map Prod.fst).mergeSort Text.ble

/-- The visible directories, each with a slash behind its name, and then the visible files. -/
def rows (d : Directory) : List Text :=
  (sortedNames true (visible d)).map (· ++ (['/'] : Text)) ++ sortedNames false (visible d)

theorem before_total (a b : Entry) : before a b = true ∨ before b a = true := by
  by_cases same : a.2.isDir = b.2.isDir
  · simpa [before, same] using Text.ble_total a.1 b.1
  · cases dir : a.2.isDir <;> simp_all [before]

theorem before_trans (first : before a b = true) (second : before b c = true) :
    before a c = true := by
  simp only [before] at first second ⊢
  split at first
  · next same =>
    rw [same]
    split at second
    · next same' =>
      rw [if_pos same']
      exact Text.ble_trans first second
    · next other =>
      rw [if_neg other]
      exact second
  · next other =>
    -- the first one is a directory and the second one is a file, so the third one is a file too
    have file : b.2.isDir = false := by
      cases dir : b.2.isDir with
      | false => rfl
      | true => exact absurd (first.trans dir.symm) other
    split at second
    · next same =>
      rw [if_neg (same ▸ other)]
      exact first
    · exact absurd (second.symm.trans file) Bool.noConfusion

theorem pairwise_shown (showHidden : Bool) (d : Directory) :
    (shown showHidden d).Pairwise (before · ·) :=
  @List.pairwise_mergeSort Entry before (fun _ _ _ => before_trans)
    (fun a b => Bool.or_eq_true_iff.mpr (before_total a b)) _

theorem shown_perm (d : Directory) : (shown false d).Perm (visible d) :=
  List.mergeSort_perm _ _

/-- Entries in the order of a listing are directories first. -/
theorem filter_append_filter {entries : List Entry} (sorted : entries.Pairwise (before · ·)) :
    entries.filter (fun entry => entry.2.isDir == true) ++
      entries.filter (fun entry => entry.2.isDir == false) = entries := by
  induction entries with
  | nil => rfl
  | cons entry entries ih =>
      rw [List.pairwise_cons] at sorted
      cases dir : entry.2.isDir with
      | true => simpa [dir] using ih sorted.2
      | false =>
          have files : ∀ other ∈ entries, other.2.isDir = false := by
            intro other mem
            have above := sorted.1 other mem
            cases kind : other.2.isDir with
            | false => rfl
            | true => simp [before, dir, kind] at above
          have no_dir : entries.filter (fun entry => entry.2.isDir == true) = [] := by
            rw [List.filter_eq_nil_iff]
            intro other mem
            simp [files other mem]
          have rest := ih sorted.2
          rw [no_dir, List.nil_append] at rest
          rw [List.filter_cons_of_neg (by simp [dir]), no_dir, List.nil_append,
            List.filter_cons_of_pos (by simp [dir]), rest]

theorem sortedNames_perm (isDir : Bool) (entries : List Entry) :
    (sortedNames isDir entries).Perm
      ((entries.filter fun entry => entry.2.isDir == isDir).map Prod.fst) :=
  List.mergeSort_perm _ _

theorem pairwise_sortedNames (isDir : Bool) (entries : List Entry) :
    (sortedNames isDir entries).Pairwise fun t u => Text.ble t u = true :=
  @List.pairwise_mergeSort Text Text.ble (fun _ _ _ => Text.ble_trans)
    (fun t u => Bool.or_eq_true_iff.mpr (Text.ble_total t u)) _

/-- There is only one way to put the names of a group in their order. -/
theorem eq_sortedNames {isDir : Bool} {entries : List Entry} {names : List Text}
    (sorted : names.Pairwise fun t u => Text.ble t u = true)
    (same : names.Perm ((entries.filter fun entry => entry.2.isDir == isDir).map Prod.fst)) :
    names = sortedNames isDir entries :=
  List.Perm.eq_of_pairwise (fun _ _ _ _ => Text.ble_antisymm) sorted
    (pairwise_sortedNames isDir entries) (same.trans (sortedNames_perm isDir entries).symm)

/-- In each group the names that are shown are the sorted names of the group. -/
theorem shown_names (isDir : Bool) (d : Directory) :
    ((shown false d).filter fun entry => entry.2.isDir == isDir).map Prod.fst =
      sortedNames isDir (visible d) := by
  refine eq_sortedNames ?_ (((shown_perm d).filter _).map _)
  rw [List.pairwise_map, List.pairwise_filter]
  refine (pairwise_shown false d).imp fun {a b} sorted kind kind' => ?_
  have alike : a.2.isDir = b.2.isDir := (beq_iff_eq.mp kind).trans (beq_iff_eq.mp kind').symm
  simpa [before, alike] using sorted

theorem map_label_shown (d : Directory) : (shown false d).map label = rows d := by
  rw [← filter_append_filter (pairwise_shown false d), List.map_append, rows, ← shown_names,
    ← shown_names, List.map_map]
  congr 1
  · refine List.map_congr_left fun entry mem => ?_
    have dir : entry.2.isDir = true := beq_iff_eq.mp (List.mem_filter.mp mem).2
    simp [label, dir]
  · refine List.map_congr_left fun entry mem => ?_
    have file : entry.2.isDir = false := beq_iff_eq.mp (List.mem_filter.mp mem).2
    simp [label, file]

theorem rows_perm (d : Directory) : (rows d).Perm ((visible d).map label) := by
  rw [← map_label_shown]
  exact (shown_perm d).map label

theorem text_eq (human piped : Bool) (now : Moment) (user path : Text) (d : Directory) :
    Text.unlines (text ⟨false, false, human, piped⟩ now user path d).toList =
      if piped then Text.unlines (rows d) else Text.join "    " (rows d) := by
  rw [← map_label_shown]
  simp only [text]
  split
  · next none_shown =>
    rw [none_shown]
    cases piped <;> rfl
  · cases piped <;> rfl

/-- A name that a listing shows in a row of its own. -/
def OwnRow (name : Text) : Prop := name ≠ [] ∧ .char '\n' ∉ name

instance (name : Text) : Decidable (OwnRow name) := by unfold OwnRow; infer_instance

theorem rows_ownRow (named : ∀ name ∈ d.names, OwnRow name) : ∀ row ∈ rows d, OwnRow row := by
  intro row mem
  obtain ⟨entry, there, rfl⟩ := List.mem_map.mp ((rows_perm d).mem_iff.mp mem)
  have own : OwnRow entry.1 :=
    named entry.1 (List.mem_map_of_mem (List.mem_filter.mp there).1)
  simp only [label]
  split
  · exact ⟨by simp, by simp [own.2]⟩
  · exact own

end Listing

namespace GrepFilter

variable {rows : List Text}

theorem dropDoubleEnd_unlines (named : ∀ row ∈ rows, Listing.OwnRow row) :
    dropDoubleEnd (Text.unlines rows) = Text.unlines rows := by
  rw [dropDoubleEnd, if_neg]
  intro double
  obtain ⟨front, whole⟩ := List.isSuffixOf_iff_suffix.mp double
  rcases List.eq_nil_or_concat rows with rfl | ⟨above, last, rfl⟩
  · simp [Text.unlines, Text.join] at whole
  · have own := named last (by simp)
    have ends : (Text.unlines (above.concat last)).getLast? = last.getLast? := by
      rw [List.concat_eq_append, Text.unlines_around]
      simp [List.getLast?_append, List.getLast?_eq_some_getLast own.1]
    rw [← whole] at ends
    exact own.2 (List.mem_of_getLast? (ends.symm.trans (by simp)))

theorem apply_unlines (filter : GrepFilter) (some_row : rows ≠ [])
    (named : ∀ row ∈ rows, Listing.OwnRow row) :
    filter.apply (Text.unlines rows) = Text.unlines (rows.filter filter.keeps) := by
  rw [apply, Text.lines_unlines some_row fun row mem => (named row mem).2]
  exact dropDoubleEnd_unlines fun row mem => named row (List.mem_filter.mp mem).1

end GrepFilter

/-- Without arguments, `ls` lists the working directory. -/
theorem Session.list_eq {s : Session} {d : Directory} (canonical : Path.Canonical s.path)
    (here : s.nodeAt s.path = some (.dir d)) (now : Moment) (piped : Bool) :
    s.list now [] piped =
      if piped then Text.unlines (Listing.rows d) else Text.join "    " (Listing.rows d) := by
  have target : s.listTarget now ⟨false, false, false, piped⟩ s.path =
      Listing.text ⟨false, false, false, piped⟩ now s.user s.path d := by
    simp only [listTarget, resolve, canonical.resolve_eq, ite_self, here]
  rw [← Listing.text_eq false piped now s.user s.path d, ← target]
  simp only [list, splitFlags, List.filter_nil, List.flatMap_nil, List.isEmpty_nil, if_true,
    List.contains_nil, List.filterMap_cons, List.filterMap_nil]
  cases s.listTarget now ⟨false, false, false, piped⟩ s.path <;> rfl

end PocketShell
