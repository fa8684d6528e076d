import Mathlib.Data.List.DropRight
import Mathlib.Data.List.TakeWhile
import PocketShell.Text.Blank

/-!
Texts without blanks at their ends. Such a text is told from its first and its last character, and
it is what trimming leaves when blanks are put around it. Whatever a text is, trimming takes nothing
but blanks from its ends and leaves none there.
-/

namespace PocketShell.Text

/-- No blank stands at either end. -/
def Trimmed (t : Text) : Prop := trim t = t

instance (t : Text) : Decidable (Trimmed t) := inferInstanceAs (Decidable (trim t = t))

variable {t lead tail : Text}

theorem trimEnd_eq_rdropWhile (t : Text) : trimEnd t = t.rdropWhile isBlank := rfl

theorem trimStart_eq_self_iff : trimStart t = t ↔ ∀ c ∈ t.head?, isBlank c = false := by
  cases t with
  | nil => simp [trimStart, trimStartWhen]
  | cons c t =>
      simp only [trimStart, trimStartWhen, List.dropWhile_eq_self_iff]
      simp

theorem trimEnd_eq_self_iff : trimEnd t = t ↔ ∀ c ∈ t.getLast?, isBlank c = false := by
  rw [trimEnd_eq_rdropWhile, List.rdropWhile_eq_self_iff]
  cases t using List.reverseRecOn with
  | nil => simp
  | append_singleton t c => simp

theorem trimmed_iff :
    Trimmed t ↔ (∀ c ∈ t.head?, isBlank c = false) ∧ ∀ c ∈ t.getLast?, isBlank c = false := by
  rw [← trimStart_eq_self_iff, ← trimEnd_eq_self_iff, Trimmed, trim]
  constructor
  · intro trimmed
    -- what is trimmed at one end only is no shorter than what is trimmed at both
    have shorter : (trimEnd (trimStart t)).length ≤ (trimStart t).length :=
      (List.rdropWhile_prefix isBlank _).length_le
    rw [trimmed] at shorter
    have started : trimStart t = t :=
      (List.dropWhile_suffix isBlank).eq_of_length_le shorter
    exact ⟨started, by rwa [started] at trimmed⟩
  · rintro ⟨started, ended⟩
    rw [started, ended]

theorem trimStart_append (blank : ∀ c ∈ lead, isBlank c = true) (t : Text) :
    trimStart (lead ++ t) = trimStart t := by
  have gone : lead.dropWhile isBlank = [] := List.dropWhile_eq_nil_iff.mpr blank
  rw [trimStart, trimStartWhen, List.dropWhile_append, gone]
  rfl

/-- Behind something that is not blank, nothing is trimmed off at the start. -/
theorem trimStart_append_of_visible (visible : ∃ c ∈ lead, isBlank c = false) (t : Text) :
    trimStart (lead ++ t) = trimStart lead ++ t := by
  obtain ⟨c, mem, visible⟩ := visible
  have left : ¬ (lead.dropWhile isBlank).isEmpty := by
    rw [List.isEmpty_iff, List.dropWhile_eq_nil_iff]
    intro all
    rw [all c mem] at visible
    cases visible
  rw [trimStart, trimStartWhen, List.dropWhile_append, if_neg left]
  rfl

theorem trimEnd_append (t : Text) (blank : ∀ c ∈ tail, isBlank c = true) :
    trimEnd (t ++ tail) = trimEnd t := by
  have turned : trimStart (tail.reverse ++ t.reverse) = trimStart t.reverse :=
    trimStart_append (by simpa using blank) t.reverse
  simpa [trimEnd, trimEndWhen, trimStart, trimStartWhen] using congrArg List.reverse turned

/-- Blanks around a text are trimmed off, and nothing of the text is. -/
theorem trim_around (trimmed : Trimmed t) (before : ∀ c ∈ lead, isBlank c = true)
    (behind : ∀ c ∈ tail, isBlank c = true) : trim (lead ++ (t ++ tail)) = t := by
  obtain ⟨first, last⟩ := trimmed_iff.mp trimmed
  rw [trim, trimStart_append before]
  cases t with
  | nil =>
      have gone : trimStart tail = [] := List.dropWhile_eq_nil_iff.mpr behind
      rw [List.nil_append, gone]
      rfl
  | cons c t =>
      have started : trimStart (c :: t ++ tail) = c :: t ++ tail :=
        trimStart_eq_self_iff.mpr (by simpa using first)
      rw [started, trimEnd_append _ behind, trimEnd_eq_self_iff.mpr last]

theorem Trimmed.trim_concat (trimmed : Trimmed t) {c : CodePoint} (blank : isBlank c = true) :
    trim (t ++ [c]) = t := by
  simpa using @trim_around t [] [c] trimmed (by simp) (by simpa using blank)

theorem Trimmed.trim_cons (trimmed : Trimmed t) {c : CodePoint} (blank : isBlank c = true) :
    trim (c :: t) = t := by
  simpa using @trim_around t [c] [] trimmed (by simpa using blank) (by simp)

/-- A text is trimmed when it begins as one trimmed text and ends as another one. -/
theorem Trimmed.append {u : Text} (trimmed : Trimmed t) (ne_nil : t ≠ []) (trimmed' : Trimmed u)
    (ne_nil' : u ≠ []) (between : Text) : Trimmed (t ++ (between ++ u)) := by
  obtain ⟨first, _⟩ := trimmed_iff.mp trimmed
  obtain ⟨_, last⟩ := trimmed_iff.mp trimmed'
  rw [trimmed_iff, List.head?_append_of_ne_nil _ ne_nil, ← List.append_assoc,
    List.getLast?_append_of_ne_nil _ ne_nil']
  exact ⟨first, last⟩

theorem trim_append_blank (t : Text) (blank : ∀ c ∈ tail, isBlank c = true) :
    trim (t ++ tail) = trim t := by
  by_cases filled : ∃ c ∈ t, isBlank c = false
  · rw [trim, trimStart_append_of_visible filled, trimEnd_append _ blank, trim]
  · have all : ∀ c ∈ t, isBlank c = true := by simpa using filled
    have gone : trimStart tail = [] := List.dropWhile_eq_nil_iff.mpr blank
    have gone' : trimStart t = [] := List.dropWhile_eq_nil_iff.mpr all
    rw [trim, trimStart_append all, gone, trim, gone']

/-- What is left of a text when its blanks at both ends are gone. -/
structure Stripped (t core : Text) : Prop where
  around : ∃ lead tail, t = lead ++ (core ++ tail) ∧ ∀ c ∈ lead ++ tail, isBlank c = true
  first : ∀ c ∈ core.head?, isBlank c = false
  last : ∀ c ∈ core.getLast?, isBlank c = false

theorem stripped_trim (t : Text) : Stripped t (trim t) := by
  have parted : trim t ++ (trimStart t).rtakeWhile isBlank = trimStart t :=
    List.rdropWhile_append_rtakeWhile
  have started : trimStart (trimStart t) = trimStart t := List.dropWhile_idempotent isBlank t
  have ended : trimEnd (trim t) = trim t := List.rdropWhile_idempotent isBlank (trimStart t)
  refine ⟨⟨t.takeWhile isBlank, (trimStart t).rtakeWhile isBlank, ?_, ?_⟩, ?_,
    trimEnd_eq_self_iff.mp ended⟩
  · rw [parted]
    exact List.takeWhile_append_dropWhile.symm
  · rw [List.forall_mem_append]
    exact ⟨fun c => List.mem_takeWhile_imp, fun c => List.mem_rtakeWhile_imp⟩
  · -- the first character of the core is that of the text without the blanks before it
    intro c head
    refine trimStart_eq_self_iff.mp started c ?_
    rw [← parted]
    exact List.mem_head?_append_of_mem_head? head

/-- Characters may be exchanged before trimming if blanks stay blanks. -/
theorem trim_map {f : CodePoint → CodePoint} (blank : ∀ c, isBlank (f c) = isBlank c) (t : Text) :
    trim (t.map f) = (trim t).map f := by
  have same : isBlank ∘ f = isBlank := funext blank
  simp [trim, trimEnd, trimEndWhen, trimStart, trimStartWhen, ← List.map_reverse,
    List.dropWhile_map, same]

section Join

variable {sep : Text} {words : List Text}

theorem join_cons_of_ne_nil (sep word : Text) (ne_nil : words ≠ []) :
    join sep (word :: words) = word ++ (sep ++ join sep words) := by
  obtain ⟨next, words, rfl⟩ := List.exists_cons_of_ne_nil ne_nil
  rw [join, List.append_assoc]

theorem join_ne_nil (ne_nil : words ≠ []) (filled : ∀ word ∈ words, word ≠ []) :
    join sep words ≠ [] := by
  obtain ⟨word, words, rfl⟩ := List.exists_cons_of_ne_nil ne_nil
  have first : word ≠ [] := filled word (by simp)
  cases words with
  | nil => exact first
  | cons next words =>
      rw [join_cons_of_ne_nil sep word (by simp)]
      exact List.append_ne_nil_of_left_ne_nil first _

theorem Trimmed.join (filled : ∀ word ∈ words, word ≠ []) (trimmed : ∀ word ∈ words, Trimmed word) :
    Trimmed (join sep words) := by
  induction words with
  | nil => rfl
  | cons word words ih =>
      rw [List.forall_mem_cons] at filled trimmed
      by_cases last : words = []
      · rw [last]
        exact trimmed.1
      · rw [join_cons_of_ne_nil sep word last]
        exact trimmed.1.append filled.1 (ih filled.2 trimmed.2) (join_ne_nil last filled.2) sep

theorem not_mem_join {c : CodePoint} (free : c ∉ sep) (words_free : ∀ word ∈ words, c ∉ word) :
    c ∉ join sep words := by
  induction words with
  | nil => simp [Text.join]
  | cons word words ih =>
      rw [List.forall_mem_cons] at words_free
      by_cases last : words = []
      · rw [last]
        exact words_free.1
      · simp [join_cons_of_ne_nil sep word last, words_free.1, free, ih words_free.2]

end Join

end PocketShell.Text
