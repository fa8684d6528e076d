import PocketShell.Pipeline.Stages
import PocketShell.Proofs.Pipeline.Operator

/-!
A line without an operator has one stage, the command; and whatever the stages of a line are, its
command is blank if the line is.
-/

namespace PocketShell

theorem Text.cutFirst_eq_none {sep : CodePoint} {t : Text} (free : sep ∉ t) :
    cutFirst sep t = none := by
  induction t with
  | nil => rfl
  | cons c t ih =>
      rw [List.mem_cons, not_or] at free
      simp [cutFirst, Ne.symm free.1, ih free.2]

namespace Stages

theorem ofLine_plain {line : Text} (no_pipe : .char '|' ∉ line) (no_redirect : .char '>' ∉ line) :
    ofLine line = ⟨line, none, none⟩ := by
  simp [ofLine, ofPipe, Text.cutFirst_eq_none no_pipe, Redirect.parse_eq_none no_redirect]

theorem not_mem_of_blank {c : CodePoint} {line : Text} (blank : line.all isBlank = true)
    (visible : isBlank c = false) : c ∉ line := by
  intro mem
  have said := List.all_eq_true.mp blank c mem
  simp [visible] at said

theorem blank_of_ofLine {line : Text} (blank : line.all isBlank = true) :
    (ofLine line).command.all isBlank = true := by
  rw [ofLine_plain (not_mem_of_blank blank (by decide)) (not_mem_of_blank blank (by decide))]
  exact blank

end Stages
end PocketShell
