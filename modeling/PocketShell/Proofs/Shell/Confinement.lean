import PocketShell.Proofs.Session.Confined
import PocketShell.Proofs.Shell.Restart

/-!
No line of an ordinary user without a redirect reaches beyond the home directory of that user. A
redirect does, for it asks for no permission; and `su` does not, because it takes effect on the
next line only.
-/

namespace PocketShell.Shell

variable {σ : Type}

theorem runJob_sameApart (nested : Shell σ → Text → Result σ) (sh : Shell σ)
    (invocation : Invocation) {job : Job} (own : (Handler.job job).isHost = false)
    (ordinary : sh.session.user ≠ rootUser) :
    Directory.SameApart (homePlace sh.session.user) sh.session.root
      (runJob nested sh invocation job).2.session.root := by
  cases job with
  | tool tool => exact Session.use_sameApart _ _ tool _ _ ordinary
  | edit => exact Directory.sameApart_refl _ _
  | host command => cases own

theorem run_sameApart (nested : Shell σ → Text → Result σ) (sh : Shell σ)
    (invocation : Invocation) (builtins : sh.session.registry = Registry.builtins)
    {handler : Handler} (own : handler.isHost = false) (ordinary : sh.session.user ≠ rootUser) :
    Directory.SameApart (homePlace sh.session.user) sh.session.root
      (run nested sh invocation handler).2.session.root := by
  match handler, own with
  | .job job, own => exact runJob_sameApart nested sh invocation own ordinary
  | .sudo, _ =>
      simp only [run, builtins]
      split
      · exact Directory.sameApart_refl _ _
      · next job name args found =>
        exact runJob_sameApart nested sh _ (Registry.behindSudo_builtins _ found).1 ordinary

variable [KeyValueStore σ]

theorem executeWith_sameApart (nested : Shell σ → Text → Result σ) (sh : Shell σ) (line : Text)
    (builtins : sh.session.registry = Registry.builtins)
    (ordinary : sh.session.user ≠ rootUser) (direct : (Stages.ofLine line).redirect = none) :
    Directory.SameApart (homePlace sh.session.user) sh.session.root
      (executeWith nested sh line).2.session.root := by
  rcases executeWith_cases nested sh line with
    ⟨_, result⟩ | ⟨_, _, result⟩ | ⟨_, command, known, result⟩
  · rw [result]
    exact Directory.sameApart_refl _ _
  · rw [result]
    exact Directory.sameApart_refl _ _
  · have own := Registry.builtins_not_host (builtins ▸ known)
    have apart := run_sameApart nested (sh.remembering line) (invocation sh.session line) builtins
      own ordinary
    obtain ⟨output, ran, finished, _⟩ :=
      ran_builtin nested (sh.remembering line) (invocation sh.session line) builtins own
    rw [finished] at apart
    rw [result, finished, direct]
    simp only [deliver, checkpoint_session]
    exact apart

/-- After a line without a redirect, everything outside the home directory of the ordinary user who
gave it is as it was before: each node that is neither on the way to that home nor in it, and each
entry beside the way. -/
theorem lines_stay_in_home (sh : Shell σ) (line : Text)
    (builtins : sh.session.registry = Registry.builtins)
    (ordinary : sh.session.user ≠ rootUser) (direct : (Stages.ofLine line).redirect = none) :
    let home := Path.segments ("/home/" ++ sh.session.user)
    let before := sh.session.root
    let after := (sh.execute line).2.session.root
    (∀ names, ¬ home <+: names → ¬ names <+: home → after.walk names = before.walk names) ∧
    ∀ above next below, home = above ++ next :: below →
      (after.walk above).map (Node.apart next) = (before.walk above).map (Node.apart next) := by
  intro home before after
  have apart := executeWith_sameApart (nestedIn nestingLimit) sh line builtins ordinary direct
  rw [← execute_eq] at apart
  exact ⟨fun _ not_below not_above => apart.walk_eq not_below not_above, apart⟩

/-- A guest removes a file at home, and tries to remove others and the home directory itself. -/
theorem guest_stays_in_home :
    let line : Text := "sudo rm -rv *.txt ../../etc/hostname /tmp ~"
    let before := guestShell.session.root
    let after := (guestShell.execute line).2.session.root
    guestShell.session.registry = Registry.builtins ∧ guestShell.session.user ≠ rootUser ∧
      (Stages.ofLine line).redirect = none ∧
      after.walk ["home", "guest", "example.txt"] = none ∧
      after.walk ["etc", "hostname"] = before.walk ["etc", "hostname"] ∧
      (after.walk ["home"]).map (Node.apart "guest") =
        (before.walk ["home"]).map (Node.apart "guest") := by
  intro line before after
  have ordinary : guestShell.session.user ≠ rootUser := by decide +kernel
  have direct : (Stages.ofLine line).redirect = none := by decide +kernel
  have removed : after.walk ["home", "guest", "example.txt"] = none := by decide +kernel
  obtain ⟨outside, beside⟩ := lines_stay_in_home guestShell line rfl ordinary direct
  have untouched := outside ["etc", "hostname"] (by decide +kernel) (by decide +kernel)
  have others := beside ["home"] "guest" [] (by decide +kernel)
  exact ⟨rfl, ordinary, direct, removed, untouched, others⟩

end PocketShell.Shell
