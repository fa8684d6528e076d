import PocketShell.Proofs.Desk.Parallel
import PocketShell.Proofs.Shell.Event

/-!
All sessions of a shell, the present one and those before it. An editor still writes for the session
that has opened it, so what is to be said of a session at every moment is said of all of them. What
editors do to a session is to write a file for it and to be forgotten by it once they close.
-/

namespace PocketShell

namespace Machine

variable {σ : Type} {P : Session → Prop}

def Each (P : Session → Prop) (m : Machine σ) : Prop := P m.session ∧ ∀ s ∈ m.former, P s

variable {m : Machine σ}

theorem Each.sessionOf (each : m.Each P) {owner : Nat} {s : Session}
    (here : m.sessionOf owner = some s) : P s := by
  simp only [Machine.sessionOf] at here
  split at here
  · cases here
    exact each.1
  · exact each.2 s (List.mem_of_getElem? here)

theorem Each.putSession (each : m.Each P) (owner : Nat) {s : Session} (good : P s) :
    (m.putSession owner s).Each P := by
  simp only [Machine.putSession]
  split
  · exact ⟨good, each.2⟩
  · refine ⟨each.1, fun other mem => ?_⟩
    rcases List.mem_or_eq_of_mem_set mem with mem | rfl
    · exact each.2 other mem
    · exact good

/-- What holds of a session as long as it only writes files and opens and closes editors. -/
structure Lasting (P : Session → Prop) : Prop where
  write {s s' : Session} {file content : Text} {mode : WriteMode} :
    P s → s.write file content mode = .ok s' → P s'
  mark {s : Session} (editor : Option Nat) : P s → P { s with editor := editor }

variable [KeyValueStore σ]

theorem Each.checkpointOf (each : m.Each P) (s : Session) : (m.checkpointOf s).Each P := by
  simp only [Machine.checkpointOf]
  split <;> exact each

/-- A host is parallel to itself, whatever its sessions have in common. -/
theorem parallel_each (lasting : Lasting P) :
    (host : Host (Machine σ)).Parallel host fun m m' => m = m' ∧ m.Each P where
  save owner file text := by
    rintro m _ ⟨rfl, each⟩
    refine ⟨rfl, rfl, ?_⟩
    simp only [host]
    split
    · exact each
    · next s here =>
      split
      · exact each
      · next s' written =>
        exact (each.putSession owner (lasting.write (each.sessionOf here) written)).checkpointOf s'
  refused file := by
    rintro m _ ⟨rfl, each⟩
    exact ⟨rfl, each⟩
  closed owner := by
    rintro m _ ⟨rfl, each⟩
    have counted : Machine.Each P { m with exits := m.exits + 1 } := each
    refine ⟨rfl, ?_⟩
    simp only [host]
    split
    · exact counted
    · next s here =>
      exact counted.putSession owner (lasting.mark none (counted.sessionOf here))

end Machine

namespace Shell

variable {σ : Type} [KeyValueStore σ] {P : Session → Prop}

theorem each_actAll (lasting : Machine.Lasting P) {sh : Shell σ} (each : sh.machine.Each P)
    (acts : List (Nat × Editor.Event)) : (sh.actAll acts).machine.Each P := by
  induction acts generalizing sh with
  | nil => exact each
  | cons act acts ih =>
      have acted := Desk.act_parallel (Machine.parallel_each lasting) act.1 act.2 sh.desk
        (show sh.machine = sh.machine ∧ sh.machine.Each P from ⟨rfl, each⟩)
      exact ih acted.2.2

end Shell
end PocketShell
