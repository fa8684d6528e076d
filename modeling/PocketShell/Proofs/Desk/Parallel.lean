import PocketShell.Desk

/-!
The same desk before two hosts. Editors learn of their host only whether a save has succeeded; so
as long as two hosts give the same answers, their desks stay the same, and whatever relates the
hosts stays true of them.
-/

namespace PocketShell

variable {W W' : Type}

/-- Related worlds answer alike, and stay related whatever is asked or told. -/
structure Host.Parallel (host : Host W) (host' : Host W') (R : W → W' → Prop) : Prop where
  save (owner : Nat) (file text : Text) {w : W} {w' : W'} : R w w' →
    (host.save owner file text w).1 = (host'.save owner file text w').1 ∧
      R (host.save owner file text w).2 (host'.save owner file text w').2
  refused (file : Text) {w : W} {w' : W'} : R w w' → R (host.refused file w) (host'.refused file w')
  closed (owner : Nat) {w : W} {w' : W'} : R w w' →
    R (host.closed owner w) (host'.closed owner w')

namespace Desk

variable {host : Host W} {host' : Host W'} {R : W → W' → Prop} {w : W} {w' : W'}

theorem askToSave_parallel (parallel : host.Parallel host' R) (window : Window)
    (event : Editor.Event) (related : R w w') :
    (askToSave host window event w).1 = (askToSave host' window event w').1 ∧
      R (askToSave host window event w).2 (askToSave host' window event w').2 := by
  simp only [askToSave]
  split
  · obtain ⟨same, saved⟩ :=
      parallel.save window.owner window.editor.file window.editor.content related
    rw [← same]
    refine ⟨rfl, ?_⟩
    split
    · exact saved
    · exact parallel.refused window.editor.file saved
  · exact ⟨rfl, related⟩

theorem act_parallel (parallel : host.Parallel host' R) (id : Nat) (event : Editor.Event)
    (desk : Desk) (related : R w w') :
    (act host id event (desk, w)).1 = (act host' id event (desk, w')).1 ∧
      R (act host id event (desk, w)).2 (act host' id event (desk, w')).2 := by
  simp only [act]
  cases desk.windows[id]? with
  | none => exact ⟨rfl, related⟩
  | some window =>
      obtain ⟨same, asked⟩ := askToSave_parallel parallel window event related
      simp only [← same]
      generalize window.editor.step _ event = after
      cases !window.editor.closed && after.closed with
      | true => exact ⟨rfl, parallel.closed window.owner asked⟩
      | false => exact ⟨rfl, asked⟩

/-- What a host keeps beside its state is not seen at the desk. -/
theorem act_beside {S : Type} {host : Host W} {host' : Host (S × W)}
    (parallel : host'.Parallel host fun beside w => beside.2 = w) (id : Nat)
    (event : Editor.Event) (state : Desk × S × W) :
    ((act host' id event state).1, (act host' id event state).2.2) =
      act host id event (state.1, state.2.2) := by
  obtain ⟨desk, beside⟩ := state
  obtain ⟨same, world⟩ := act_parallel parallel id event desk (rfl : beside.2 = beside.2)
  exact Prod.ext same world

end Desk
end PocketShell
