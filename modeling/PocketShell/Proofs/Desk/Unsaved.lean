import PocketShell.Proofs.Desk.Parallel
import PocketShell.Proofs.Editor.Unsaved

/-!
An editor on a desk keeps its text until the host has written it. What counts as saved is what the
host has accepted last, so the host is run with a note of it beside its own state; the note starts
as the text that the editor was opened on.
-/

namespace PocketShell

variable {W : Type}

/-- The host, with a note of the text that it wrote last. -/
def Host.noting (host : Host W) : Host (Text × W) where
  save owner file text state :=
    let (written, w) := host.save owner file text state.2
    (written, if written then text else state.1, w)
  refused file state := (state.1, host.refused file state.2)
  closed owner state := (state.1, host.closed owner state.2)

namespace Desk

/-- Lets one event after the other happen to one editor. -/
def actAll (host : Host W) (id : Nat) (events : List Editor.Event) (state : Desk × W) : Desk × W :=
  events.foldl (fun state event => act host id event state) state

/-- What is left of a state when the note is forgotten. -/
def withoutNote (state : Desk × Text × W) : Desk × W := (state.1, state.2.2)

theorem askToSave_noting (host : Host W) (window : Window) (event : Editor.Event) (noted : Text)
    (w : W) :
    let asked := askToSave host window event w
    askToSave host.noting window event (noted, w) =
      (asked.1, window.editor.baseline asked.1 event noted, asked.2) := by
  simp only [askToSave]
  cases asks : window.editor.asksToSave event with
  | false => simp [Editor.baseline, asks]
  | true =>
      cases written : (host.save window.owner window.editor.file window.editor.content w).1 with
      | false => simp [Host.noting, Editor.baseline, asks, written]
      | true => simp [Host.noting, Editor.baseline, asks, written]

/-- What follows once an editor has done its step: a closed one leaves the surface and the host is
told, an open one is drawn behind a key. -/
def settle (host : Host W) (window : Window) (after : Editor) (event : Editor.Event)
    (state : Desk × W) : Desk × W :=
  let (desk, w) :=
    if !window.editor.closed && after.closed then
      (state.1.leave window.token, host.closed window.owner state.2)
    else state
  (if drawsAfter window.editor after event then desk.draw after else desk, w)

theorem settle_windows (host : Host W) (window : Window) (after : Editor) (event : Editor.Event)
    (state : Desk × W) : (settle host window after event state).1.windows = state.1.windows := by
  simp only [settle]
  split <;> split <;> rfl

theorem settle_note (host : Host W) (window : Window) (after : Editor) (event : Editor.Event)
    (state : Desk × Text × W) :
    (settle host.noting window after event state).2.1 = state.2.1 := by
  simp only [settle]
  split <;> rfl

theorem act_of_window (host : Host W) {id : Nat} {window : Window} (event : Editor.Event)
    {state : Desk × W} (here : state.1.windows[id]? = some window) :
    let asked := askToSave host window event state.2
    let after := window.editor.step asked.1 event
    act host id event state =
      settle host window after event (state.1.put id { window with editor := after }, asked.2) := by
  simp only [act, here]
  rfl

/-- The note changes nothing for the host. -/
theorem parallel_noting (host : Host W) : host.noting.Parallel host fun noted w => noted.2 = w where
  save owner file text := by
    rintro noted _ rfl
    exact ⟨rfl, rfl⟩
  refused file := by
    rintro noted _ rfl
    rfl
  closed owner := by
    rintro noted _ rfl
    rfl

theorem act_noting (host : Host W) (id : Nat) (event : Editor.Event) (state : Desk × Text × W) :
    withoutNote (act host.noting id event state) = act host id event (withoutNote state) :=
  act_beside (parallel_noting host) id event state

theorem actAll_noting (host : Host W) (id : Nat) (events : List Editor.Event)
    (state : Desk × Text × W) :
    withoutNote (actAll host.noting id events state) =
      actAll host id events (withoutNote state) := by
  induction events generalizing state with
  | nil => rfl
  | cons event events ih =>
      have rest := ih (act host.noting id event state)
      rwa [act_noting] at rest

/-- The editor with the given number belongs to `owner`, and its text is the noted one unless it
is marked. -/
def Noted (id owner : Nat) (e : Editor) (state : Desk × Text × W) : Prop :=
  (∃ token, state.1.windows[id]? = some ⟨e, token, owner⟩) ∧
    (e.modified = false → e.content = state.2.1)

theorem noted_add (desk : Desk) (owner : Nat) (file content : Text) (w : W) :
    Noted desk.windows.length owner (Editor.ofFile file content)
      (desk.add owner (Editor.ofFile file content), content, w) := by
  refine ⟨⟨desk.surfaceD.nextToken, ?_⟩, fun _ => Text.unlines_lines content⟩
  simp [add, draw]

/-- What one event does to the editor that it happens to, and to the note. -/
theorem act_noted (host : Host W) {id owner : Nat} (event : Editor.Event) {e : Editor}
    {state : Desk × Text × W} (h : Noted id owner e state) :
    let next := act host.noting id event state
    let accepted := (host.save owner e.file e.content state.2.2).1
    ∃ after, Noted id owner after next ∧ e.Tracks after event next.2.1 ∧
      next.2.1 = e.baseline accepted event state.2.1 := by
  obtain ⟨⟨token, here⟩, unmarked⟩ := h
  intro next accepted
  let window : Window := ⟨e, token, owner⟩
  let written := (askToSave host window event state.2.2).1
  let after := e.step written event
  have acted := act_of_window host.noting event here
  rw [askToSave_noting host window event state.2.1 state.2.2] at acted
  have tracks := Editor.step_tracks written event unmarked
  have note : next.2.1 = e.baseline written event state.2.1 := by
    simp only [next, acted]
    exact settle_note host window after event _
  -- the host is not asked about every event, but the baseline looks at its answer only if it is
  have asked : e.baseline written event state.2.1 = e.baseline accepted event state.2.1 := by
    cases asks : e.asksToSave event with
    | false => simp [Editor.baseline, asks]
    | true => simp [written, accepted, askToSave, window, asks]
  refine ⟨after, ⟨⟨token, ?_⟩, note ▸ tracks.unmarked⟩, note ▸ tracks, note.trans asked⟩
  have id_lt : id < state.1.windows.length := (List.getElem?_eq_some_iff.mp here).1
  simp only [next, acted, settle_windows]
  simp [put, id_lt, after, window, written]

theorem actAll_noted (host : Host W) {id owner : Nat} (events : List Editor.Event) {e : Editor}
    {state : Desk × Text × W} (h : Noted id owner e state) :
    ∃ after, Noted id owner after (actAll host.noting id events state) := by
  induction events generalizing e state with
  | nil => exact ⟨e, h⟩
  | cons event events ih =>
      obtain ⟨after, noted, _⟩ := act_noted host event h
      exact ih noted

/-- Whatever has happened to an editor since it was opened on a file: unless it is marked, its text
is the one that the host has accepted last, or the opening one before that; and an event that
closes it leaves that text in it, unless it closes by force. -/
theorem text_is_saved_or_forced (host : Host W) (w : W) (desk : Desk) (owner : Nat)
    (file content : Text) (events : List Editor.Event) (event : Editor.Event) :
    let id := desk.windows.length
    let opened := desk.add owner (Editor.ofFile file content)
    let state := actAll host.noting id events (opened, content, w)
    let next := act host.noting id event state
    ∃ e after : Editor,
      state.1.editor? id = some e ∧ next.1.editor? id = some after ∧
      withoutNote state = actAll host id events (opened, w) ∧
      (e.modified = false → e.content = state.2.1) ∧
      next.2.1 = (if e.asksToSave event && (host.save owner e.file e.content state.2.2).1
        then e.content else state.2.1) ∧
      (e.closed = false → after.closed = true → after.content = next.2.1 ∨ e.forces event) := by
  intro id opened state next
  obtain ⟨e, noted⟩ := actAll_noted host events (noted_add desk owner file content w)
  obtain ⟨after, noted', tracks, note⟩ := act_noted host event noted
  obtain ⟨⟨token, here⟩, unmarked⟩ := noted
  obtain ⟨⟨token', here'⟩, _⟩ := noted'
  refine ⟨e, after, ?_, ?_, actAll_noting host id events _, unmarked, note, tracks.leaving⟩
  · simp [editor?, state, id, opened, here]
  · simp [editor?, next, state, id, opened, here']

end Desk
end PocketShell
