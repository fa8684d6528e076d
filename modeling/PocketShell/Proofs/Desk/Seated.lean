import PocketShell.Proofs.Desk.Unsaved

/-!
Who is subscribed to the surface of a desk. An editor subscribes when it is opened and leaves when
it is closed, which happens to it only once; so the subscribers are the open editors, each of them
once and in the order in which they were opened. Nothing keeps a second editor from being opened
while a first one is, and then both are subscribed. An editor is for one file and for one owner for
good.
-/

namespace PocketShell

namespace Editor

theorem close_of_closed {e : Editor} (closed : e.closed = true) : e.close = e := by
  simp [close, closed]

theorem perform_of_closed {e : Editor} (closed : e.closed = true) (written : Bool)
    (d : Directive) : (e.perform written d).closed = true := by
  cases d with
  | write => cases written <;> exact closed
  | quit =>
      simp only [perform]
      split
      · exact closed
      · rwa [close_of_closed closed]
  | forceQuit =>
      simp only [perform]
      rwa [close_of_closed closed]
  | writeQuit =>
      cases written with
      | true => simp [perform, close, save, closed]
      | false => exact closed
  | unknown text => exact closed

/-- A closed editor is never open again. -/
theorem step_of_closed {e : Editor} (closed : e.closed = true) (written : Bool) (event : Event) :
    (e.step written event).closed = true := by
  cases event with
  | key k =>
      simp only [step]
      rwa [press_of_closed closed]
  | execute text =>
      simp only [step, execute]
      exact perform_of_closed (e := e.withMode .normal) closed written _
  | save => cases written <;> exact closed
  | close =>
      simp only [step]
      rwa [close_of_closed closed]

theorem act_file (e : Editor) (a : Action) : (e.act a).file = e.file := by
  cases a with
  | deleteChar | truncate =>
      simp only [act]
      split <;> rfl
  | paste =>
      simp only [act, pasteRows]
      split <;> rfl
  | _ => rfl

theorem deleteMotion_file (e : Editor) (m : Motion) : (e.deleteMotion m).file = e.file := by
  cases m with
  | rows m => rfl
  | span m =>
      simp only [deleteMotion, deleteSpan]
      split <;> rfl

theorem pressNormal_file (e : Editor) (k : Key) : (e.pressNormal k).file = e.file := by
  simp only [pressNormal]
  split
  · cases k.motion? with
    | none => rfl
    | some m => exact deleteMotion_file _ m
  · cases k.action? with
    | none => rfl
    | some a => exact act_file e a

theorem pressInsert_file (e : Editor) (k : Key) : (e.pressInsert k).file = e.file := by
  simp only [pressInsert, backspace]
  split
  · rfl
  · split
    · rfl
    · split
      · split
        · rfl
        · split <;> rfl
      · split <;> rfl

theorem close_file (e : Editor) : e.close.file = e.file := by
  simp only [close]
  split <;> rfl

theorem perform_file (e : Editor) (written : Bool) (d : Directive) :
    (e.perform written d).file = e.file := by
  cases d with
  | write => cases written <;> rfl
  | quit =>
      simp only [perform]
      split
      · rfl
      · exact e.close_file
  | forceQuit => exact e.close_file
  | writeQuit =>
      cases written with
      | true => exact (e.save true).close_file
      | false => rfl
  | unknown text => rfl

theorem pressCommand_file (e : Editor) (written : Bool) (k : Key) :
    (e.pressCommand written k).file = e.file := by
  simp only [pressCommand]
  split
  · rfl
  · split
    · exact perform_file _ written _
    · split
      · rfl
      · split <;> rfl

/-- An editor never changes its file. -/
theorem step_file (e : Editor) (written : Bool) (event : Event) :
    (e.step written event).file = e.file := by
  cases event with
  | key k =>
      simp only [step, press]
      split
      · rfl
      · split
        · exact pressNormal_file _ k
        · exact pressInsert_file _ k
        · exact pressCommand_file _ written k
  | execute text => exact perform_file _ written _
  | save => cases written <;> rfl
  | close => exact e.close_file

end Editor

/-- The editor of the window closes in a step. -/
def Window.Closes (window : Window) (after : Editor) : Prop :=
  window.editor.closed = false ∧ after.closed = true

instance (window : Window) (after : Editor) : Decidable (window.Closes after) :=
  inferInstanceAs (Decidable (_ ∧ _))

namespace Desk

variable {W : Type}

/-- The subscribers are the open editors, in the order of their opening. -/
structure Seated (d : Desk) : Prop where
  surface : d.surface.isSome
  tokens : d.windows.Pairwise (·.token < ·.token)
  fresh : ∀ window ∈ d.windows, window.token < d.surfaceD.nextToken
  subscribed : ∀ token id, (token, id) ∈ d.surfaceD.subscriptions ↔
    ∃ window, d.windows[id]? = some window ∧ window.token = token ∧ window.editor.closed = false
  order : d.surfaceD.subscriptions.Pairwise (·.2 < ·.2)

/-- The numbers of the editors that a key through the surface reaches, in their order. -/
def subscribers (d : Desk) : List Nat := d.surfaceD.subscriptions.map Prod.snd

theorem Seated.mem_subscribers {d : Desk} (h : d.Seated) {id : Nat} :
    id ∈ d.subscribers ↔ ∃ e, d.editor? id = some e ∧ e.closed = false := by
  simp only [subscribers, editor?, List.mem_map, Prod.exists, exists_eq_right, h.subscribed,
    Option.map_eq_some_iff]
  constructor
  · rintro ⟨_, window, here, _, opened⟩
    exact ⟨window.editor, ⟨window, here, rfl⟩, opened⟩
  · rintro ⟨_, ⟨window, here, rfl⟩, opened⟩
    exact ⟨window.token, window, here, rfl, opened⟩

theorem Seated.id_lt {d : Desk} (h : d.Seated) {subscription : Nat × Nat}
    (mem : subscription ∈ d.surfaceD.subscriptions) : subscription.2 < d.windows.length := by
  obtain ⟨window, here, _⟩ := (h.subscribed subscription.1 subscription.2).mp mem
  exact (List.getElem?_eq_some_iff.mp here).1

/-- Windows that share a token are one. -/
theorem Seated.eq_of_token {d : Desk} (h : d.Seated) {i j : Nat} {window other : Window}
    (here : d.windows[i]? = some window) (there : d.windows[j]? = some other)
    (same : window.token = other.token) : i = j := by
  obtain ⟨i_lt, rfl⟩ := List.getElem?_eq_some_iff.mp here
  obtain ⟨j_lt, rfl⟩ := List.getElem?_eq_some_iff.mp there
  have increasing := List.pairwise_iff_getElem.mp h.tokens
  rcases Nat.lt_trichotomy i j with before | same_id | behind
  · have := increasing i j i_lt j_lt before
    omega
  · exact same_id
  · have := increasing j i j_lt i_lt behind
    omega

/-- Without the subscription of one editor, all the others are left. -/
theorem Seated.subscribers_leave {d : Desk} (h : d.Seated) {id : Nat} {window : Window}
    (here : d.windows[id]? = some window) :
    (d.surfaceD.subscriptions.filter (·.1 ≠ window.token)).map Prod.snd =
      d.subscribers.filter (· ≠ id) := by
  rw [subscribers, List.filter_map]
  congr 1
  apply List.filter_congr
  intro subscription mem
  obtain ⟨other, there, token, _⟩ := (h.subscribed subscription.1 subscription.2).mp mem
  have same : subscription.1 = window.token ↔ subscription.2 = id := by
    refine ⟨fun shared => h.eq_of_token there here (token.trans shared), fun is_id => ?_⟩
    rw [is_id] at there
    rw [← token, Option.some.inj (there.symm.trans here)]
  simp [same]

theorem seated_empty (frames : List Text) (next : Nat) :
    Seated { surface := some { frames := frames, nextToken := next } } where
  surface := rfl
  tokens := .nil
  fresh window mem := absurd mem List.not_mem_nil
  subscribed token id := by simp [surfaceD]
  order := .nil

/-- A surface after an editor was opened on it. -/
theorem add_surface {d : Desk} (on : d.surface.isSome) (owner : Nat) (e : Editor) :
    (d.add owner e).surface.isSome ∧
      (d.add owner e).surfaceD.nextToken = d.surfaceD.nextToken + 1 ∧
      (d.add owner e).surfaceD.subscriptions =
        d.surfaceD.subscriptions ++ [(d.surfaceD.nextToken, d.windows.length)] := by
  obtain ⟨surface, on⟩ := Option.isSome_iff_exists.mp on
  simp [add, draw, surfaceD, on, Surface.subscribe, Surface.draw]

theorem add_windows (d : Desk) (owner : Nat) (e : Editor) :
    (d.add owner e).windows = d.windows ++ [⟨e, d.surfaceD.nextToken, owner⟩] := rfl

theorem seated_add {d : Desk} (h : d.Seated) (owner : Nat) {e : Editor}
    (opened : e.closed = false) : (d.add owner e).Seated := by
  obtain ⟨on, next, subscriptions⟩ := add_surface h.surface owner e
  refine ⟨on, ?_, ?_, ?_, ?_⟩
  · rw [add_windows, List.pairwise_append]
    refine ⟨h.tokens, List.pairwise_singleton _ _, fun window mem last is_last => ?_⟩
    rw [List.mem_singleton.mp is_last]
    exact h.fresh window mem
  · intro window mem
    rw [add_windows] at mem
    rw [next]
    rcases List.mem_append.mp mem with old | new
    · exact Nat.lt_succ_of_lt (h.fresh window old)
    · rw [List.mem_singleton.mp new]
      exact Nat.lt_succ_self _
  · intro token id
    rw [subscriptions, add_windows, List.mem_append, h.subscribed]
    simp only [List.mem_singleton, Prod.mk.injEq]
    rcases Nat.lt_trichotomy id d.windows.length with before | rfl | behind
    · simp [List.getElem?_append_left before, Nat.ne_of_lt before]
    · constructor
      · rintro (⟨window, here, _⟩ | ⟨rfl, _⟩)
        · simp at here
        · exact ⟨⟨e, d.surfaceD.nextToken, owner⟩, by simp, rfl, opened⟩
      · rintro ⟨window, here, rfl, _⟩
        simp only [List.getElem?_concat_length, Option.some.injEq] at here
        exact .inr ⟨here ▸ rfl, rfl⟩
    · have none_here : (d.windows ++ [⟨e, d.surfaceD.nextToken, owner⟩])[id]? = none := by
        simpa using Nat.succ_le_of_lt behind
      have none_before : d.windows[id]? = none := by simpa using Nat.le_of_lt behind
      simp [none_here, none_before, Nat.ne_of_gt behind]
  · rw [subscriptions, List.pairwise_append]
    refine ⟨h.order, List.pairwise_singleton _ _, fun subscription mem last is_last => ?_⟩
    rw [List.mem_singleton.mp is_last]
    exact h.id_lt mem

theorem draw_surface (d : Desk) (e : Editor) :
    (d.draw e).surface.isSome = d.surface.isSome ∧
      (d.draw e).surfaceD.nextToken = d.surfaceD.nextToken ∧
      (d.draw e).surfaceD.subscriptions = d.surfaceD.subscriptions := by
  cases on : d.surface <;> simp [draw, surfaceD, on, Surface.draw]

theorem leave_surface (d : Desk) (token : Nat) :
    (d.leave token).surface.isSome = d.surface.isSome ∧
      (d.leave token).surfaceD.nextToken = d.surfaceD.nextToken ∧
      (d.leave token).surfaceD.subscriptions =
        d.surfaceD.subscriptions.filter (·.1 ≠ token) := by
  cases on : d.surface <;> simp [leave, surfaceD, on, Surface.unsubscribe]

theorem settle_surface (host : Host W) (window : Window) (after : Editor) (event : Editor.Event)
    (state : Desk × W) :
    let desk := (settle host window after event state).1
    desk.surface.isSome = state.1.surface.isSome ∧
      desk.surfaceD.nextToken = state.1.surfaceD.nextToken ∧
      desk.surfaceD.subscriptions =
        if window.Closes after then state.1.surfaceD.subscriptions.filter (·.1 ≠ window.token)
        else state.1.surfaceD.subscriptions := by
  have undrawn (left : Desk) :
      let drawn := if drawsAfter window.editor after event then left.draw after else left
      drawn.surface.isSome = left.surface.isSome ∧
        drawn.surfaceD.nextToken = left.surfaceD.nextToken ∧
        drawn.surfaceD.subscriptions = left.surfaceD.subscriptions := by
    dsimp only
    split
    · exact left.draw_surface after
    · exact ⟨rfl, rfl, rfl⟩
  by_cases closes : window.Closes after
  · obtain ⟨on, next, subscriptions⟩ := undrawn (state.1.leave window.token)
    obtain ⟨on', next', subscriptions'⟩ := state.1.leave_surface window.token
    simp only [settle, closes.1, closes.2, Bool.not_false, Bool.and_self, if_true, if_pos closes]
    exact ⟨on.trans on', next.trans next', subscriptions.trans subscriptions'⟩
  · have stays : (!window.editor.closed && after.closed) = false := by
      simpa [Window.Closes, ← Bool.not_eq_true] using closes
    simp only [settle, stays, Bool.false_eq_true, if_false, if_neg closes]
    exact undrawn state.1

theorem settle_world (host : Host W) (window : Window) (after : Editor) (event : Editor.Event)
    (state : Desk × W) :
    (settle host window after event state).2 =
      if window.Closes after then host.closed window.owner state.2 else state.2 := by
  cases before : window.editor.closed <;> cases behind : after.closed <;>
    simp [settle, Window.Closes, before, behind]

/-- What an event makes of a desk and its host: the editor goes on, and if it closes, its
subscription ends and the host is told. -/
structure Outcome (host : Host W) (id : Nat) (window : Window) (event : Editor.Event)
    (state : Desk × W) (after : Editor) : Prop where
  file : after.file = window.editor.file
  closed : window.editor.closed = true → after.closed = true
  windows : (act host id event state).1.windows =
    state.1.windows.set id { window with editor := after }
  surface : (act host id event state).1.surface.isSome = state.1.surface.isSome
  nextToken : (act host id event state).1.surfaceD.nextToken = state.1.surfaceD.nextToken
  subscriptions : (act host id event state).1.surfaceD.subscriptions =
    if window.Closes after then state.1.surfaceD.subscriptions.filter (·.1 ≠ window.token)
    else state.1.surfaceD.subscriptions
  world : (act host id event state).2 =
    if window.Closes after then host.closed window.owner (askToSave host window event state.2).2
    else (askToSave host window event state.2).2

theorem exists_outcome (host : Host W) {id : Nat} {window : Window} (event : Editor.Event)
    (state : Desk × W) (here : state.1.windows[id]? = some window) :
    ∃ after, Outcome host id window event state after := by
  have acted := act_of_window host event here
  obtain ⟨surface, nextToken, subscriptions⟩ := settle_surface host window
    (window.editor.step (askToSave host window event state.2).1 event) event
    (state.1.put id { window with
      editor := window.editor.step (askToSave host window event state.2).1 event },
      (askToSave host window event state.2).2)
  rw [← acted] at surface nextToken subscriptions
  refine ⟨_, Editor.step_file _ _ event, fun closed => Editor.step_of_closed closed _ event, ?_,
    surface, nextToken, subscriptions, ?_⟩
  · rw [acted]
    exact settle_windows _ _ _ _ _
  · rw [acted]
    exact settle_world _ _ _ _ _

theorem editor?_act (host : Host W) {id : Nat} {window : Window} (event : Editor.Event)
    {state : Desk × W} (here : state.1.windows[id]? = some window) :
    (act host id event state).1.editor? id =
      some (window.editor.step (askToSave host window event state.2).1 event) := by
  have id_lt : id < state.1.windows.length := (List.getElem?_eq_some_iff.mp here).1
  rw [act_of_window host event here]
  simp [editor?, settle_windows, put, id_lt]

theorem act_of_none (host : Host W) {id : Nat} (event : Editor.Event) (state : Desk × W)
    (nobody : state.1.windows[id]? = none) : act host id event state = state := by
  simp [act, nobody]

theorem act_length (host : Host W) (id : Nat) (event : Editor.Event) (state : Desk × W) :
    (act host id event state).1.windows.length = state.1.windows.length := by
  cases here : state.1.windows[id]? with
  | none => rw [act_of_none host event state here]
  | some window =>
      obtain ⟨_, outcome⟩ := exists_outcome host event state here
      rw [outcome.windows, List.length_set]

section Outcome

variable {host : Host W} {id : Nat} {window : Window} {event : Editor.Event} {state : Desk × W}
  {after : Editor}

theorem Outcome.there (outcome : Outcome host id window event state after)
    (here : state.1.windows[id]? = some window) :
    (act host id event state).1.windows[id]? = some { window with editor := after } := by
  have id_lt : id < state.1.windows.length := (List.getElem?_eq_some_iff.mp here).1
  simp [outcome.windows, id_lt]

theorem Outcome.elsewhere (outcome : Outcome host id window event state after) {other : Nat}
    (ne : other ≠ id) :
    (act host id event state).1.windows[other]? = state.1.windows[other]? := by
  simp [outcome.windows, ne.symm]

theorem Outcome.tokens (outcome : Outcome host id window event state after)
    (here : state.1.windows[id]? = some window) :
    (act host id event state).1.windows.map Window.token =
      state.1.windows.map Window.token := by
  apply List.ext_getElem?
  intro other
  by_cases same : other = id
  · subst same
    simp [outcome.there here, here]
  · simp [outcome.elsewhere same]

theorem Outcome.closed_eq (outcome : Outcome host id window event state after)
    (stays : ¬window.Closes after) : after.closed = window.editor.closed := by
  cases was : window.editor.closed with
  | true => exact outcome.closed was
  | false => simpa [Window.Closes, was] using stays

/-- Whoever is subscribed afterwards is open in a window, and the other way round. -/
theorem Outcome.subscribed (outcome : Outcome host id window event state after)
    (h : state.1.Seated) (here : state.1.windows[id]? = some window) (token other : Nat) :
    (token, other) ∈ (act host id event state).1.surfaceD.subscriptions ↔
      ∃ last, (act host id event state).1.windows[other]? = some last ∧ last.token = token ∧
        last.editor.closed = false := by
  rw [outcome.subscriptions]
  by_cases closes : window.Closes after
  · rw [if_pos closes, List.mem_filter, h.subscribed]
    by_cases same : other = id
    · subst same
      -- its own subscription has ended with it
      refine ⟨?_, fun ⟨_, found, _, opened⟩ => ?_⟩
      · rintro ⟨⟨_, found, rfl, _⟩, left⟩
        simp [Option.some.inj (here.symm.trans found)] at left
      · rw [← Option.some.inj ((outcome.there here).symm.trans found)] at opened
        exact absurd (closes.2.symm.trans opened) Bool.noConfusion
    · rw [outcome.elsewhere same]
      refine ⟨And.left, fun found => ⟨found, ?_⟩⟩
      obtain ⟨last, there, rfl, _⟩ := found
      simpa using fun shared => same (h.eq_of_token there here shared)
  · rw [if_neg closes, h.subscribed]
    by_cases same : other = id
    · subst same
      simp [outcome.there here, here, outcome.closed_eq closes]
    · rw [outcome.elsewhere same]

end Outcome

theorem seated_act (host : Host W) (id : Nat) (event : Editor.Event) (state : Desk × W)
    (h : state.1.Seated) : (act host id event state).1.Seated := by
  cases here : state.1.windows[id]? with
  | none => rwa [act_of_none host event state here]
  | some window =>
      obtain ⟨after, outcome⟩ := exists_outcome host event state here
      refine ⟨outcome.surface ▸ h.surface, ?_, ?_, outcome.subscribed h here, ?_⟩
      · rw [← List.pairwise_map, outcome.tokens here, List.pairwise_map]
        exact h.tokens
      · intro other among
        rw [outcome.windows] at among
        rw [outcome.nextToken]
        rcases List.mem_or_eq_of_mem_set among with old | rfl
        · exact h.fresh other old
        · exact h.fresh window (List.mem_of_getElem? here)
      · rw [outcome.subscriptions]
        split
        · exact h.order.filter _
        · exact h.order

end Desk
end PocketShell
