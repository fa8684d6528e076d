import PocketShell.Proofs.Desk.Seated

/-!
A closed editor takes no keys and has told its host once. The host is run with a list of the editors
that it was told of; each of them is opened for its own number, so the list tells them apart. A key
through the surface is delivered to the subscribers one after the other. What happens in the middle
of it is therefore a run like any other, in which a key may also reach an editor that was subscribed
when the key was sent and has been closed since.
-/

namespace PocketShell

variable {W : Type}

/-- The host, with a list of those for whom it was told of a closed editor. -/
def Host.tallying (host : Host W) : Host (List Nat × W) where
  save owner file text state :=
    let (written, w) := host.save owner file text state.2
    (written, state.1, w)
  refused file state := (state.1, host.refused file state.2)
  closed owner state := (owner :: state.1, host.closed owner state.2)

namespace Desk

/-- What may happen at a desk: an editor is opened, something happens to one editor, or a key is
sent through the surface. -/
inductive Incident
  | opened (file content : Text)
  | act (id : Nat) (event : Editor.Event)
  | send (k : Key)
  deriving DecidableEq, Repr

namespace Incident

/-- An editor is opened for its own number. -/
def happen (host : Host W) (state : Desk × W) : Incident → Desk × W
  | .opened file content =>
      (state.1.add state.1.windows.length (Editor.ofFile file content), state.2)
  | .act id event => Desk.act host id event state
  | .send k => Desk.send host k state

/-- A key that is delivered to the editor. -/
def isKeyFor (id : Nat) : Incident → Bool
  | .act other (.key _) => other == id
  | _ => false

/-- Anything else that is asked of the editor. -/
def isCallOf (id : Nat) : Incident → Bool
  | .act other (.execute _) => other == id
  | .act other .save => other == id
  | .act other .close => other == id
  | _ => false

end Incident

def run (host : Host W) (incidents : List Incident) (state : Desk × W) : Desk × W :=
  incidents.foldl (Incident.happen host) state

def withoutTally (state : Desk × List Nat × W) : Desk × W := (state.1, state.2.2)

/-- Whether there is an editor with the number, and it is closed. -/
def isClosed (d : Desk) (id : Nat) : Bool := (d.editor? id).any Editor.closed

theorem parallel_tallying (host : Host W) :
    host.tallying.Parallel host fun tallied w => tallied.2 = w where
  save owner file text := by
    rintro tallied _ rfl
    exact ⟨rfl, rfl⟩
  refused file := by
    rintro tallied _ rfl
    rfl
  closed owner := by
    rintro tallied _ rfl
    rfl

theorem act_tallying (host : Host W) (id : Nat) (event : Editor.Event)
    (state : Desk × List Nat × W) :
    withoutTally (act host.tallying id event state) = act host id event (withoutTally state) :=
  act_beside (parallel_tallying host) id event state

theorem run_cons (host : Host W) (incident : Incident) (incidents : List Incident)
    (state : Desk × W) :
    run host (incident :: incidents) state = run host incidents (incident.happen host state) := rfl

/-- A key through the surface is a run of keys for those who are subscribed when it is sent. -/
theorem send_eq_run (host : Host W) (k : Key) (state : Desk × W) :
    send host k state =
      run host (state.1.subscribers.map fun id => .act id (.key k)) state := by
  rw [send, Surface.dispatch, run, subscribers, List.map_map, List.foldl_map]
  rfl

theorem happen_tallying (host : Host W) (state : Desk × List Nat × W) (incident : Incident) :
    withoutTally (incident.happen host.tallying state) =
      incident.happen host (withoutTally state) := by
  cases incident with
  | opened file content => rfl
  | act id event => exact act_tallying host id event state
  | send k =>
      refine (List.foldl_hom withoutTally fun state subscription => ?_).symm
      exact (act_tallying host subscription.2 (.key k) state).symm

theorem run_tallying (host : Host W) (incidents : List Incident) (state : Desk × List Nat × W) :
    withoutTally (run host.tallying incidents state) = run host incidents (withoutTally state) :=
  (List.foldl_hom withoutTally fun state incident =>
    (happen_tallying host state incident).symm).symm

variable {host : Host W} {state : Desk × W} {id : Nat}

theorem send_of_keys {P : Desk × W → Prop}
    (key : ∀ id k state, P state → P (act host id (.key k) state)) (k : Key) (h : P state) :
    P (send host k state) :=
  List.foldlRecOn _ _ h fun state h subscription _ => key subscription.2 k state h

section Closed

theorem isClosed_iff {d : Desk} :
    d.isClosed id = true ↔ ∃ e, d.editor? id = some e ∧ e.closed = true := by
  simp [isClosed, Option.any_eq_true]

theorem isClosed_of_window {d : Desk} {window : Window} (here : d.windows[id]? = some window) :
    d.isClosed id = window.editor.closed := by
  simp [isClosed, editor?, here]

theorem add_editor? (d : Desk) (owner : Nat) (e : Editor) (id : Nat) :
    (d.add owner e).editor? id = if id = d.windows.length then some e else d.editor? id := by
  simp only [editor?, add_windows]
  grind

theorem act_editor?_of_ne (event : Editor.Event) {other : Nat} (ne : other ≠ id) :
    (act host id event state).1.editor? other = state.1.editor? other := by
  cases here : state.1.windows[id]? with
  | none => rw [act_of_none host event state here]
  | some window =>
      obtain ⟨_, outcome⟩ := exists_outcome host event state here
      rw [editor?, outcome.elsewhere ne, editor?]

theorem isClosed_act_of_ne (event : Editor.Event) {other : Nat} (ne : other ≠ id) :
    (act host id event state).1.isClosed other = state.1.isClosed other := by
  rw [isClosed, act_editor?_of_ne event ne, isClosed]

/-- A key for a closed editor changes nothing at all. -/
theorem act_key_of_closed (k : Key) (closed : state.1.isClosed id = true) :
    act host id (.key k) state = state := by
  cases here : state.1.windows[id]? with
  | none => exact act_of_none host (.key k) state here
  | some window =>
      have shut : window.editor.closed = true := (isClosed_of_window here).symm.trans closed
      have asked : askToSave host window (.key k) state.2 = (true, state.2) := by
        simp [askToSave, Editor.asksToSave, Editor.savesOn, shut]
      have same : window.editor.step true (.key k) = window.editor :=
        Editor.press_of_closed shut true k
      have put : state.1.put id window = state.1 := by
        obtain ⟨id_lt, rfl⟩ := List.getElem?_eq_some_iff.mp here
        simp [put]
      rw [act_of_window host (.key k) here]
      simp only [asked, same, put, settle, drawsAfter, shut]
      rfl

theorem isClosed_act (event : Editor.Event) {other : Nat} (closed : state.1.isClosed id = true) :
    (act host other event state).1.isClosed id = true := by
  by_cases same : id = other
  · subst same
    cases here : state.1.windows[id]? with
    | none => simp [isClosed, editor?, here] at closed
    | some window =>
        obtain ⟨after, outcome⟩ := exists_outcome host event state here
        have shut : window.editor.closed = true := (isClosed_of_window here).symm.trans closed
        exact (isClosed_of_window (outcome.there here)).trans (outcome.closed shut)
  · rwa [isClosed_act_of_ne event same]

theorem editor?_happen {e : Editor} (here : state.1.editor? id = some e) (closed : e.closed = true)
    (incident : Incident) (no_call : incident.isCallOf id = false) :
    (incident.happen host state).1.editor? id = some e := by
  have key (other : Nat) (k : Key) (state : Desk × W) (here : state.1.editor? id = some e) :
      (act host other (.key k) state).1.editor? id = some e := by
    by_cases same : id = other
    · subst same
      rwa [act_key_of_closed k (by simp [isClosed, here, closed])]
    · rwa [act_editor?_of_ne (.key k) same]
  cases incident with
  | opened file content =>
      have before : id < state.1.windows.length := by
        obtain ⟨_, there, _⟩ := Option.map_eq_some_iff.mp here
        exact (List.getElem?_eq_some_iff.mp there).1
      rw [Incident.happen, add_editor?, if_neg (Nat.ne_of_lt before), here]
  | act other event =>
      cases event with
      | key k => exact key other k state here
      | execute _ | save | close =>
          have ne : id ≠ other := by
            rintro rfl
            simp [Incident.isCallOf] at no_call
          rwa [Incident.happen, act_editor?_of_ne _ ne]
  | send k => exact send_of_keys (P := fun state => state.1.editor? id = some e) key k here

theorem isClosed_happen (closed : state.1.isClosed id = true) (incident : Incident) :
    (incident.happen host state).1.isClosed id = true := by
  cases incident with
  | act other event => exact isClosed_act event closed
  | opened _ _ | send _ =>
      obtain ⟨e, here, shut⟩ := isClosed_iff.mp closed
      exact isClosed_iff.mpr ⟨e, editor?_happen here shut _ rfl, shut⟩

theorem happen_key_of_closed (closed : state.1.isClosed id = true) {incident : Incident}
    (key : incident.isKeyFor id = true) : incident.happen host state = state := by
  cases incident with
  | opened _ _ | send _ => cases key
  | act other event =>
      cases event with
      | execute _ | save | close => cases key
      | key k =>
          have same : other = id := by simpa [Incident.isKeyFor] using key
          rw [same]
          exact act_key_of_closed k closed

/-- Keys for a closed editor may be left out of whatever happens. -/
theorem run_without_keys (incidents : List Incident) (closed : state.1.isClosed id = true) :
    run host (incidents.filter fun i => !i.isKeyFor id) state = run host incidents state := by
  induction incidents generalizing state with
  | nil => rfl
  | cons incident incidents ih =>
      rw [run_cons]
      cases key : incident.isKeyFor id with
      | true =>
          rw [List.filter_cons_of_neg (by simp [key]), happen_key_of_closed closed key, ih closed]
      | false =>
          rw [List.filter_cons_of_pos (by simp [key]), run_cons,
            ih (isClosed_happen closed incident)]

theorem editor?_run {e : Editor} (here : state.1.editor? id = some e) (closed : e.closed = true)
    {incidents : List Incident} (no_call : ∀ i ∈ incidents, i.isCallOf id = false) :
    (run host incidents state).1.editor? id = some e :=
  List.foldlRecOn (motive := fun state : Desk × W => state.1.editor? id = some e) _ _ here
    fun _ here incident mem => editor?_happen here closed incident (no_call incident mem)

end Closed

/-- Every editor is opened for its own number, and the host was told of the closed ones once each.
-/
structure Tallied (state : Desk × List Nat × W) : Prop where
  seated : state.1.Seated
  owner {id : Nat} {window : Window} : state.1.windows[id]? = some window → window.owner = id
  count (id : Nat) : state.2.1.count id = if state.1.isClosed id then 1 else 0

section Tally

variable {host : Host W} {state : Desk × List Nat × W} {id : Nat}

theorem tallied_empty (frames : List Text) (next : Nat) (w : W) :
    Tallied ({ surface := some { frames := frames, nextToken := next } }, [], w) where
  seated := seated_empty frames next
  owner here := by simp at here
  count id := by simp [isClosed, editor?]

theorem isClosed_add (d : Desk) (owner : Nat) {e : Editor} (opened : e.closed = false) (id : Nat) :
    (d.add owner e).isClosed id = d.isClosed id := by
  rw [isClosed, add_editor?]
  by_cases last : id = d.windows.length
  · simp [isClosed, editor?, last, opened]
  · rw [if_neg last, isClosed]

theorem tallied_opened (h : Tallied state) (file content : Text) :
    Tallied (Incident.happen host.tallying state (.opened file content)) where
  seated := seated_add h.seated _ rfl
  owner {id window} here := by
    have old := @h.owner id window
    simp only [Incident.happen, add_windows] at here
    grind
  count id := by
    rw [Incident.happen, isClosed_add _ _ rfl]
    exact h.count id

theorem askToSave_tally (host : Host W) (window : Window) (event : Editor.Event)
    (state : List Nat × W) : (askToSave host.tallying window event state).2.1 = state.1 := by
  cases asks : window.editor.asksToSave event with
  | false => simp [askToSave, asks]
  | true =>
      let saved := host.save window.owner window.editor.file window.editor.content state.2
      cases written : saved.1 <;> simp [askToSave, Host.tallying, asks, saved, written]

theorem tally_act {window : Window} {event : Editor.Event} {after : Editor}
    (outcome : Outcome host.tallying id window event state after) :
    (act host.tallying id event state).2.1 =
      if window.Closes after then window.owner :: state.2.1 else state.2.1 := by
  rw [outcome.world, ← askToSave_tally host window event state.2]
  split <;> rfl

theorem tallied_act (h : Tallied state) (id : Nat) (event : Editor.Event) :
    Tallied (act host.tallying id event state) := by
  cases here : state.1.windows[id]? with
  | none => rwa [act_of_none host.tallying event state here]
  | some window =>
      obtain ⟨after, outcome⟩ := exists_outcome host.tallying event state here
      have owner : window.owner = id := h.owner here
      refine ⟨seated_act host.tallying id event state h.seated, fun {other last} there => ?_,
        fun other => ?_⟩
      · by_cases same : other = id
        · subst same
          cases Option.some.inj ((outcome.there here).symm.trans there)
          exact owner
        · rw [outcome.elsewhere same] at there
          exact h.owner there
      · have counted := h.count other
        rw [tally_act outcome, owner]
        by_cases same : other = id
        · subst same
          rw [isClosed_of_window here] at counted
          rw [isClosed_of_window (outcome.there here)]
          by_cases closes : window.Closes after
          · -- it was open, so it is told of for the first time
            rw [if_pos closes, List.count_cons_self, counted, closes.1, closes.2]
            rfl
          · rw [if_neg closes, outcome.closed_eq closes]
            exact counted
        · rw [isClosed_act_of_ne event same, ← counted]
          split
          · rw [List.count_cons_of_ne (Ne.symm same)]
          · rfl

theorem tallied_run (h : Tallied state) (incidents : List Incident) :
    Tallied (run host.tallying incidents state) :=
  List.foldlRecOn _ _ h fun state h incident _ => by
    cases incident with
    | opened file content => exact tallied_opened h file content
    | act id event => exact tallied_act h id event
    | send k => exact send_of_keys (P := Tallied) (fun id k _ h => tallied_act h id (.key k)) k h

theorem Tallied.count_subscribers (h : Tallied state) {e : Editor}
    (here : state.1.editor? id = some e) :
    state.1.subscribers.count id = if e.closed then 0 else 1 := by
  have nodup : state.1.subscribers.Nodup :=
    List.pairwise_map.mpr (h.seated.order.imp Nat.ne_of_lt)
  have among : id ∈ state.1.subscribers ↔ e.closed = false := by
    simp [h.seated.mem_subscribers, here]
  rw [nodup.count]
  cases shut : e.closed <;> simp [among, shut]

end Tally

/-- At a desk with a surface that nobody was subscribed to, whatever happens: a host has been told
of an editor once if it is closed and never if it is open, and an editor is subscribed once as long
as it is open. Once it is closed, keys for it may be left out of all that follows, and it stays as
it is until something else is asked of it. A key through the surface is one key for each subscriber,
so what follows can be the rest of a key that was sent before the editor was closed. -/
theorem closed_editor_is_inert (host : Host W) (frames : List Text) (next : Nat) (w : W)
    (incidents later : List Incident) :
    let empty : Desk := { surface := some { frames := frames, nextToken := next } }
    let state := run host.tallying incidents (empty, [], w)
    withoutTally state = run host incidents (empty, w) ∧
    (∀ k, send host.tallying k state =
      run host.tallying (state.1.subscribers.map fun id => .act id (.key k)) state) ∧
    ∀ id e, state.1.editor? id = some e →
      state.2.1.count id = (if e.closed then 1 else 0) ∧
      state.1.subscribers.count id = (if e.closed then 0 else 1) ∧
      (e.closed = true →
        run host.tallying (later.filter fun i => !i.isKeyFor id) state =
          run host.tallying later state ∧
        ((∀ i ∈ later, i.isCallOf id = false) →
          (run host.tallying later state).1.editor? id = some e)) := by
  intro empty state
  have tallied : Tallied state := tallied_run (tallied_empty frames next w) incidents
  refine ⟨run_tallying host incidents _, fun k => send_eq_run host.tallying k state,
    fun id e here => ⟨?_, tallied.count_subscribers here, fun closed => ⟨?_, ?_⟩⟩⟩
  · simp [tallied.count id, isClosed, here]
  · exact run_without_keys later (isClosed_iff.mpr ⟨e, here, closed⟩)
  · exact editor?_run here closed

/-- Of two editors that a key is sent to, the second is closed before the key reaches it. -/
theorem closed_before_its_turn :
    let host : Host Unit := ⟨fun _ _ _ w => (false, w), fun _ w => w, fun _ w => w⟩
    let k : Key := { name := ['x'] }
    let opened : List Incident := [.opened [] ['a'], .opened [] ['b']]
    let sent := run host.tallying opened ({ surface := some {} }, [], ())
    let amid := run host.tallying (opened ++ [.act 0 (.key k), .act 1 .close])
      ({ surface := some {} }, [], ())
    sent.1.subscribers = [0, 1] ∧ amid.1.subscribers = [0] ∧ amid.2.1.count 1 = 1 ∧
      run host.tallying [.act 1 (.key k)] amid = amid := by
  intro host k opened sent amid
  have closed : amid.1.isClosed 1 = true := by decide
  obtain ⟨e, here, shut⟩ := isClosed_iff.mp closed
  obtain ⟨told, _, later⟩ := (closed_editor_is_inert host [] 0 ()
    (opened ++ [.act 0 (.key k), .act 1 .close]) [.act 1 (.key k)]).2.2 1 e here
  rw [shut] at told
  exact ⟨by decide, by decide, told, (later shut).1.symm⟩

end Desk
end PocketShell
