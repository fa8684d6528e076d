import PocketShell.Proofs.Shell.Event

/-!
Who has the keyboard. A key through the surface reaches the open editors, and the session knows the
one of them that it has opened last. It knows it until some editor closes, whichever that is: so the
session and the surface agree as long as editors are opened one at a time.
-/

namespace PocketShell.Shell

variable {σ : Type}

/-- The editors of the desk belong to the present session, and the one that it knows is open and the
last that was opened. -/
structure Focused (sh : Shell σ) : Prop where
  seated : sh.desk.Seated
  owned : ∀ window ∈ sh.desk.windows, window.owner = sh.machine.number
  known : ∀ id ∈ sh.session.editor, id ∈ sh.desk.subscribers ∧ id + 1 = sh.desk.windows.length

/-- The session knows every editor that is subscribed. -/
def KnowsAll (sh : Shell σ) : Prop := sh.desk.subscribers = sh.session.editor.toList

theorem SameDesk.focused {sh after : Shell σ} (same : SameDesk sh after) (h : sh.Focused) :
    after.Focused := by
  refine ⟨?_, ?_, ?_⟩
  · rw [same.desk]
    exact h.seated
  · rw [same.desk, same.number]
    exact h.owned
  · rw [same.desk, same.mark]
    exact h.known

theorem SameDesk.knowsAll {sh after : Shell σ} (same : SameDesk sh after) (h : sh.KnowsAll) :
    after.KnowsAll := by
  rw [KnowsAll, same.desk, same.mark]
  exact h

theorem openEditor_subscribers {sh : Shell σ} (h : sh.Focused) (file : Text) :
    (sh.openEditor file).2.desk.subscribers = sh.desk.subscribers ++ [sh.desk.windows.length] := by
  obtain ⟨_, _, subscriptions⟩ := Desk.add_surface h.seated.surface sh.machine.number
    (.ofFile file _)
  simp only [Desk.subscribers, openEditor]
  rw [subscriptions, List.map_append]
  rfl

theorem openEditor_length (sh : Shell σ) (file : Text) :
    (sh.openEditor file).2.desk.windows.length = sh.desk.windows.length + 1 := by
  simp [openEditor, Desk.add_windows]

theorem openEditor_focused {sh : Shell σ} (h : sh.Focused) (file : Text) :
    (sh.openEditor file).2.Focused := by
  refine ⟨Desk.seated_add h.seated _ rfl, fun window mem => ?_, fun id mark => ?_⟩
  · rcases List.mem_append.mp mem with old | new
    · exact h.owned window old
    · rw [List.mem_singleton.mp new]
      rfl
  · cases Option.some.inj mark
    rw [openEditor_subscribers h, openEditor_length]
    exact ⟨List.mem_append_right _ List.mem_cons_self, rfl⟩

/-- An editor that is opened while none is subscribed gets the keyboard for itself. -/
theorem openEditor_knowsAll {sh : Shell σ} (h : sh.Focused) (free : sh.desk.subscribers = [])
    (file : Text) : (sh.openEditor file).2.KnowsAll := by
  rw [KnowsAll, openEditor_subscribers h, free]
  rfl

variable [KeyValueStore σ]

/-- With an editor that closes, its subscription goes and so does what the session knows. -/
theorem act_subscribers {sh : Shell σ} (h : sh.Focused) {id : Nat} {window : Window}
    (here : sh.desk.windows[id]? = some window) {event : Editor.Event} {last : Editor}
    (outcome : Desk.Outcome Machine.host id window event (sh.desk, sh.machine) last) :
    let after := sh.onDesk (Desk.act Machine.host id event)
    (after.desk.subscribers =
      if window.Closes last then sh.desk.subscribers.filter (· ≠ id) else sh.desk.subscribers) ∧
      after.session.editor = if window.Closes last then none else sh.session.editor := by
  intro after
  have asked := Machine.aside_askToSave window event sh.machine
  obtain ⟨_, _, _, mark⟩ := Machine.host_closed window.owner
    (Desk.askToSave Machine.host window event sh.machine).2
  have own : window.owner = (Desk.askToSave Machine.host window event sh.machine).2.number :=
    (h.owned window (List.mem_of_getElem? here)).trans asked.number.symm
  rw [if_pos own] at mark
  have subscribers := congrArg (List.map Prod.snd) outcome.subscriptions
  have known := congrArg (fun m => m.session.editor) outcome.world
  by_cases closes : window.Closes last
  · simp only [if_pos closes] at subscribers known ⊢
    exact ⟨subscribers.trans (h.seated.subscribers_leave here), known.trans mark⟩
  · simp only [if_neg closes] at subscribers known ⊢
    exact ⟨subscribers, known.trans asked.mark⟩

theorem act_focused {sh : Shell σ} (h : sh.Focused) (id : Nat) (event : Editor.Event) :
    let after := sh.onDesk (Desk.act Machine.host id event)
    after.Focused ∧ (sh.KnowsAll → after.KnowsAll) := by
  intro after
  cases here : sh.desk.windows[id]? with
  | none =>
      have same : after = sh := sh.act_of_nobody event here
      rw [same]
      exact ⟨h, fun all => all⟩
  | some window =>
      obtain ⟨last, outcome⟩ :=
        Desk.exists_outcome Machine.host event (sh.desk, sh.machine) here
      obtain ⟨subscribers, known⟩ := act_subscribers h here outcome
      have seated : after.desk.Seated :=
        Desk.seated_act Machine.host id event (sh.desk, sh.machine) h.seated
      have length : after.desk.windows.length = sh.desk.windows.length :=
        Desk.act_length Machine.host id event (sh.desk, sh.machine)
      have owned : ∀ other ∈ after.desk.windows, other.owner = after.machine.number := by
        intro other among
        rw [(sh.act_account id event).2]
        rcases List.mem_or_eq_of_mem_set (outcome.windows ▸ among) with old | rfl
        · exact h.owned other old
        · exact h.owned window (List.mem_of_getElem? here)
      by_cases closes : window.Closes last
      · rw [if_pos closes] at subscribers known
        refine ⟨⟨seated, owned, by simp [after, known]⟩, fun all => ?_⟩
        -- the one that closes has been open, so it is the one that was known
        have was_open : id ∈ sh.desk.subscribers :=
          h.seated.mem_subscribers.mpr ⟨window.editor, by simp [Desk.editor?, here], closes.1⟩
        rw [all, Option.mem_toList] at was_open
        rw [KnowsAll, subscribers, known, all, was_open]
        simp
      · rw [if_neg closes] at subscribers known
        refine ⟨⟨seated, owned, ?_⟩, fun all => ?_⟩
        · rw [known, subscribers, length]
          exact h.known
        · rw [KnowsAll, known, subscribers]
          exact all

theorem actAll_focused {sh : Shell σ} (h : sh.Focused) (acts : List (Nat × Editor.Event)) :
    (sh.actAll acts).Focused ∧ (sh.KnowsAll → (sh.actAll acts).KnowsAll) := by
  induction acts generalizing sh with
  | nil => exact ⟨h, fun all => all⟩
  | cons act acts ih =>
      obtain ⟨focused, knows⟩ := act_focused h act.1 act.2
      obtain ⟨ends, knows_then⟩ := ih focused
      exact ⟨ends, fun all => knows_then (knows all)⟩

theorem handle_focused {sh : Shell σ} (h : sh.Focused) (event : Event) :
    (sh.handle event).Focused ∧
      (sh.desk.subscribers = [] ∨
        (sh.handle event).desk.windows.length = sh.desk.windows.length →
        sh.KnowsAll → (sh.handle event).KnowsAll) := by
  have course := sh.handle_course event
  generalize sh.handle event = after at course ⊢
  cases course with
  | same same => exact ⟨same.focused h, fun _ => same.knowsAll⟩
  | opened before file first rest =>
      have focused := first.sameDesk.focused h
      refine ⟨rest.sameDesk.focused (openEditor_focused focused file), fun apart _ =>
        rest.sameDesk.knowsAll ?_⟩
      rcases apart with free | same
      · exact openEditor_knowsAll focused (first.sameDesk.desk ▸ free) file
      · -- an editor more would have been opened
        rw [rest.sameDesk.desk, openEditor_length, first.sameDesk.desk] at same
        exact absurd same (Nat.succ_ne_self _)
  | acted acts =>
      obtain ⟨focused, knows⟩ := actAll_focused h acts
      exact ⟨focused, fun _ => knows⟩

/-- No editor is opened while another one is subscribed. -/
def OneAtATime (sh : Shell σ) : List Event → Prop
  | [] => True
  | event :: events =>
      (sh.desk.subscribers = [] ∨
        (sh.handle event).desk.windows.length = sh.desk.windows.length) ∧
        (sh.handle event).OneAtATime events

instance decidableOneAtATime :
    (sh : Shell σ) → (events : List Event) → Decidable (sh.OneAtATime events)
  | _, [] => .isTrue trivial
  | sh, event :: events =>
      have := decidableOneAtATime (sh.handle event) events
      inferInstanceAs (Decidable (_ ∧ _))

theorem handleAll_focused {sh : Shell σ} (h : sh.Focused) (events : List Event) :
    (sh.handleAll events).Focused ∧
      (sh.OneAtATime events → sh.KnowsAll → (sh.handleAll events).KnowsAll) := by
  induction events generalizing sh with
  | nil => exact ⟨h, fun _ all => all⟩
  | cons event events ih =>
      obtain ⟨focused, knows⟩ := handle_focused h event
      obtain ⟨ends, knows_then⟩ := ih focused
      exact ⟨ends, fun apart all => knows_then apart.2 (knows apart.1 all)⟩

theorem start_focused {options : StartOptions} {store : σ} {clock : Moment} {frames : List Text}
    {next : Nat} {first : Shell σ}
    (started : Shell.start options store clock
      { surface := some { frames := frames, nextToken := next } } = .ok first) :
    first.Focused ∧ first.KnowsAll := by
  simp only [Shell.start] at started
  split at started
  · cases started
  · next saved _ _ _ =>
    cases started
    have mark : (Session.launch options saved).editor = none := by
      obtain ⟨registry, launched⟩ := launch_eq options saved
      rw [launched]
      cases saved <;> rfl
    refine ⟨⟨Desk.seated_empty frames next, by simp, ?_⟩, ?_⟩
    · simp [session, mark]
    · simp [KnowsAll, session, mark, Desk.subscribers, Desk.surfaceD]

/-- The surface of a session gives its keys to the open editors, in the order of their opening. The
editor that the session knows is one of them, the last that was opened; and it is the only one, or
else there is none, as long as no editor is opened while another one is open. -/
theorem keyboard_goes_to_open_editors {options : StartOptions} {store : σ} {clock : Moment}
    {frames : List Text} {next : Nat} {first : Shell σ}
    (started : Shell.start options store clock
      { surface := some { frames := frames, nextToken := next } } = .ok first)
    (events : List Event) :
    let sh := first.handleAll events
    (∀ id, id ∈ sh.desk.subscribers ↔ ∃ e, sh.desk.editor? id = some e ∧ e.closed = false) ∧
      sh.desk.subscribers.Pairwise (· < ·) ∧
      (∀ id ∈ sh.session.editor, id ∈ sh.desk.subscribers ∧ id + 1 = sh.desk.windows.length) ∧
      (first.OneAtATime events → sh.desk.subscribers = sh.session.editor.toList) := by
  intro sh
  obtain ⟨focused, all⟩ := start_focused started
  obtain ⟨ends, knows⟩ := handleAll_focused focused events
  refine ⟨fun id => ends.seated.mem_subscribers, ?_, ends.known, fun apart => knows apart all⟩
  rw [Desk.subscribers, List.pairwise_map]
  exact ends.seated.order

/-- A guest with a surface. -/
def guestAtSurface : Shell MemoryStore :=
  begun guestOptions none {} default [] { surface := some {} }

/-- The guest leaves the first file before the second one is opened. -/
theorem guest_edits_file_after_file :
    let events : List Event := [.execute default "vi notes.txt", .send (.plain ":"),
      .send (.plain "q"), .send (.plain "Enter"), .execute default "sudo vim README.md",
      .send (.plain "x")]
    let sh := guestAtSurface.handleAll events
    Shell.start guestOptions ({} : MemoryStore) default { surface := some {} } =
        .ok guestAtSurface ∧
      guestAtSurface.OneAtATime events ∧ sh.desk.subscribers = sh.session.editor.toList ∧
      sh.session.editor = some 1 := by
  intro events sh
  have started : Shell.start guestOptions ({} : MemoryStore) default { surface := some {} } =
      .ok guestAtSurface := rfl
  have apart : guestAtSurface.OneAtATime events := by decide +kernel
  obtain ⟨_, _, _, knows_all⟩ := keyboard_goes_to_open_editors started events
  exact ⟨started, apart, knows_all apart, by decide +kernel⟩

/-- The guest opens a second file beside the first one: the keys reach both editors, and when the
first one closes, the session forgets the second one, which is still open and still subscribed. -/
theorem first_editor_takes_second_along :
    let opened := guestAtSurface.handleAll
      [.execute default "vi notes.txt", .execute default "vi README.md"]
    let sh := opened.handleAll [.send (.plain "x"), .send (.plain ":"),
      .send (.plain "q"), .send (.plain "Enter")]
    Shell.start guestOptions ({} : MemoryStore) default { surface := some {} } =
        .ok guestAtSurface ∧
      opened.desk.subscribers = [0, 1] ∧ opened.session.editor = some 1 ∧
      sh.desk.subscribers = [1] ∧ sh.session.editor = none := by
  intro opened sh
  exact ⟨rfl, by decide +kernel, by decide +kernel, by decide +kernel, by decide +kernel⟩

end PocketShell.Shell
