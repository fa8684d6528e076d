import PocketShell.Proofs.Desk.Inert
import PocketShell.Proofs.Editor.Unbroken
import PocketShell.Proofs.Shell.Permission
import PocketShell.Proofs.Shell.PlainLine
import PocketShell.Proofs.Shell.Update

/-!
Editing through the shell. What an editor has saved is what `cat` gives and what another editor
opens on; for an editor has no line feed in its lines as long as nobody types one, so that its
lines and its content say the same. And who opens a file and leaves with a save has written what
was there.
-/

namespace PocketShell

namespace Machine

variable {σ : Type} [KeyValueStore σ]

theorem askToSave_registry (window : Window) (event : Editor.Event) (m : Machine σ) :
    (Desk.askToSave host window event m).2.session.registry = m.session.registry := by
  have saved : (host.save window.owner window.editor.file window.editor.content
      m).2.session.registry = m.session.registry := by
    simp only [host]
    split
    · rfl
    · next s here =>
      split
      · rfl
      · next s' written =>
        obtain ⟨_, _, _, _, _, _, _, rfl⟩ := Session.write_change written
        rw [checkpointOf_session]
        exact putSession_keeps Session.registry here rfl
  simp only [Desk.askToSave]
  split
  · split <;> exact saved
  · rfl

theorem host_closed_registry (owner : Nat) (m : Machine σ) :
    (host.closed owner m).session.registry = m.session.registry := by
  simp only [host]
  split
  · rfl
  · next s here => exact putSession_keeps Session.registry here rfl

end Machine

namespace Shell

variable {σ : Type}

/-- The session has an editor of the given number on a file, without a line feed in its lines. -/
structure AtWork (sh : Shell σ) (id : Nat) (file : Text) (window : Window) : Prop where
  here : sh.desk.windows[id]? = some window
  own : window.owner = sh.machine.number
  file : window.editor.file = file
  unbroken : window.editor.Unbroken

variable {sh : Shell σ} {id : Nat} {file : Text} {window : Window}

theorem AtWork.editor? (h : sh.AtWork id file window) : sh.desk.editor? id = some window.editor :=
  congrArg (Option.map Window.editor) h.here

/-- The session has opened another editor on a file, with the content of the file if there is one,
and is otherwise as it was. -/
structure Opens (sh : Shell σ) (file : Text) (opened : Shell σ) : Prop where
  root : opened.session.root = sh.session.root
  account : opened.session.account = sh.session.account
  registry : opened.session.registry = sh.session.registry
  mark : opened.session.editor = some sh.desk.windows.length
  window : ∃ content token, opened.desk.windows[sh.desk.windows.length]? =
      some ⟨.ofFile file content, token, opened.machine.number⟩ ∧
    ∀ held, sh.session.node? file = some (.file held) → content = held

theorem opens_openEditor (sh : Shell σ) (file : Text) : sh.Opens file (sh.openEditor file).2 := by
  refine ⟨rfl, rfl, rfl, rfl, ?_⟩
  simp only [openEditor, Desk.add_windows, List.getElem?_concat_length]
  refine ⟨_, _, rfl, fun held there => ?_⟩
  rw [there]

theorem Opens.atWork {opened : Shell σ} (h : sh.Opens file opened) :
    ∃ window, opened.AtWork sh.desk.windows.length file window := by
  obtain ⟨content, token, here, _⟩ := h.window
  exact ⟨_, here, rfl, rfl, Editor.unbroken_ofFile file content⟩

variable [KeyValueStore σ]

theorem act_registry (sh : Shell σ) (id : Nat) (event : Editor.Event) :
    (sh.onDesk (Desk.act Machine.host id event)).session.registry = sh.session.registry := by
  cases here : sh.desk.windows[id]? with
  | none => rw [sh.act_of_nobody event here]
  | some window =>
      obtain ⟨_, outcome⟩ := Desk.exists_outcome Machine.host event (sh.desk, sh.machine) here
      have asked := Machine.askToSave_registry window event sh.machine
      refine (congrArg (fun m => m.session.registry) outcome.world).trans ?_
      split
      · exact (Machine.host_closed_registry window.owner _).trans asked
      · exact asked

theorem actAll_registry (sh : Shell σ) (acts : List (Nat × Editor.Event)) :
    (sh.actAll acts).session.registry = sh.session.registry := by
  induction acts generalizing sh with
  | nil => rfl
  | cons act acts ih => exact (ih _).trans (sh.act_registry act.1 act.2)

theorem editor?_act (here : sh.desk.windows[id]? = some window) (event : Editor.Event) :
    (sh.onDesk (Desk.act Machine.host id event)).desk.editor? id =
      some (window.editor.step (Desk.askToSave Machine.host window event sh.machine).1 event) :=
  @Desk.editor?_act _ Machine.host id window event (sh.desk, sh.machine) here

theorem editor?_act_of_ne (sh : Shell σ) {other : Nat} (ne : id ≠ other) (event : Editor.Event) :
    (sh.onDesk (Desk.act Machine.host other event)).desk.editor? id = sh.desk.editor? id :=
  @Desk.act_editor?_of_ne _ Machine.host (sh.desk, sh.machine) other event id ne

/-- An event leaves the editor at work, whichever editor it happens to. -/
theorem AtWork.act (h : sh.AtWork id file window) (other : Nat) {event : Editor.Event}
    (no_feed : ∀ k, event = .key k → k.name ≠ (['\n'] : Text)) :
    ∃ last, (sh.onDesk (Desk.act Machine.host other event)).AtWork id file last := by
  obtain ⟨number, kept⟩ := sh.act_sameWindows other event
  obtain ⟨last, here, owner, same_file⟩ := kept h.here
  refine ⟨last, here, ?_, same_file.trans h.file, ?_⟩
  · rw [owner, h.own, number]
  · have there : (sh.onDesk (Desk.act Machine.host other event)).desk.editor? id =
        some last.editor := congrArg (Option.map Window.editor) here
    by_cases same : id = other
    · subst same
      have stepped := editor?_act h.here event
      rw [← Option.some.inj (stepped.symm.trans there)]
      exact h.unbroken.step _ no_feed
    · have untouched := (sh.editor?_act_of_ne same event).trans h.editor?
      rw [← Option.some.inj (untouched.symm.trans there)]
      exact h.unbroken

theorem AtWork.actAll (h : sh.AtWork id file window) {acts : List (Nat × Editor.Event)}
    (no_feed : ∀ act ∈ acts, ∀ k, act.2 = .key k → k.name ≠ (['\n'] : Text)) :
    ∃ last, (sh.actAll acts).AtWork id file last := by
  induction acts generalizing sh window with
  | nil => exact ⟨window, h⟩
  | cons act acts ih =>
      rw [List.forall_mem_cons] at no_feed
      obtain ⟨next, working⟩ := h.act act.1 no_feed.1
      exact ih working no_feed.2

theorem Opens.checkpoint {opened : Shell σ} (h : sh.Opens file opened) :
    sh.Opens file opened.checkpoint := by
  have session := opened.checkpoint_session
  obtain ⟨desk, _, number⟩ := opened.aside_checkpoint.sameDesk
  obtain ⟨root, account, registry, mark, window⟩ := h
  rw [← session] at root account registry mark
  rw [← desk, ← number] at window
  exact ⟨root, account, registry, mark, window⟩

/-- A line that opens an editor does nothing else, but for being remembered. -/
theorem opens_execute {name : Text} (named : name.Plain) (plain : file.Plain)
    (known : (sh.session.registry.get? name).map Command.handler = some (.job .edit)) :
    sh.Opens file (sh.execute (lineOf name file)).2 := by
  rw [execute_edit named plain known]
  obtain ⟨root, account, registry, mark, window⟩ :=
    ((sh.remembering (lineOf name file)).opens_openEditor file).checkpoint
  exact ⟨root, account, registry, mark, window⟩

/-- A save of an editor at work puts its text into its file, and leaves its lines as they are. -/
theorem AtWork.saved (h : sh.AtWork id file window) {event : Editor.Event}
    (saves : sh.saves id event = true) :
    let after := sh.onDesk (Desk.act Machine.host id event)
    after.session.node? file = some (.file window.editor.content) ∧
      ∃ last, after.desk.editor? id = some last ∧ last.lines = window.editor.lines := by
  intro after
  have asks : window.editor.asksToSave event = true := by
    rw [Shell.saves, h.here] at saves
    exact (Bool.and_eq_true_iff.mp saves).1
  obtain ⟨s, written, root⟩ := (act_root h.here h.own event).1 saves
  have found : after.session.root.walk (sh.session.placeOf file) =
      some (.file window.editor.content) := by
    rw [← h.file, show after.session.root = s.root from root]
    exact Session.write_content written
  rw [← placeOf_of_account (sh.act_account id event).1] at found
  have last := editor?_act h.here event
  exact ⟨found, _, last, Editor.lines_of_asks asks _⟩

/-- What an editor does without asking for a save or closing changes nothing but the editor. -/
theorem act_quiet (here : sh.desk.windows[id]? = some window) {event : Editor.Event}
    (quiet : window.editor.asksToSave event = false)
    (stays : (window.editor.step true event).closed = window.editor.closed) :
    let after := sh.onDesk (Desk.act Machine.host id event)
    after.machine = sh.machine ∧ after.desk.windows[id]? =
      some { window with editor := window.editor.step true event } := by
  intro after
  have asked : Desk.askToSave Machine.host window event sh.machine = (true, sh.machine) := by
    simp [Desk.askToSave, quiet]
  obtain ⟨last, outcome⟩ := Desk.exists_outcome Machine.host event (sh.desk, sh.machine) here
  have there : after.desk.windows[id]? = some { window with editor := last } := outcome.there here
  have stepped := editor?_act here event
  rw [asked, Desk.editor?, there] at stepped
  have last_eq : last = window.editor.step true event := Option.some.inj stepped
  rw [← last_eq] at stays ⊢
  have open_still : ¬window.Closes last := by
    rw [Window.Closes, stays]
    rintro ⟨opened, closed⟩
    exact absurd (opened.symm.trans closed) Bool.noConfusion
  have world := outcome.world
  rw [if_neg open_still, asked] at world
  exact ⟨world, there⟩

theorem press_of_mark (mark : sh.session.editor = some id) (k : Key) :
    sh.handle (.press k) = sh.onDesk (Desk.act Machine.host id (.key k)) := by
  simp only [handle, press, mark]
  rfl

/-- The editor of a file once `:wq` is typed. -/
def aboutToLeave (file content : Text) : Editor :=
  { Editor.ofFile file content with mode := .command, command := "wq" }

theorem type_save_and_quit {content : Text} {token owner : Nat}
    (mark : sh.session.editor = some id)
    (here : sh.desk.windows[id]? = some ⟨.ofFile file content, token, owner⟩) :
    let before := sh.handleAll [.press (.plain ":"), .press (.plain "w"), .press (.plain "q")]
    before.machine = sh.machine ∧
      before.desk.windows[id]? = some ⟨aboutToLeave file content, token, owner⟩ := by
  let first := sh.handle (.press (.plain ":"))
  let second := first.handle (.press (.plain "w"))
  let third := second.handle (.press (.plain "q"))
  have kept {between : Shell σ} (same : between.machine = sh.machine) :
      between.session.editor = some id := by
    rw [session, same]
    exact mark
  obtain ⟨same, here⟩ : first.machine = sh.machine ∧ first.desk.windows[id]? = _ :=
    press_of_mark mark (.plain ":") ▸ act_quiet here rfl rfl
  obtain ⟨same', here⟩ : second.machine = first.machine ∧ second.desk.windows[id]? = _ :=
    press_of_mark (kept same) (.plain "w") ▸ act_quiet here rfl rfl
  have same := same'.trans same
  obtain ⟨same', here⟩ : third.machine = second.machine ∧ third.desk.windows[id]? = _ :=
    press_of_mark (kept same) (.plain "q") ▸ act_quiet here rfl rfl
  exact ⟨same'.trans same, here⟩

/-- Who leaves a file with a save and has typed nothing else has written what was there. -/
theorem Opens.leave {opened : Shell σ} {content : Text} (h : sh.Opens file opened)
    (held : sh.session.node? file = some (.file content)) :
    let left := opened.handleAll [.press (.plain ":"), .press (.plain "w"), .press (.plain "q"),
      .press (.plain "Enter")]
    left.session.root = sh.session.root ∧
      ∃ e, left.desk.editor? sh.desk.windows.length = some e ∧ e.closed = true := by
  intro left
  have there : opened.session.node? file = some (.file content) := by
    have place := placeOf_of_account h.account file
    rw [Session.node?, Session.nodeAt, h.root]
    exact (congrArg sh.session.root.walk place).trans held
  obtain ⟨text, token, here, same_text⟩ := h.window
  rw [same_text content held] at here
  let id := sh.desk.windows.length
  let before := opened.handleAll [.press (.plain ":"), .press (.plain "w"), .press (.plain "q")]
  let window : Window := ⟨aboutToLeave file content, token, opened.machine.number⟩
  let enter : Editor.Event := .key (.plain "Enter")
  obtain ⟨same, here⟩ : before.machine = opened.machine ∧ before.desk.windows[id]? = some window :=
    type_save_and_quit h.mark here
  have same_session : before.session = opened.session := congrArg Machine.session same
  have left_eq : left = before.onDesk (Desk.act Machine.host id enter) :=
    press_of_mark (same_session ▸ h.mark) (.plain "Enter")
  have own : window.owner = before.machine.number := congrArg Machine.number same.symm
  have asks : window.editor.asksToSave enter = true := rfl
  have text : window.editor.content = content := Text.unlines_lines content
  have wrote : before.session.write file window.editor.content .overwrite = .ok opened.session := by
    rw [text, same_session]
    exact Session.write_over_itself there
  have accepted : (Desk.askToSave Machine.host window enter before.machine).1 = true :=
    (Machine.askToSave_answer own asks).trans (congrArg Except.isOk wrote)
  rw [left_eq]
  constructor
  · have saves : before.saves id enter = true := by
      simp only [Shell.saves, here, asks, accepted, Bool.and_self]
    obtain ⟨s, written, root⟩ := (act_root here own enter).1 saves
    rw [root, Except.ok.inj (written.symm.trans wrote), h.root]
  · have last := editor?_act here enter
    rw [accepted] at last
    exact ⟨_, last, rfl⟩

/-- For a file whose name is one plain word, whichever editors do whatever while no line is
executed, as long as nobody types a line feed: no line of the editor that `vi` opens ever has one
in it; when the editor has saved, `cat` gives its content, and `vi` shows its lines again. (A key
that is pressed or sent is one such step for each editor that it reaches.) Who opens a file that
is there and leaves it with a save leaves the tree as it was. -/
theorem editing_round_trips (sh : Shell σ) {file : Text} (plain : file.Plain)
    (vi : (sh.session.registry.get? "vi").map Command.handler = some (.job .edit))
    (cat : (sh.session.registry.get? "cat").map Command.handler = some (.job (.tool .cat)))
    (acts : List (Nat × Editor.Event))
    (no_feed : ∀ act ∈ acts, ∀ k, act.2 = .key k → k.name ≠ (['\n'] : Text)) :
    let opened := (sh.execute (lineOf "vi" file)).2
    let id := sh.desk.windows.length
    let before := opened.actAll acts
    (∃ e, before.desk.editor? id = some e ∧ e.lines ≠ [] ∧ ∀ line ∈ e.lines, .char '\n' ∉ line) ∧
    (∀ event, before.saves id event →
      let after := before.onDesk (Desk.act Machine.host id event)
      ∃ e, after.desk.editor? id = some e ∧
        (after.execute (lineOf "cat" file)).1 = e.content ∧
        ∃ again, (after.execute (lineOf "vi" file)).2.desk.editor? after.desk.windows.length =
          some again ∧ again.lines = e.lines) ∧
    ∀ content, sh.session.node? file = some (.file content) →
      let left := opened.handleAll [.press (.plain ":"), .press (.plain "w"), .press (.plain "q"),
        .press (.plain "Enter")]
      left.session.root = sh.session.root ∧
        ∃ e, left.desk.editor? id = some e ∧ e.closed = true := by
  intro opened id before
  have vi_plain : Text.Plain "vi" := by decide +kernel
  have cat_plain : Text.Plain "cat" := by decide +kernel
  have opens : sh.Opens file opened := opens_execute vi_plain plain vi
  obtain ⟨first, working⟩ := opens.atWork
  obtain ⟨window, working⟩ : ∃ window, before.AtWork id file window := working.actAll no_feed
  refine ⟨⟨_, working.editor?, working.unbroken.some_line, working.unbroken.whole⟩,
    fun event saves => ?_, fun content held => opens.leave held⟩
  intro after
  obtain ⟨found, e, last, lines⟩ := working.saved saves
  have found : after.session.node? file = some (.file window.editor.content) := found
  have commands : after.session.registry = sh.session.registry :=
    ((before.act_registry id event).trans (opened.actAll_registry acts)).trans opens.registry
  have text : e.content = window.editor.content := Editor.content_of_lines lines
  refine ⟨e, last, ?_, ?_⟩
  · rw [execute_cat cat_plain plain (commands ▸ cat), Session.concatenate, found, text]
  · have reopens : after.Opens file (after.execute (lineOf "vi" file)).2 :=
      opens_execute vi_plain plain (commands ▸ vi)
    obtain ⟨content, token, again, held⟩ := reopens.window
    refine ⟨_, congrArg (Option.map Window.editor) again, ?_⟩
    rw [held _ found]
    exact working.unbroken.lines_content.trans lines.symm

/-- The guest cuts a file into two lines, saves it and reads it again. -/
theorem guest_reads_what_is_saved :
    let file : Text := "example.txt"
    let keys : List Key := [.plain "l", .plain "i", .plain "Enter", .plain "Escape", .plain ":",
      .plain "w"]
    let acts := keys.map fun k => (0, Editor.Event.key k)
    let before := ((guestShell.execute (lineOf "vi" file)).2).actAll acts
    let after := before.onDesk (Desk.act Machine.host 0 (.key (.plain "Enter")))
    file.Plain ∧
      (guestShell.session.registry.get? "vi").map Command.handler = some (.job .edit) ∧
      (guestShell.session.registry.get? "cat").map Command.handler = some (.job (.tool .cat)) ∧
      (∀ act ∈ acts, ∀ k, act.2 = .key k → k.name ≠ (['\n'] : Text)) ∧
      before.saves 0 (.key (.plain "Enter")) = true ∧
      (after.execute (lineOf "cat" file)).1 = ("T\nhis is an example file.\n" : Text) := by
  intro file keys acts before after
  have plain : file.Plain := by decide +kernel
  have vi : (guestShell.session.registry.get? "vi").map Command.handler = some (.job .edit) := by
    decide +kernel
  have cat : (guestShell.session.registry.get? "cat").map Command.handler =
      some (.job (.tool .cat)) := by
    decide +kernel
  have no_feed : ∀ act ∈ acts, ∀ k, act.2 = .key k → k.name ≠ (['\n'] : Text) := by
    intro act mem k is_key
    obtain ⟨key, typed, rfl⟩ := List.mem_map.mp mem
    cases is_key
    have names : ∀ key ∈ keys, key.name ≠ (['\n'] : Text) := by decide
    exact names k typed
  have saves : before.saves 0 (.key (.plain "Enter")) = true := by decide +kernel
  have text : (after.desk.editor? 0).map Editor.content =
      some ("T\nhis is an example file.\n" : Text) := by
    decide +kernel
  obtain ⟨_, saved, _⟩ := editing_round_trips guestShell plain vi cat acts no_feed
  obtain ⟨e, last, shown, _⟩ := saved (.key (.plain "Enter")) saves
  rw [show after.desk.editor? 0 = some e from last] at text
  exact ⟨plain, vi, cat, no_feed, saves, shown.trans (Option.some.inj text)⟩

end Shell
end PocketShell
