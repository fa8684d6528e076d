import PocketShell.Proofs.Desk.Seated
import PocketShell.Proofs.Session.Written
import PocketShell.Proofs.Shell.Restart

/-!
What a host does with a shell, one event after the other: lines and keys in any order, and the
calls that it can make itself. Whatever commands there are, a line runs one of them at most, for a
command of the host can do no more than have another line executed; what happens around it
concerns files, remembered lines and checkpoints only. So an event turns the account of the
session at most once, and at the desk it opens one editor, or lets editors do a step, or changes
nothing.
-/

namespace PocketShell

namespace Machine

variable {σ : Type}

/-- The present session has the same account and the same editor. -/
structure Aside (m after : Machine σ) : Prop where
  account : after.session.account = m.session.account
  mark : after.session.editor = m.session.editor
  number : after.number = m.number

theorem Aside.trans {m between after : Machine σ} (h : Aside m between)
    (h' : Aside between after) : Aside m after :=
  ⟨h'.account.trans h.account, h'.mark.trans h.mark, h'.number.trans h.number⟩

/-- What the given session and the one that takes its place have in common stays as it was. -/
theorem putSession_keeps {α : Type} (f : Session → α) {m : Machine σ} {owner : Nat}
    {s s' : Session} (here : m.sessionOf owner = some s) (same : f s' = f s) :
    f (m.putSession owner s').session = f m.session := by
  simp only [sessionOf] at here
  simp only [putSession]
  split
  · next present =>
    rw [if_pos present] at here
    cases here
    exact same
  · rfl

theorem putSession_number (m : Machine σ) (owner : Nat) (s : Session) :
    (m.putSession owner s).number = m.number := by
  simp only [putSession]
  split
  · rfl
  · exact List.length_set

theorem aside_putSession {m : Machine σ} {owner : Nat} {s s' : Session}
    (here : m.sessionOf owner = some s) (account : s'.account = s.account)
    (mark : s'.editor = s.editor) : Aside m (m.putSession owner s') where
  account := putSession_keeps Session.account here account
  mark := putSession_keeps Session.editor here mark
  number := m.putSession_number owner s'

variable [KeyValueStore σ]

theorem aside_checkpointOf (m : Machine σ) (s : Session) : Aside m (m.checkpointOf s) := by
  simp only [checkpointOf]
  split <;> exact ⟨rfl, rfl, rfl⟩

theorem aside_save (owner : Nat) (file text : Text) (m : Machine σ) :
    Aside m (host.save owner file text m).2 := by
  simp only [host]
  split
  · exact ⟨rfl, rfl, rfl⟩
  · next s here =>
    split
    · exact ⟨rfl, rfl, rfl⟩
    · next s' written =>
      obtain ⟨account, mark⟩ := Session.write_same written
      exact (aside_putSession here account mark).trans (aside_checkpointOf _ s')

/-- What an editor asks for leaves the session as it is, but for its tree. -/
theorem aside_askToSave (window : Window) (event : Editor.Event) (m : Machine σ) :
    Aside m (Desk.askToSave host window event m).2 := by
  simp only [Desk.askToSave]
  split
  · have saved := aside_save window.owner window.editor.file window.editor.content m
    split
    · exact saved
    · exact saved.trans ⟨rfl, rfl, rfl⟩
  · exact ⟨rfl, rfl, rfl⟩

/-- When an editor closes, the session that has opened it knows no editor any more. -/
theorem host_closed (owner : Nat) (m : Machine σ) :
    (host.closed owner m).session.account = m.session.account ∧
      (host.closed owner m).session.root = m.session.root ∧
      (host.closed owner m).number = m.number ∧
      (host.closed owner m).session.editor =
        if owner = m.number then none else m.session.editor := by
  by_cases present : owner = m.number
  · subst present
    simp [host, sessionOf, putSession, number, Session.account]
  · simp only [host]
    split
    · exact ⟨rfl, rfl, rfl, by simp [present]⟩
    · have absent : owner ≠ m.former.length := present
      simp [putSession, number, absent]

end Machine

namespace Shell

variable {σ : Type}

/-- The desk is as it was, and the session knows its editor as before. -/
structure SameDesk (sh after : Shell σ) : Prop where
  desk : after.desk = sh.desk
  mark : after.session.editor = sh.session.editor
  number : after.machine.number = sh.machine.number

/-- Nothing has happened but for the tree, the lines remembered, the store and the log. -/
structure Aside (sh after : Shell σ) : Prop where
  sameDesk : SameDesk sh after
  account : after.session.account = sh.session.account

theorem SameDesk.refl (sh : Shell σ) : SameDesk sh sh := ⟨rfl, rfl, rfl⟩

theorem SameDesk.trans {sh between after : Shell σ} (h : SameDesk sh between)
    (h' : SameDesk between after) : SameDesk sh after :=
  ⟨h'.desk.trans h.desk, h'.mark.trans h.mark, h'.number.trans h.number⟩

theorem Aside.refl (sh : Shell σ) : Aside sh sh := ⟨.refl sh, rfl⟩

theorem Aside.trans {sh between after : Shell σ} (h : Aside sh between)
    (h' : Aside between after) : Aside sh after :=
  ⟨h.sameDesk.trans h'.sameDesk, h'.account.trans h.account⟩

theorem aside_withSession (sh : Shell σ) {s : Session} (account : s.account = sh.session.account)
    (mark : s.editor = sh.session.editor) : Aside sh (sh.withSession s) :=
  ⟨⟨rfl, mark, rfl⟩, account⟩

theorem aside_write (sh : Shell σ) {s : Session} {file content : Text} {mode : WriteMode}
    (written : sh.session.write file content mode = .ok s) : Aside sh (sh.withSession s) :=
  sh.aside_withSession (Session.write_same written).1 (Session.write_same written).2

/-- What a line does: it runs a tool, or opens an editor, or neither. -/
inductive Did (sh : Shell σ) : Shell σ → Prop
  | aside {after : Shell σ} : Aside sh after → Did sh after
  | tool (before : Shell σ) {after : Shell σ} (now : Moment) (t : Tool) (args : List Text)
      (piped : Bool) : Aside sh before →
      Aside (before.withSession (before.session.use now t args piped).2) after → Did sh after
  | edit (before : Shell σ) {after : Shell σ} (file : Text) :
      Aside sh before → Aside (before.openEditor file).2 after → Did sh after

theorem Did.before {sh before after : Shell σ} (did : Did before after) (first : Aside sh before) :
    Did sh after := by
  cases did with
  | aside rest => exact .aside (first.trans rest)
  | tool before now t args piped first' rest =>
      exact .tool before now t args piped (first.trans first') rest
  | edit before file first' rest => exact .edit before file (first.trans first') rest

theorem Did.behind {sh between after : Shell σ} (did : Did sh between)
    (rest : Aside between after) : Did sh after := by
  cases did with
  | aside first => exact .aside (first.trans rest)
  | tool before now t args piped first rest' =>
      exact .tool before now t args piped first (rest'.trans rest)
  | edit before file first rest' => exact .edit before file first (rest'.trans rest)

theorem Did.turn {sh after : Shell σ} (did : Did sh after) :
    sh.session.Turn after.session.account := by
  cases did with
  | aside aside =>
      rw [aside.account]
      exact .stay
  | tool before now t args piped first rest =>
      rw [rest.account]
      exact (before.session.use_turn now t args piped).of_account first.account
  | edit before file first rest =>
      have opened : (before.openEditor file).2.session.account = sh.session.account :=
        first.account
      rw [rest.account, opened]
      exact .stay

section Lines

variable {nested : Shell σ → Text → Result σ}
  (nested_did : ∀ sh line, Did sh (nested sh line).2)

include nested_did

theorem runHost_did (sh : Shell σ) (invocation : Invocation) (command : HostCommand) :
    Did sh (runHost nested sh invocation command).2 := by
  match command with
  | .report _ | .text _ | .fail _ => exact .aside (.refl sh)
  | .writeAndFail _ =>
      simp only [runHost, writePartly]
      split
      · exact .aside (.refl sh)
      · next s written => exact .aside (sh.aside_write written)
  | .alias line => exact nested_did _ _

theorem runJob_did (sh : Shell σ) (invocation : Invocation) (job : Job) :
    Did sh (runJob nested sh invocation job).2 := by
  cases job with
  | tool t => exact .tool sh sh.machine.clock t _ _ (.refl sh) (.refl _)
  | edit => exact .edit sh _ (.refl sh) (.refl _)
  | host command => exact runHost_did nested_did sh invocation command

theorem run_did (sh : Shell σ) (invocation : Invocation) (handler : Handler) :
    Did sh (run nested sh invocation handler).2 := by
  match handler with
  | .job job => exact runJob_did nested_did sh invocation job
  | .sudo =>
      simp only [run]
      split
      · exact .aside (.refl sh)
      · exact runJob_did nested_did sh _ _

end Lines

variable [KeyValueStore σ]

theorem aside_checkpoint (sh : Shell σ) : Aside sh sh.checkpoint := by
  obtain ⟨store, log, saved⟩ : ∃ store log,
      sh.checkpoint = sh.onMachine ({ · with store := store, log := log }) := by
    simp only [checkpoint, onMachine, Machine.checkpoint, Machine.checkpointOf]
    split
    · exact ⟨sh.machine.store, sh.machine.log, rfl⟩
    · exact ⟨_, _, rfl⟩
  rw [saved]
  exact ⟨⟨rfl, rfl, rfl⟩, rfl⟩

theorem aside_clear (sh : Shell σ) : Aside sh (sh.onMachine Machine.clearCheckpoint) := by
  simp only [onMachine, Machine.clearCheckpoint]
  split <;> exact ⟨⟨rfl, rfl, rfl⟩, rfl⟩

theorem aside_deliver (sh : Shell σ) (output : Text) (redirect : Option Redirect) :
    Aside sh (sh.deliver output redirect).2 := by
  cases redirect with
  | none => exact sh.aside_checkpoint
  | some redirect =>
      simp only [deliver]
      split
      · exact .refl sh
      · next s written => exact (sh.aside_write written).trans (aside_checkpoint _)

theorem executeWith_did {nested : Shell σ → Text → Result σ}
    (nested_did : ∀ sh line, Did sh (nested sh line).2) (sh : Shell σ) (line : Text) :
    Did sh (executeWith nested sh line).2 := by
  have remembers : Aside sh (sh.remembering line) := sh.aside_withSession rfl rfl
  rcases executeWith_cases nested sh line with
    ⟨_, result⟩ | ⟨_, _, result⟩ | ⟨_, command, _, result⟩
  · rw [result]
    exact .aside (.refl sh)
  · rw [result]
    exact .aside remembers
  · have ran := (run_did nested_did (sh.remembering line) (invocation sh.session line)
      command.handler).before remembers
    rw [result]
    split
    · next text after failed =>
      rw [failed] at ran
      exact ran.behind ⟨⟨rfl, rfl, rfl⟩, rfl⟩
    · next output after finished =>
      rw [finished] at ran
      exact ran.behind (after.aside_deliver _ _)

theorem nestedIn_did (n : Nat) (sh : Shell σ) (line : Text) :
    Did sh (nestedIn n sh line).2 := by
  induction n generalizing sh line with
  | zero => exact .aside (.refl sh)
  | succ n ih =>
      simp only [nestedIn, executeNested_eq]
      exact executeWith_did ih sh line

theorem execute_did (sh : Shell σ) (line : Text) : Did sh (sh.execute line).2 := by
  rw [execute_eq]
  exact executeWith_did (nestedIn_did nestingLimit) sh line

/-- What a host can do with a shell. -/
inductive Event
  | execute (now : Moment) (line : Text)
  | openEditor (file : Text)
  /-- A key for the editor of the session. -/
  | press (k : Key)
  | send (k : Key)
  /-- A call on any editor, open or not. -/
  | act (id : Nat) (event : Editor.Event)
  | write (file content : Text) (mode : WriteMode)
  | switchUser (user : Text)
  | restoreUser
  | register (name : Text) (command : Command)
  | save
  | clear

def handle (sh : Shell σ) : Event → Shell σ
  | .execute now line => ((sh.atMoment now).execute line).2
  | .openEditor file => (sh.openEditor file).2
  | .press k => (sh.press k).getD sh
  | .send k => sh.send k
  | .act id event => sh.onDesk (Desk.act Machine.host id event)
  | .write file content mode =>
      match sh.session.write file content mode with
      | .error _ => sh
      | .ok s => sh.withSession s
  | .switchUser user => sh.withSession (sh.session.switchUser user).2
  | .restoreUser => sh.withSession sh.session.restoreUser.2
  | .register name command => sh.withSession (sh.session.register name command)
  | .save => sh.checkpoint
  | .clear => sh.onMachine Machine.clearCheckpoint

def handleAll (sh : Shell σ) (events : List Event) : Shell σ := events.foldl handle sh

/-- Lets editors do steps, one after the other. -/
def actAll (sh : Shell σ) (acts : List (Nat × Editor.Event)) : Shell σ :=
  acts.foldl (fun sh act => sh.onDesk (Desk.act Machine.host act.1 act.2)) sh

/-- A key that is sent reaches every subscriber in turn. -/
theorem send_eq (sh : Shell σ) (k : Key) :
    sh.send k = sh.actAll (sh.desk.surfaceD.subscriptions.map fun s => (s.2, .key k)) := by
  have each (subscriptions : List (Nat × Nat)) (sh : Shell σ) :
      sh.onDesk (fun state => subscriptions.foldl
        (fun state s => Desk.press Machine.host s.2 k state) state) =
      sh.actAll (subscriptions.map fun s => (s.2, .key k)) := by
    induction subscriptions generalizing sh with
    | nil => rfl
    | cons s subscriptions ih => exact ih (sh.onDesk (Desk.press Machine.host s.2 k))
  exact each _ sh

theorem press_eq (sh : Shell σ) (k : Key) :
    (sh.press k).getD sh = sh.actAll (sh.session.editor.toList.map fun id => (id, .key k)) := by
  simp only [press]
  cases sh.session.editor <;> rfl

/-- What an event does at the desk. -/
inductive Course (sh : Shell σ) : Shell σ → Prop
  | same {after : Shell σ} : SameDesk sh after → Course sh after
  | opened (before : Shell σ) {after : Shell σ} (file : Text) :
      Aside sh before → Aside (before.openEditor file).2 after → Course sh after
  | acted (acts : List (Nat × Editor.Event)) : Course sh (sh.actAll acts)

theorem Did.course {sh after : Shell σ} (did : Did sh after) : Course sh after := by
  cases did with
  | aside aside => exact .same aside.sameDesk
  | tool before now t args piped first rest =>
      have steps := before.session.use_steps now t args piped
      have used : SameDesk before (before.withSession (before.session.use now t args piped).2) :=
        ⟨rfl, (Session.steps_frame steps).2.2.1, rfl⟩
      exact .same ((first.sameDesk.trans used).trans rest.sameDesk)
  | edit before file first rest => exact .opened before file first rest

theorem handle_course (sh : Shell σ) (event : Event) : Course sh (sh.handle event) := by
  cases event with
  | execute now line =>
      have did := ((sh.atMoment now).execute_did line).before
        (show Aside sh _ from ⟨⟨rfl, rfl, rfl⟩, rfl⟩)
      exact did.course
  | openEditor file => exact .opened sh file (.refl sh) (.refl _)
  | press k =>
      simp only [handle, press_eq]
      exact .acted _
  | send k =>
      simp only [handle, send_eq]
      exact .acted _
  | act id event => exact .acted [(id, event)]
  | write file content mode =>
      simp only [handle]
      split
      · exact .same (.refl sh)
      · next s written => exact .same (sh.aside_write written).sameDesk
  | switchUser user => exact .same ⟨rfl, rfl, rfl⟩
  | restoreUser =>
      have step : Session.Step [] sh.session sh.session.restoreUser.2 := .restoreUser sh.session
      exact .same ⟨rfl, (Session.step_frame step).2.2.1, rfl⟩
  | register name command => exact .same ⟨rfl, rfl, rfl⟩
  | save => exact .same sh.aside_checkpoint.sameDesk
  | clear => exact .same sh.aside_clear.sameDesk

theorem act_of_nobody (sh : Shell σ) {id : Nat} (event : Editor.Event)
    (nobody : sh.desk.windows[id]? = none) :
    sh.onDesk (Desk.act Machine.host id event) = sh := by
  simp only [onDesk]
  rw [Desk.act_of_none Machine.host event (sh.desk, sh.machine) nobody]

/-- A step of an editor leaves the account of the session alone, whoever has opened the editor. -/
theorem act_account (sh : Shell σ) (id : Nat) (event : Editor.Event) :
    (sh.onDesk (Desk.act Machine.host id event)).session.account = sh.session.account ∧
      (sh.onDesk (Desk.act Machine.host id event)).machine.number = sh.machine.number := by
  cases here : sh.desk.windows[id]? with
  | none =>
      rw [sh.act_of_nobody event here]
      exact ⟨rfl, rfl⟩
  | some window =>
      change (Desk.act Machine.host id event (sh.desk, sh.machine)).2.session.account = _ ∧
        (Desk.act Machine.host id event (sh.desk, sh.machine)).2.number = _
      obtain ⟨_, outcome⟩ := Desk.exists_outcome Machine.host event (sh.desk, sh.machine) here
      have asked := Machine.aside_askToSave window event sh.machine
      rw [outcome.world]
      split
      · obtain ⟨account, _, number, _⟩ := Machine.host_closed window.owner
          (Desk.askToSave Machine.host window event sh.machine).2
        exact ⟨account.trans asked.account, number.trans asked.number⟩
      · exact ⟨asked.account, asked.number⟩

theorem actAll_account (sh : Shell σ) (acts : List (Nat × Editor.Event)) :
    (sh.actAll acts).session.account = sh.session.account := by
  induction acts generalizing sh with
  | nil => rfl
  | cons act acts ih => exact (ih _).trans (sh.act_account act.1 act.2).1

theorem actAll_length (sh : Shell σ) (acts : List (Nat × Editor.Event)) :
    (sh.actAll acts).desk.windows.length = sh.desk.windows.length := by
  induction acts generalizing sh with
  | nil => rfl
  | cons act acts ih =>
      exact (ih _).trans (Desk.act_length Machine.host act.1 act.2 (sh.desk, sh.machine))

/-- An event turns the account of the session at most once. -/
theorem handle_turn (sh : Shell σ) (event : Event) :
    sh.session.Turn (sh.handle event).session.account := by
  cases event with
  | execute now line => exact ((sh.atMoment now).execute_did line).turn
  | openEditor file => exact .stay
  | press k =>
      simp only [handle, press_eq, actAll_account]
      exact .stay
  | send k =>
      simp only [handle, send_eq, actAll_account]
      exact .stay
  | act id event =>
      simp only [handle, act_account]
      exact .stay
  | write file content mode =>
      simp only [handle]
      split
      · exact .stay
      · next s written =>
        rw [(sh.aside_write written).account]
        exact .stay
  | switchUser user => exact .switch user
  | restoreUser => exact .back
  | register name command => exact .stay
  | save =>
      simp only [handle, sh.aside_checkpoint.account]
      exact .stay
  | clear =>
      simp only [handle, sh.aside_clear.account]
      exact .stay

end Shell
end PocketShell
