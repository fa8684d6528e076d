import PocketShell.Proofs.Session.History
import PocketShell.Proofs.Shell.Sessions

/-!
Shells that differ in nothing but their checkpoints. A shell never reads what it has saved, except
when a session begins, and what becomes of a save is only noted; so two shells that begin alike stay
alike, whatever their stores do and under whatever stems they keep their checkpoints. A
correspondence says what is kept true of the two stores meanwhile.
-/

namespace PocketShell

/-- A store, with the log of what has gone wrong with it. -/
abbrev Books (σ : Type) := σ × List LogEntry

namespace Checkpoint

variable {σ : Type} [KeyValueStore σ]

/-- The books after a save, if there are to be checkpoints. -/
def saveUnder (stem : Option Text) (state : SavedState) (books : Books σ) : Books σ :=
  match stem with
  | none => books
  | some stem =>
      let (store, notes) := save stem state books.1
      (store, books.2 ++ notes)

def clearUnder (stem : Option Text) (books : Books σ) : Books σ :=
  match stem with
  | none => books
  | some stem =>
      let (store, notes) := clear stem books.1
      (store, books.2 ++ notes)

end Checkpoint

/-- What stays true of the books of two machines, of which the one keeps its checkpoints under
`stem` and the other one under `stem'`. -/
structure Correspondence (σ τ : Type) [KeyValueStore σ] [KeyValueStore τ] where
  stem : Option Text
  stem' : Option Text
  Fits : Books σ → Books τ → Prop
  note {b : Books σ} {b' : Books τ} (notes : List LogEntry) :
    Fits b b' → Fits (b.1, b.2 ++ notes) (b'.1, b'.2 ++ notes)
  save {b : Books σ} {b' : Books τ} (state : SavedState) : Fits b b' →
    Fits (Checkpoint.saveUnder stem state b) (Checkpoint.saveUnder stem' state b')
  clear {b : Books σ} {b' : Books τ} : Fits b b' →
    Fits (Checkpoint.clearUnder stem b) (Checkpoint.clearUnder stem' b')

namespace Machine

section Books

variable {σ : Type}

def books (m : Machine σ) : Books σ := (m.store, m.log)

def withBooks (m : Machine σ) (b : Books σ) : Machine σ := { m with store := b.1, log := b.2 }

variable [KeyValueStore σ]

theorem checkpointOf_eq (m : Machine σ) (s : Session) :
    m.checkpointOf s = m.withBooks (Checkpoint.saveUnder s.stem s.savedState m.books) := by
  simp only [checkpointOf, Checkpoint.saveUnder]
  cases s.stem <;> rfl

theorem clearCheckpoint_eq (m : Machine σ) :
    m.clearCheckpoint = m.withBooks (Checkpoint.clearUnder m.session.stem m.books) := by
  simp only [clearCheckpoint, Checkpoint.clearUnder]
  cases m.session.stem <;> rfl

end Books

variable {σ τ : Type} [KeyValueStore σ] [KeyValueStore τ] {c : Correspondence σ τ}

/-- The sessions of the one machine are those of the other one with another stem. -/
structure Alike (c : Correspondence σ τ) (m : Machine σ) (m' : Machine τ) : Prop where
  stems : m.Each (·.stem = c.stem)
  session : m'.session = m.session.under c.stem'
  former : m'.former = m.former.map (·.under c.stem')
  clock : m'.clock = m.clock
  exits : m'.exits = m.exits
  books : c.Fits m.books m'.books

variable {m : Machine σ} {m' : Machine τ}

theorem Alike.number (h : Alike c m m') : m'.number = m.number := by
  simp [Machine.number, h.former]

theorem Alike.sessionOf (h : Alike c m m') (owner : Nat) :
    m'.sessionOf owner = (m.sessionOf owner).map (·.under c.stem') := by
  simp only [Machine.sessionOf, h.number, h.session, h.former]
  split <;> simp

theorem Alike.withBooks (h : Alike c m m') {b : Books σ} {b' : Books τ} (fits : c.Fits b b') :
    Alike c (m.withBooks b) (m'.withBooks b') :=
  ⟨h.stems, h.session, h.former, h.clock, h.exits, fits⟩

theorem Alike.withSession (h : Alike c m m') {s : Session} (stem : s.stem = c.stem) :
    Alike c { m with session := s } { m' with session := s.under c.stem' } :=
  ⟨⟨stem, h.stems.2⟩, rfl, h.former, h.clock, h.exits, h.books⟩

theorem Alike.putSession (h : Alike c m m') (owner : Nat) {s : Session} (stem : s.stem = c.stem) :
    Alike c (m.putSession owner s) (m'.putSession owner (s.under c.stem')) := by
  have stems := h.stems.putSession owner stem
  simp only [Machine.putSession, h.number] at stems ⊢
  split
  · exact h.withSession stem
  · next other =>
    rw [if_neg other] at stems
    exact ⟨stems, h.session, by simp [h.former], h.clock, h.exits, h.books⟩

theorem Alike.note (h : Alike c m m') (notes : List LogEntry) :
    Alike c (m.note notes) (m'.note notes) :=
  h.withBooks (c.note notes h.books)

theorem Alike.checkpointOf (h : Alike c m m') {s : Session} (stem : s.stem = c.stem) :
    Alike c (m.checkpointOf s) (m'.checkpointOf (s.under c.stem')) := by
  rw [checkpointOf_eq, checkpointOf_eq, stem]
  exact h.withBooks (c.save s.savedState h.books)

theorem Alike.clearCheckpoint (h : Alike c m m') :
    Alike c m.clearCheckpoint m'.clearCheckpoint := by
  have own : m.session.stem = c.stem := h.stems.1
  have other : m'.session.stem = c.stem' := by rw [h.session, Session.under]
  rw [clearCheckpoint_eq, clearCheckpoint_eq, own, other]
  exact h.withBooks (c.clear h.books)

/-- Editors cannot tell the two machines apart. -/
theorem parallel_alike (c : Correspondence σ τ) :
    (host : Host (Machine σ)).Parallel (host : Host (Machine τ)) (Alike c) where
  save owner file text m m' h := by
    simp only [host, h.sessionOf owner]
    cases here : m.sessionOf owner with
    | none => exact ⟨rfl, h⟩
    | some s =>
        have stem : s.stem = c.stem := h.stems.sessionOf here
        simp only [Option.map_some, Session.write_under]
        cases written : s.write file text .overwrite with
        | error fault => exact ⟨rfl, h⟩
        | ok s' =>
            have stem' : s'.stem = c.stem := (Session.write_frame written).2.trans stem
            exact ⟨rfl, (h.putSession owner stem').checkpointOf stem'⟩
  refused file m m' h := h.note [.couldNotWrite file]
  closed owner m m' h := by
    have counted : Alike c { m with exits := m.exits + 1 } { m' with exits := m'.exits + 1 } :=
      ⟨h.stems, h.session, h.former, h.clock, congrArg (· + 1) h.exits, h.books⟩
    simp only [host, counted.sessionOf owner]
    cases here : sessionOf { m with exits := m.exits + 1 } owner with
    | none => exact counted
    | some s =>
        have stem : s.stem = c.stem := counted.stems.sessionOf here
        exact counted.putSession owner (show ({ s with editor := none } : Session).stem = c.stem
          from stem)

end Machine

namespace Shell

variable {σ τ : Type} [KeyValueStore σ] [KeyValueStore τ] {c : Correspondence σ τ}

structure Alike (c : Correspondence σ τ) (sh : Shell σ) (sh' : Shell τ) : Prop where
  machine : Machine.Alike c sh.machine sh'.machine
  desk : sh'.desk = sh.desk

/-- The same was said, and alike shells are left. -/
structure Agree {α : Type} (c : Correspondence σ τ) (r : α × Shell σ) (r' : α × Shell τ) :
    Prop where
  said : r.1 = r'.1
  left : Alike c r.2 r'.2

variable {sh : Shell σ} {sh' : Shell τ}

theorem Alike.stem (h : Alike c sh sh') : sh.session.stem = c.stem := h.machine.stems.1

theorem Alike.session (h : Alike c sh sh') : sh'.session = sh.session.under c.stem' :=
  h.machine.session

theorem Alike.withSession (h : Alike c sh sh') {s : Session} (stem : s.stem = c.stem) :
    Alike c (sh.withSession s) (sh'.withSession (s.under c.stem')) :=
  ⟨h.machine.withSession stem, h.desk⟩

/-- What is read from the session, and what is made of it, is the same but for the stem. -/
theorem Alike.onSession (h : Alike c sh sh') {f : Session → Session}
    (kept : (f sh.session).stem = sh.session.stem)
    (blind : f (sh.session.under c.stem') = (f sh.session).under c.stem') :
    Alike c (sh.withSession (f sh.session)) (sh'.withSession (f sh'.session)) := by
  rw [h.session, blind]
  exact h.withSession (kept.trans h.stem)

theorem Alike.checkpoint (h : Alike c sh sh') : Alike c sh.checkpoint sh'.checkpoint := by
  have saved := h.machine.checkpointOf h.stem
  rw [← h.session] at saved
  exact ⟨saved, h.desk⟩

theorem Alike.act (h : Alike c sh sh') (id : Nat) (event : Editor.Event) :
    Alike c (sh.onDesk (Desk.act Machine.host id event))
      (sh'.onDesk (Desk.act Machine.host id event)) := by
  obtain ⟨same, machine⟩ :=
    Desk.act_parallel (Machine.parallel_alike c) id event sh.desk h.machine
  simp only [onDesk, h.desk]
  exact ⟨machine, same.symm⟩

theorem Alike.actAll (h : Alike c sh sh') (acts : List (Nat × Editor.Event)) :
    Alike c (sh.actAll acts) (sh'.actAll acts) := by
  induction acts generalizing sh sh' with
  | nil => exact h
  | cons act acts ih => exact ih (h.act act.1 act.2)

theorem Alike.write (h : Alike c sh sh') (file content : Text) (mode : WriteMode) :
    sh'.session.write file content mode =
      (sh.session.write file content mode).map (·.under c.stem') := by
  rw [h.session]
  exact sh.session.write_under c.stem' file content mode

theorem Alike.openEditor (h : Alike c sh sh') (file : Text) :
    Agree c (sh.openEditor file) (sh'.openEditor file) := by
  have content : sh'.session.node? file = sh.session.node? file := by
    rw [h.session]
    rfl
  have marked :=
    h.onSession (f := fun s => { s with editor := some sh.desk.windows.length }) rfl rfl
  simp only [Shell.openEditor, content, h.desk, h.machine.number]
  exact ⟨rfl, marked.machine, rfl⟩

theorem Alike.runTool (h : Alike c sh sh') (tool : Tool) (invocation : Invocation) :
    Agree c (runTool sh tool invocation) (runTool sh' tool invocation) := by
  have steps := sh.session.use_steps sh.machine.clock tool invocation.args invocation.piped
  simp only [Shell.runTool, h.session, h.machine.clock, Session.use_under, Prod.map]
  exact ⟨rfl, h.withSession ((Session.steps_frame steps).2.1.trans h.stem)⟩

section Lines

variable {nested : Shell σ → Text → Result σ} {nested' : Shell τ → Text → Result τ}
  (nested_alike : ∀ sh sh' line, Alike c sh sh' → Agree c (nested sh line) (nested' sh' line))

include nested_alike

theorem Alike.runHost (h : Alike c sh sh') (invocation : Invocation) (command : HostCommand) :
    Agree c (runHost nested sh invocation command) (runHost nested' sh' invocation command) := by
  match command with
  | .report _ | .text _ | .fail _ => exact ⟨rfl, h⟩
  | .writeAndFail text =>
      simp only [Shell.runHost, writePartly, h.write]
      cases written : sh.session.write "partial.txt" "partial" .overwrite with
      | error fault => exact ⟨rfl, h⟩
      | ok s => exact ⟨rfl, h.withSession ((Session.write_frame written).2.trans h.stem)⟩
  | .alias line => exact nested_alike sh sh' _ h

theorem Alike.runJob (h : Alike c sh sh') (invocation : Invocation) (job : Job) :
    Agree c (runJob nested sh invocation job) (runJob nested' sh' invocation job) := by
  cases job with
  | tool tool => exact h.runTool tool invocation
  | edit =>
      obtain ⟨said, left⟩ := h.openEditor (invocation.args.headD "untitled")
      exact ⟨congrArg Except.ok said, left⟩
  | host command => exact h.runHost nested_alike invocation command

theorem Alike.run (h : Alike c sh sh') (invocation : Invocation) (handler : Handler) :
    Agree c (run nested sh invocation handler) (run nested' sh' invocation handler) := by
  match handler with
  | .job job => exact h.runJob nested_alike invocation job
  | .sudo =>
      have registry : sh'.session.registry = sh.session.registry := by
        rw [h.session]
        rfl
      simp only [Shell.run, registry]
      split
      · exact ⟨rfl, h⟩
      · exact h.runJob nested_alike _ _

end Lines

theorem Alike.deliver (h : Alike c sh sh') (output : Text) (redirect : Option Redirect) :
    Agree c (sh.deliver output redirect) (sh'.deliver output redirect) := by
  cases redirect with
  | none => exact ⟨rfl, h.checkpoint⟩
  | some redirect =>
      simp only [Shell.deliver, h.write]
      cases written : sh.session.write redirect.target output redirect.mode with
      | error fault => exact ⟨rfl, h⟩
      | ok s =>
          have stem := (Session.write_frame written).2.trans h.stem
          exact ⟨rfl, (h.withSession stem).checkpoint⟩

theorem Alike.executeWith {nested : Shell σ → Text → Result σ} {nested' : Shell τ → Text → Result τ}
    (nested_alike : ∀ sh sh' line, Alike c sh sh' → Agree c (nested sh line) (nested' sh' line))
    (h : Alike c sh sh') (line : Text) :
    Agree c (executeWith nested sh line) (executeWith nested' sh' line) := by
  have remembers : Alike c (sh.remembering line) (sh'.remembering line) :=
    h.onSession (f := (·.remember line)) rfl rfl
  have registry : sh'.session.registry = sh.session.registry := by
    rw [h.session]
    rfl
  have invoked : invocation sh'.session line = invocation sh.session line := by
    rw [h.session]
    rfl
  cases words : line.all isBlank with
  | true =>
      simp only [Shell.executeWith, words, if_true]
      exact ⟨rfl, h⟩
  | false =>
      cases known : sh.session.registry.get? (commandName line) with
      | none =>
          rw [executeWith_of_unknown nested sh words known,
            executeWith_of_unknown nested' sh' words (registry ▸ known)]
          exact ⟨rfl, remembers⟩
      | some command =>
          rw [executeWith_of_known nested sh words known,
            executeWith_of_known nested' sh' words (registry ▸ known), invoked]
          obtain ⟨said, left⟩ :=
            remembers.run nested_alike (invocation sh.session line) command.handler
          cases ran : Shell.run nested (sh.remembering line) (invocation sh.session line)
            command.handler with
          | mk outcome after =>
              cases ran' : Shell.run nested' (sh'.remembering line) (invocation sh.session line)
                command.handler with
              | mk outcome' after' =>
                  rw [ran, ran'] at said left
                  cases said
                  cases outcome with
                  | error text => exact ⟨rfl, left.machine.note _, left.desk⟩
                  | ok output => exact left.deliver _ _

theorem Alike.nestedIn (n : Nat) (sh : Shell σ) (sh' : Shell τ) (line : Text)
    (h : Alike c sh sh') : Agree c (Shell.nestedIn n sh line) (Shell.nestedIn n sh' line) := by
  induction n generalizing sh sh' line with
  | zero => exact ⟨rfl, h⟩
  | succ n ih =>
      obtain ⟨said, left⟩ := h.executeWith ih line
      simp only [Shell.nestedIn, executeNested_eq]
      exact ⟨congrArg Except.ok said, left⟩

theorem Alike.execute (h : Alike c sh sh') (line : Text) :
    Agree c (sh.execute line) (sh'.execute line) := by
  rw [execute_eq, execute_eq]
  exact h.executeWith (Alike.nestedIn nestingLimit) line

/-- What an event tells the host, besides the shell that it leaves. -/
def told (sh : Shell σ) : Event → Option Text
  | .execute now line => some ((sh.atMoment now).execute line).1
  | .openEditor file => some (sh.openEditor file).1
  | .write file content mode =>
      match sh.session.write file content mode with
      | .error fault => some (fault.message file)
      | .ok _ => none
  | .switchUser user => some (sh.session.switchUser user).1
  | .restoreUser => sh.session.restoreUser.1
  | _ => none

def toldAll (sh : Shell σ) : List Event → List (Option Text)
  | [] => []
  | event :: events => sh.told event :: (sh.handle event).toldAll events

/-- Whatever happens to alike shells, they tell the same and stay alike. -/
theorem Alike.handle (h : Alike c sh sh') (event : Event) :
    sh.told event = sh'.told event ∧ Alike c (sh.handle event) (sh'.handle event) := by
  cases event with
  | execute now line =>
      have timed : Alike c (sh.atMoment now) (sh'.atMoment now) :=
        ⟨⟨h.machine.stems, h.machine.session, h.machine.former, rfl, h.machine.exits,
          h.machine.books⟩, h.desk⟩
      obtain ⟨said, left⟩ := timed.execute line
      exact ⟨congrArg some said, left⟩
  | openEditor file =>
      obtain ⟨said, left⟩ := h.openEditor file
      exact ⟨congrArg some said, left⟩
  | press k =>
      have editor : sh'.session.editor = sh.session.editor := by
        rw [h.session]
        rfl
      simp only [Shell.handle, press_eq, editor]
      exact ⟨rfl, h.actAll _⟩
  | send k =>
      simp only [Shell.handle, send_eq, h.desk]
      exact ⟨rfl, h.actAll _⟩
  | act id event => exact ⟨rfl, h.act id event⟩
  | write file content mode =>
      simp only [Shell.handle, told, h.write]
      cases written : sh.session.write file content mode with
      | error fault => exact ⟨rfl, h⟩
      | ok s => exact ⟨rfl, h.withSession ((Session.write_frame written).2.trans h.stem)⟩
  | switchUser user =>
      have switched := h.onSession (f := fun s => (s.switchUser user).2) rfl rfl
      exact ⟨rfl, switched⟩
  | restoreUser =>
      have left : (sh'.session.restoreUser) =
          sh.session.restoreUser.map id (·.under c.stem') := by
        rw [h.session]
        exact sh.session.restoreUser_under c.stem'
      have step : Session.Step [] sh.session sh.session.restoreUser.2 := .restoreUser sh.session
      simp only [Shell.handle, told, left, Prod.map]
      exact ⟨rfl, h.withSession ((Session.step_frame step).2.1.trans h.stem)⟩
  | register name command =>
      have registered := h.onSession (f := (·.register name command)) rfl rfl
      exact ⟨rfl, registered⟩
  | save => exact ⟨rfl, h.checkpoint⟩
  | clear => exact ⟨rfl, h.machine.clearCheckpoint, h.desk⟩

theorem Alike.handleAll (h : Alike c sh sh') (events : List Event) :
    sh.toldAll events = sh'.toldAll events ∧
      Alike c (sh.handleAll events) (sh'.handleAll events) := by
  induction events generalizing sh sh' with
  | nil => exact ⟨rfl, h⟩
  | cons event events ih =>
      obtain ⟨told, left⟩ := h.handle event
      obtain ⟨rest, ends⟩ := ih left
      exact ⟨by rw [toldAll, toldAll, told, rest], ends⟩

end Shell
end PocketShell
