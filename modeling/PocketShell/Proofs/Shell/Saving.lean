import PocketShell.Proofs.Shell.Accounts

/-!
Where an editor saves. It keeps the name that it was opened with, and with every save the name is
looked up anew, from where the session is by then. So a session that has not moved in between, or a
name that does not depend on it, has the text go back to where it came from.
-/

namespace PocketShell

namespace Machine

variable {σ : Type} [KeyValueStore σ]

theorem host_save_eq (m : Machine σ) (file text : Text) :
    host.save m.number file text m =
      match m.session.write file text .overwrite with
      | .error _ => (false, m)
      | .ok s => (true, ({ m with session := s }).checkpointOf s) := by
  cases written : m.session.write file text .overwrite <;>
    simp [host, sessionOf, putSession, written]

theorem checkpointOf_session (m : Machine σ) (s : Session) :
    (m.checkpointOf s).session = m.session := by
  simp only [checkpointOf]
  split <;> rfl

/-- An editor of the present session has its text written or the tree left alone. -/
theorem askToSave_root {m : Machine σ} {window : Window} (own : window.owner = m.number)
    (event : Editor.Event) :
    let asked := Desk.askToSave host window event m
    (window.editor.asksToSave event && asked.1 → ∃ s,
      m.session.write window.editor.file window.editor.content .overwrite = .ok s ∧
        asked.2.session.root = s.root) ∧
      (¬ (window.editor.asksToSave event && asked.1) →
        asked.2.session.root = m.session.root) := by
  intro asked
  cases asks : window.editor.asksToSave event with
  | false => simp [asked, Desk.askToSave, asks]
  | true =>
      have saved := host_save_eq m window.editor.file window.editor.content
      cases written : m.session.write window.editor.file window.editor.content .overwrite with
      | error fault =>
          have refused : (host.refused window.editor.file m).session = m.session := rfl
          rw [written] at saved
          simp [asked, Desk.askToSave, asks, own, saved, refused]
      | ok s =>
          rw [written] at saved
          simp [asked, Desk.askToSave, asks, own, saved, checkpointOf_session]

end Machine

namespace Shell

variable {σ : Type}

/-- The windows are still there, each with the file and the owner that it had. -/
structure SameWindows (sh after : Shell σ) : Prop where
  number : after.machine.number = sh.machine.number
  kept : ∀ {id : Nat} {window : Window}, sh.desk.windows[id]? = some window →
    ∃ other, after.desk.windows[id]? = some other ∧ other.owner = window.owner ∧
      other.editor.file = window.editor.file

theorem SameWindows.refl (sh : Shell σ) : SameWindows sh sh :=
  ⟨rfl, fun here => ⟨_, here, rfl, rfl⟩⟩

theorem SameWindows.trans {sh between after : Shell σ} (h : SameWindows sh between)
    (h' : SameWindows between after) : SameWindows sh after := by
  refine ⟨h'.number.trans h.number, fun here => ?_⟩
  obtain ⟨_, there, owner, file⟩ := h.kept here
  obtain ⟨last, found, owner', file'⟩ := h'.kept there
  exact ⟨last, found, owner'.trans owner, file'.trans file⟩

theorem SameDesk.sameWindows {sh after : Shell σ} (same : SameDesk sh after) :
    SameWindows sh after :=
  ⟨same.number, fun here => ⟨_, same.desk ▸ here, rfl, rfl⟩⟩

theorem openEditor_sameWindows (sh : Shell σ) (file : Text) :
    SameWindows sh (sh.openEditor file).2 := by
  refine ⟨rfl, fun {id window} here => ⟨window, ?_, rfl, rfl⟩⟩
  have inside : id < sh.desk.windows.length := (List.getElem?_eq_some_iff.mp here).1
  simp only [openEditor, Desk.add_windows]
  rw [List.getElem?_append_left inside]
  exact here

variable [KeyValueStore σ]

theorem act_sameWindows (sh : Shell σ) (id : Nat) (event : Editor.Event) :
    SameWindows sh (sh.onDesk (Desk.act Machine.host id event)) := by
  refine ⟨(sh.act_account id event).2, fun {other window} here => ?_⟩
  cases acting : sh.desk.windows[id]? with
  | none =>
      rw [sh.act_of_nobody event acting]
      exact ⟨window, here, rfl, rfl⟩
  | some acting =>
      obtain ⟨last, outcome⟩ :=
        Desk.exists_outcome Machine.host event (sh.desk, sh.machine) acting
      by_cases same : other = id
      · subst same
        cases Option.some.inj (acting.symm.trans here)
        exact ⟨{ window with editor := last }, outcome.there here, rfl, outcome.file⟩
      · exact ⟨window, (outcome.elsewhere same).trans here, rfl, rfl⟩

theorem actAll_sameWindows (sh : Shell σ) (acts : List (Nat × Editor.Event)) :
    SameWindows sh (sh.actAll acts) := by
  induction acts generalizing sh with
  | nil => exact .refl sh
  | cons act acts ih => exact (sh.act_sameWindows act.1 act.2).trans (ih _)

theorem handle_sameWindows (sh : Shell σ) (event : Event) : SameWindows sh (sh.handle event) := by
  have course := sh.handle_course event
  generalize sh.handle event = after at course ⊢
  cases course with
  | same same => exact same.sameWindows
  | opened before file first rest =>
      exact (first.sameDesk.sameWindows.trans (before.openEditor_sameWindows file)).trans
        rest.sameDesk.sameWindows
  | acted acts => exact sh.actAll_sameWindows acts

theorem handleAll_sameWindows (sh : Shell σ) (events : List Event) :
    SameWindows sh (sh.handleAll events) := by
  induction events generalizing sh with
  | nil => exact .refl sh
  | cons event events ih => exact (sh.handle_sameWindows event).trans (ih _)

/-- An event that opens an editor leaves the account alone, and the editor is the session's. -/
theorem handle_opening {sh : Shell σ} {event : Event} {window : Window}
    (opened : (sh.handle event).desk.windows[sh.desk.windows.length]? = some window) :
    (sh.handle event).session.account = sh.session.account ∧
      window.owner = sh.machine.number := by
  have course := sh.handle_course event
  generalize sh.handle event = after at course opened ⊢
  cases course with
  | same same =>
      rw [same.desk] at opened
      simp at opened
  | opened before file first rest =>
      refine ⟨rest.account.trans first.account, ?_⟩
      rw [rest.sameDesk.desk, ← first.sameDesk.desk] at opened
      simp only [openEditor, Desk.add_windows, List.getElem?_concat_length,
        Option.some.injEq] at opened
      rw [← opened, ← first.sameDesk.number]
  | acted acts =>
      have length := sh.actAll_length acts
      rw [← length] at opened
      simp at opened

/-- A step with which an editor saves: it asks for it, and is told that its text is written. -/
def saves (sh : Shell σ) (id : Nat) (event : Editor.Event) : Bool :=
  match sh.desk.windows[id]? with
  | none => false
  | some window =>
      window.editor.asksToSave event && (Desk.askToSave Machine.host window event sh.machine).1

theorem act_root {sh : Shell σ} {id : Nat} {window : Window}
    (here : sh.desk.windows[id]? = some window) (own : window.owner = sh.machine.number)
    (event : Editor.Event) :
    let after := sh.onDesk (Desk.act Machine.host id event)
    (sh.saves id event → ∃ s,
      sh.session.write window.editor.file window.editor.content .overwrite = .ok s ∧
        after.session.root = s.root) ∧
      (¬ sh.saves id event → after.session.root = sh.session.root) := by
  intro after
  obtain ⟨_, outcome⟩ := Desk.exists_outcome Machine.host event (sh.desk, sh.machine) here
  have root : after.session.root =
      (Desk.askToSave Machine.host window event sh.machine).2.session.root := by
    refine (congrArg (fun m => m.session.root) outcome.world).trans ?_
    split
    · exact (Machine.host_closed window.owner _).2.1
    · rfl
  rw [root]
  simp only [saves, here]
  exact Machine.askToSave_root own event

/-- Whatever has opened an editor, and whatever has happened since: when it saves, its text goes to
where the name that it was opened with leads from where the session is then, and to no other place.
(A key that is pressed or sent is one such step for each editor that it reaches.) That is where the
name led when the editor was opened if it begins with a slash, or if the home is the same and it
begins with a tilde, or else if the working directory is the same. -/
theorem saves_go_where_the_name_leads {first : Shell σ} (begun : Begun first) (past : List Event)
    (opening : Event) (events : List Event) (event : Editor.Event) :
    let sh := first.handleAll past
    let id := sh.desk.windows.length
    let before := (sh.handle opening).handleAll events
    let after := before.handle (.act id event)
    ∀ opened ∈ (sh.handle opening).desk.editor? id,
      (sh.handle opening).session.account = sh.session.account ∧
        ∃ e ∈ before.desk.editor? id,
          (before.saves id event →
            after.session.root.walk (before.session.placeOf opened.file) =
              some (.file e.content)) ∧
          Directory.SameApart (before.session.placeOf opened.file) before.session.root
            after.session.root ∧
          (¬ before.saves id event → after.session.root = before.session.root) ∧
          (opened.file.head? = some (.char '/') ∨
              opened.file.head? = some (.char '~') ∧
                before.session.environment.home = sh.session.environment.home ∨
              opened.file.head? ≠ some (.char '~') ∧ before.session.path = sh.session.path →
            before.session.resolve opened.file = sh.session.resolve opened.file) := by
  intro sh id before after opened mem
  obtain ⟨window, opens, rfl⟩ := Option.map_eq_some_iff.mp mem
  obtain ⟨account, own⟩ := handle_opening opens
  have since := (sh.handle opening).handleAll_sameWindows events
  have number : before.machine.number = sh.machine.number :=
    since.number.trans (sh.handle_sameWindows opening).number
  obtain ⟨last, here, owner, file⟩ := since.kept opens
  obtain ⟨saved, untouched⟩ := act_root here (owner.trans (own.trans number.symm)) event
  have found : before.desk.editor? id = some last.editor :=
    Option.map_eq_some_iff.mpr ⟨last, here, rfl⟩
  refine ⟨account, last.editor, found, ?_, ?_, untouched, ?_⟩
  · intro saves
    obtain ⟨s, written, root⟩ := saved saves
    rw [← file, show after.session.root = s.root from root]
    exact Session.write_content written
  · by_cases saves : before.saves id event
    · obtain ⟨s, written, root⟩ := saved saves
      rw [← file, show after.session.root = s.root from root]
      exact Session.write_sameApart written
    · rw [show after.session.root = _ from untouched saves]
      exact Directory.sameApart_refl _ _
  · rintro (slash | ⟨tilde, home⟩ | ⟨plain, path⟩)
    · exact Session.resolve_of_slash _ _ slash
    · exact Session.resolve_of_tilde tilde home (begun.coherent past).home_head
    · exact Session.resolve_of_path plain path

/-- The guest goes away and comes back between opening and saving. -/
theorem guest_saves_what_was_opened :
    let sh := guestShell
    let opening : Event := .execute default "vi example.txt"
    let events : List Event := [.execute default "cd /tmp", .press (.plain "x"),
      .execute default "cd ~", .press (.plain ":"), .press (.plain "w")]
    let event : Editor.Event := .key (.plain "Enter")
    let before := (sh.handle opening).handleAll events
    Begun sh ∧ ((sh.handle opening).desk.editor? 0).isSome ∧ before.saves 0 event ∧
      (before.handle (.act 0 event)).session.root.walk ["home", "guest", "example.txt"] =
        some (.file "his is an example file.\n") := by
  intro sh opening events event before
  have started : Shell.start guestOptions ({} : MemoryStore) default {} = .ok guestShell := rfl
  have begun : Begun sh := .start started
  have file : ((sh.handle opening).desk.editor? 0).map Editor.file =
      some ("example.txt" : Text) := by
    decide +kernel
  have text : (before.desk.editor? 0).map Editor.content =
      some ("his is an example file.\n" : Text) := by
    decide +kernel
  have place : before.session.placeOf "example.txt" =
      (["home", "guest", "example.txt"] : List Text) := by
    decide +kernel
  have saves : before.saves 0 event := by decide +kernel
  obtain ⟨opened, mem, named⟩ := Option.map_eq_some_iff.mp file
  obtain ⟨_, e, here, saved, _⟩ :=
    saves_go_where_the_name_leads begun [] opening events event opened mem
  have written : (before.handle (.act 0 event)).session.root.walk
      (before.session.placeOf opened.file) = some (.file e.content) := saved saves
  rw [named, place] at written
  rw [show before.desk.editor? 0 = some e from here] at text
  rw [← Option.some.inj text]
  exact ⟨begun, Option.isSome_of_mem mem, saves, written⟩

/-- The guest goes to another directory before saving: there is a new file there, and the file that
was opened keeps its text. -/
theorem moved_guest_saves_elsewhere :
    let opened := guestShell.handle (.execute default "vi example.txt")
    let before := opened.handleAll [.execute default "cd /tmp", .press (.plain "x"),
      .press (.plain ":"), .press (.plain "w")]
    let after := before.handle (.press (.plain "Enter"))
    guestShell.session.resolve "example.txt" = ("/home/guest/example.txt" : Text) ∧
      before.saves 0 (.key (.plain "Enter")) ∧
      after.session.root.walk ["home", "guest", "example.txt"] =
        some (.file "This is an example file.\n") ∧
      after.session.root.walk ["tmp", "example.txt"] =
        some (.file "his is an example file.\n") := by
  decide +kernel

end Shell
end PocketShell
