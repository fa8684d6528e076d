import PocketShell.Proofs.Session.Refusal
import PocketShell.Proofs.Shell.Saving

/-!
Who may write what. A user who may not write at a place is refused by `touch` and `mkdir`, but not
by a redirect and not by an editor that saves: these ask the tree only.
-/

namespace PocketShell

namespace Editor

/-- What an editor says when its save is refused. -/
def refusalMessage (e : Editor) : Text := e.quotedFile ++ " E212: Can't open file for writing"

theorem step_refused {e : Editor} {event : Event} (asks : e.asksToSave event = true) :
    (e.step false event).message = some e.refusalMessage := by
  cases given : e.directive? event with
  | some d =>
      obtain ⟨ready, _, _, _, stepped⟩ := step_of_directive false given
      have same : ready.file = e.file := by
        rw [← e.step_file false event, stepped, perform_file]
      have saves : d.saves = true := (asksToSave_of_directive given).symm.trans asks
      have refused : ready.perform false d = ready.save false := by
        cases d <;> first | rfl | cases saves
      rw [stepped, refused]
      simp [save, say, refusalMessage, quotedFile, same]
  | none =>
      cases event with
      | save => rfl
      | close => cases asks
      | execute text => cases given
      | key k =>
          have quiet := (marks_press false given).2
          exact absurd (quiet.symm.trans asks) Bool.noConfusion

end Editor

/-- The answer to an editor of the present session is whether its text could be written. -/
theorem Machine.askToSave_answer {σ : Type} [KeyValueStore σ] {m : Machine σ} {window : Window}
    {event : Editor.Event} (own : window.owner = m.number)
    (asks : window.editor.asksToSave event = true) :
    (Desk.askToSave host window event m).1 =
      (m.session.write window.editor.file window.editor.content .overwrite).isOk := by
  have saved := host_save_eq m window.editor.file window.editor.content
  cases wrote : m.session.write window.editor.file window.editor.content .overwrite <;>
    simp [Desk.askToSave, asks, own, saved, wrote, Except.isOk, Except.toBool]

namespace Shell

variable {σ : Type} [KeyValueStore σ]

/-- A redirect is refused by the tree, or the file is as it should be and all else as it was. -/
theorem deliver_refused_or_written (sh : Shell σ) (output : Text) (r : Redirect) :
    let place := sh.session.placeOf r.target
    let told := (sh.deliver output (some r)).1
    let root := (sh.deliver output (some r)).2.session.root
    if sh.session.root.refuses place then
      (∃ fault : WriteFault, told = fault.message r.target) ∧ root = sh.session.root
    else
      told = [] ∧ root.walk place = some (written (sh.session.root.walk place) output r.mode) ∧
        Directory.SameApart place sh.session.root root := by
  intro place told root
  cases wrote : sh.session.write r.target output r.mode with
  | error fault =>
      rw [if_pos (Session.refuses_of_write wrote)]
      have delivered : sh.deliver output (some r) = (fault.message r.target, sh) := by
        simp only [deliver, wrote]
      simp only [told, root, delivered]
      exact ⟨⟨fault, rfl⟩, trivial⟩
  | ok s =>
      have delivered : sh.deliver output (some r) = ([], (sh.withSession s).checkpoint) := by
        simp only [deliver, wrote]
      rw [if_neg (Session.not_refuses_of_write wrote)]
      simp only [told, root, delivered, checkpoint_session]
      exact ⟨trivial, Session.write_found wrote, Session.write_sameApart wrote⟩

/-- What a line with a redirect comes to once its command has run. -/
theorem execute_refused_or_written (sh : Shell σ) {line : Text} {command : Command} {r : Redirect}
    (words : line.all isBlank = false)
    (known : sh.session.registry.get? (commandName line) = some command)
    (redirected : (Stages.ofLine line).redirect = some r) :
    let ran := run (nestedIn nestingLimit) (sh.remembering line) (invocation sh.session line)
      command.handler
    let before := ran.2.session.root
    let place := ran.2.session.placeOf r.target
    let told := (sh.execute line).1
    let root := (sh.execute line).2.session.root
    match ran.1 with
    | .error text => told = "Error executing " ++ commandName line ++ ": " ++ text ∧ root = before
    | .ok output =>
        if before.refuses place then
          (∃ fault : WriteFault, told = fault.message r.target) ∧ root = before
        else
          told = [] ∧
            root.walk place = some (written (before.walk place)
              (filtered (Stages.ofLine line).filter output) r.mode) ∧
            Directory.SameApart place before root := by
  intro ran before place told root
  have executed := executeWith_of_known (nestedIn nestingLimit) sh words known
  rw [← execute_eq, redirected] at executed
  simp only [told, root, executed]
  simp only [place, before, ran]
  cases run (nestedIn nestingLimit) (sh.remembering line) (invocation sh.session line)
      command.handler with
  | mk result after =>
      cases result with
      | error text => exact ⟨rfl, rfl⟩
      | ok output => exact after.deliver_refused_or_written _ r

/-- An editor of the present session that asks for a save is refused by the tree, and says so, or
the file holds its text and all else is as it was. -/
theorem act_refused_or_written (sh : Shell σ) {id : Nat} {window : Window} {event : Editor.Event}
    (here : sh.desk.windows[id]? = some window) (own : window.owner = sh.machine.number)
    (asks : window.editor.asksToSave event = true) :
    let e := window.editor
    let place := sh.session.placeOf e.file
    let after := sh.onDesk (Desk.act Machine.host id event)
    if sh.session.root.refuses place then
      (∃ last, after.desk.editor? id = some last ∧ last.message = some e.refusalMessage) ∧
      after.session.root = sh.session.root
    else
      after.session.root.walk place = some (.file e.content) ∧
        Directory.SameApart place sh.session.root after.session.root := by
  intro e place after
  obtain ⟨saved, untouched⟩ := act_root here own event
  have answer : (Desk.askToSave Machine.host window event sh.machine).1 =
      (sh.session.write e.file e.content .overwrite).isOk := Machine.askToSave_answer own asks
  cases wrote : sh.session.write e.file e.content .overwrite with
  | error fault =>
      have refused : (Desk.askToSave Machine.host window event sh.machine).1 = false := by
        rw [answer, wrote]
        rfl
      have last := @Desk.editor?_act _ Machine.host id window event (sh.desk, sh.machine) here
      rw [refused] at last
      rw [if_pos (Session.refuses_of_write wrote)]
      refine ⟨⟨_, last, Editor.step_refused asks⟩, ?_⟩
      exact untouched (by simp [saves, here, refused])
  | ok s =>
      have accepted : (Desk.askToSave Machine.host window event sh.machine).1 = true := by
        rw [answer, wrote]
        rfl
      obtain ⟨s', wrote', root⟩ := saved (by simp [saves, here, asks, accepted])
      rw [if_neg (Session.not_refuses_of_write wrote), show after.session.root = s'.root from root]
      exact ⟨Session.write_content wrote', Session.write_sameApart wrote'⟩

/-- At a place where the user may not write, `touch` and `mkdir` are denied. A redirect to it, of
any command that has left the account as it was, and a save of an editor that is open on it are
refused only if the tree refuses the place; then they say so and leave the tree alone. Otherwise the
file is written in spite of the missing right. -/
theorem only_creations_ask_for_permission {sh : Shell σ} {target : Text}
    (denied : sh.session.mayWrite target = false) :
    let place := sh.session.placeOf target
    (∀ now rest piped,
      sh.session.use now .touch (target :: rest) piped =
          (complaint "touch" "cannot touch" target "Permission denied", sh.session) ∧
        sh.session.use now .mkdir (target :: rest) piped =
          (complaint "mkdir" "cannot create directory" target "Permission denied",
            sh.session)) ∧
    (∀ line command mode, line.all isBlank = false →
      sh.session.registry.get? (commandName line) = some command →
      (Stages.ofLine line).redirect = some ⟨target, mode⟩ →
      let ran := run (nestedIn nestingLimit) (sh.remembering line) (invocation sh.session line)
        command.handler
      let before := ran.2.session.root
      let told := (sh.execute line).1
      let root := (sh.execute line).2.session.root
      ran.2.session.account = sh.session.account →
      match ran.1 with
      | .error text =>
          told = "Error executing " ++ commandName line ++ ": " ++ text ∧ root = before
      | .ok output =>
          if before.refuses place then
            (∃ fault : WriteFault, told = fault.message target) ∧ root = before
          else
            told = [] ∧
              root.walk place = some (written (before.walk place)
                (filtered (Stages.ofLine line).filter output) mode) ∧
              Directory.SameApart place before root) ∧
    (∀ id window event, sh.desk.windows[id]? = some window →
      window.owner = sh.machine.number → window.editor.file = target →
      window.editor.asksToSave event = true →
      let after := sh.onDesk (Desk.act Machine.host id event)
      if sh.session.root.refuses place then
        (∃ last, after.desk.editor? id = some last ∧
          last.message = some window.editor.refusalMessage) ∧
        after.session.root = sh.session.root
      else
        after.session.root.walk place = some (.file window.editor.content) ∧
          Directory.SameApart place sh.session.root after.session.root) := by
  intro place
  refine ⟨fun now rest piped => Session.creation_denied denied now rest piped, ?_, ?_⟩
  · intro line command mode words known redirected ran before told root still
    have executed := sh.execute_refused_or_written words known redirected
    have same : ran.2.session.placeOf target = place := placeOf_of_account still target
    rw [← same]
    exact executed
  · intro id window event here own file asks
    simp only [place, ← file]
    exact sh.act_refused_or_written here own asks

/-- Behind a file there is no place to write at, so the guest is refused there by all of them. -/
theorem guest_is_refused_behind_a_file :
    let target : Text := "/etc/hostname/motd"
    let line : Text := "echo hi >> /etc/hostname/motd"
    let sh := (guestShell.execute "vi /etc/hostname/motd").2
    let saved := sh.onDesk (Desk.act Machine.host 0 (.execute "w"))
    sh.session.mayWrite target = false ∧
      (∃ fault : WriteFault, (sh.execute line).1 = fault.message target) ∧
      (sh.execute line).2.session.root = sh.session.root ∧
      (∃ last, saved.desk.editor? 0 = some last ∧ last.message =
        some ("\"/etc/hostname/motd\" E212: Can't open file for writing" : Text)) ∧
      saved.session.root = sh.session.root := by
  intro target line sh saved
  have denied : sh.session.mayWrite target = false := by decide +kernel
  have refuses : sh.session.root.refuses (sh.session.placeOf target) = true := by decide +kernel
  have found : (sh.session.registry.get? (commandName line)).map Command.handler =
      some (.job (.tool .echo)) := by
    decide +kernel
  have windows : sh.desk.windows.map (fun window => (window.owner, window.editor.file)) =
      [(sh.machine.number, target)] := by
    decide +kernel
  obtain ⟨command, known, handler⟩ := Option.map_eq_some_iff.mp found
  obtain ⟨window, alone, is⟩ := List.map_eq_singleton_iff.mp windows
  let output : Text := Text.unquote (Text.join [' '] (arguments sh.session line))
  have ran : run (nestedIn nestingLimit) (sh.remembering line) (invocation sh.session line)
      command.handler = (.ok output, sh.remembering line) := by
    rw [handler]
    rfl
  obtain ⟨_, redirects, saves⟩ := only_creations_ask_for_permission denied
  have echoed := redirects line command .append (by decide +kernel) known (by decide +kernel)
  simp only [ran] at echoed
  have echoed := echoed rfl
  rw [if_pos (show (sh.remembering line).session.root.refuses _ = true from refuses)] at echoed
  have file : window.editor.file = target := congrArg Prod.snd is
  have asks : window.editor.asksToSave (.execute "w") = true :=
    show (Directive.ofText "w").saves = true by decide
  have here : sh.desk.windows[0]? = some window := by
    rw [alone]
    rfl
  have refused := saves 0 window (.execute "w") here (congrArg Prod.fst is) file asks
  rw [if_pos refuses] at refused
  obtain ⟨⟨last, shown, message⟩, root⟩ := refused
  refine ⟨denied, echoed.1, echoed.2, ⟨last, shown, ?_⟩, root⟩
  rw [message, Editor.refusalMessage, Editor.quotedFile, file]
  decide +kernel

/-- The guest may not write there, which `touch` says, and yet does. -/
theorem guest_writes_without_the_right :
    let sh := guestShell
    let after := (sh.execute "echo hi > /etc/motd").2
    sh.session.mayWrite "/etc/motd" = false ∧
      (sh.execute "touch /etc/motd").1 =
        ("touch: cannot touch '/etc/motd': Permission denied" : Text) ∧
      (sh.execute "echo hi > /etc/motd").1 = [] ∧
      after.session.root.walk ["etc", "motd"] = some (.file "hi") ∧
      after.session.root ≠ sh.session.root := by
  decide +kernel

end Shell
end PocketShell
