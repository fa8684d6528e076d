import PocketShell.Session.Tools

/-!
What no tool looks at. The lines entered so far are shown by `history` and read by nothing else,
and the stem of the checkpoint keys is for the shell around the session alone. With others in
their place a session therefore does the same: whatever its tools give, and whatever they change,
they give and change it all the same. `ls` also asks whether a filter follows.
-/

namespace PocketShell

namespace Session

/-- The same session with other lines behind it, and with another stem. -/
def tuned (s : Session) (history : List Text → List Text) (stem : Option Text → Option Text) :
    Session :=
  { s with history := history s.history, stem := stem s.stem }

def withHistory (s : Session) (history : List Text) : Session := { s with history := history }

/-- The same session with its checkpoints under another stem, or without any. -/
def under (s : Session) (stem : Option Text) : Session := { s with stem := stem }

end Session

def RemoveRun.tuned (run : RemoveRun) (history : List Text → List Text)
    (stem : Option Text → Option Text) : RemoveRun :=
  { run with session := run.session.tuned history stem }

namespace Session

section Tuned

variable (s : Session) (history : List Text → List Text) (stem : Option Text → Option Text)

theorem write_tuned (file content : Text) (mode : WriteMode) :
    (s.tuned history stem).write file content mode =
      (s.write file content mode).map (·.tuned history stem) := by
  simp only [write]
  have resolve : (s.tuned history stem).resolve file = s.resolve file := rfl
  have root : (s.tuned history stem).root = s.root := rfl
  rw [resolve, root]
  generalize Path.parentAndName (s.resolve file) = parts
  obtain ⟨parent, name⟩ := parts
  dsimp only
  split
  · rfl
  · split
    · rfl
    · split <;> rfl

theorem makeDirectory_tuned (target : Text) :
    (s.tuned history stem).makeDirectory target =
      (s.makeDirectory target).map (·.tuned history stem) := by
  have entry : (s.tuned history stem).newEntry target = s.newEntry target := rfl
  simp only [makeDirectory, entry]
  split
  · rfl
  · split <;> rfl

theorem touch_tuned (target : Text) :
    (s.tuned history stem).touch target = (s.touch target).map (·.tuned history stem) := by
  have entry : (s.tuned history stem).newEntry target = s.newEntry target := rfl
  simp only [touch, entry]
  split
  · rfl
  · split <;> rfl

theorem created_tuned (tool action target : Text) (result : Except CreateFault Session) :
    (s.tuned history stem).created tool action target (result.map (·.tuned history stem)) =
      (s.created tool action target result).map id (·.tuned history stem) := by
  cases result <;> rfl

theorem removeOne_tuned (options : RemoveOptions) (run : RemoveRun) (target : Text) :
    removeOne options (run.tuned history stem) target =
      (removeOne options run target).tuned history stem := by
  have removal : (run.tuned history stem).session.removal options.recursive target =
      run.session.removal options.recursive target := rfl
  simp only [removeOne, removal]
  split
  · rfl
  · split <;> rfl
  · split <;> rfl
  · rfl

theorem removeAll_tuned (options : RemoveOptions) (run : RemoveRun) (targets : List Text) :
    targets.foldl (removeOne options) (run.tuned history stem) =
      (targets.foldl (removeOne options) run).tuned history stem := by
  induction targets generalizing run with
  | nil => rfl
  | cons target targets ih =>
      rw [List.foldl_cons, removeOne_tuned]
      exact ih _

theorem remove_tuned (args : List Text) :
    (s.tuned history stem).remove args = (s.remove args).map id (·.tuned history stem) := by
  simp only [remove]
  generalize splitFlags args = parts
  obtain ⟨flags, targets⟩ := parts
  cases targets with
  | nil => rfl
  | cons target targets =>
      have run := removeAll_tuned history stem (.ofFlags flags) { session := s }
        (target :: targets)
      simp only [RemoveRun.tuned] at run
      simp only [List.isEmpty_cons, Bool.false_eq_true, if_false, run, Prod.map, id]

theorem changeDirectory_tuned (target : Text) :
    (s.tuned history stem).changeDirectory target =
      (s.changeDirectory target).map id (·.tuned history stem) := by
  have node : (s.tuned history stem).nodeAt ((s.tuned history stem).resolve target) =
      s.nodeAt (s.resolve target) := rfl
  simp only [changeDirectory, node]
  split <;> rfl

theorem restoreUser_tuned :
    (s.tuned history stem).restoreUser = s.restoreUser.map id (·.tuned history stem) := by
  have stack : (s.tuned history stem).userStack = s.userStack := rfl
  simp only [restoreUser, stack]
  cases s.userStack <;> rfl

theorem leaveUser_tuned :
    (s.tuned history stem).leaveUser = s.leaveUser.map id (·.tuned history stem) := by
  simp only [leaveUser, restoreUser_tuned]
  obtain ⟨mark, left⟩ := s.restoreUser
  cases mark <;> rfl

/-- No tool sees the stem, only `history` the lines entered, and only `ls` the filter. -/
theorem use_tuned (now : Moment) {tool : Tool} (args : List Text) (piped piped' : Bool)
    (same_lines : tool = .history → history s.history = s.history)
    (same_filter : tool = .ls → piped' = piped) :
    (s.tuned history stem).use now tool args piped' =
      (s.use now tool args piped).map id (·.tuned history stem) := by
  cases tool with
  | history =>
      have shown : (s.tuned history stem).historyText = s.historyText := by
        rw [historyText, historyText, tuned, same_lines rfl]
      exact congrArg (·, s.tuned history stem) shown
  | ls =>
      rw [same_filter rfl]
      rfl
  | help | cat => cases args <;> rfl
  | clear | echo | whoami | date | uname | env | ps | pwd | tree => rfl
  | cd =>
      cases args with
      | nil => rfl
      | cons target rest => exact changeDirectory_tuned s history stem target
  | mkdir =>
      cases args with
      | nil => rfl
      | cons target rest =>
          exact (congrArg _ (makeDirectory_tuned s history stem target)).trans
            (created_tuned s history stem _ _ target _)
  | touch =>
      cases args with
      | nil => rfl
      | cons target rest =>
          exact (congrArg _ (touch_tuned s history stem target)).trans
            (created_tuned s history stem _ _ target _)
  | rm => exact remove_tuned s history stem args
  | su => cases args <;> rfl
  | exit => exact leaveUser_tuned s history stem

end Tuned

variable (s : Session)

theorem write_withHistory (history : List Text) (file content : Text) (mode : WriteMode) :
    (s.withHistory history).write file content mode =
      (s.write file content mode).map (·.withHistory history) :=
  write_tuned s (fun _ => history) id file content mode

theorem write_under (stem : Option Text) (file content : Text) (mode : WriteMode) :
    (s.under stem).write file content mode = (s.write file content mode).map (·.under stem) :=
  write_tuned s id (fun _ => stem) file content mode

/-- A tool that neither shows the lines entered nor asks for a filter does not see either. -/
theorem use_withHistory (history : List Text) (now : Moment) {tool : Tool} (args : List Text)
    (piped piped' : Bool) (not_history : tool ≠ .history) (not_ls : tool ≠ .ls) :
    (s.withHistory history).use now tool args piped' =
      (s.use now tool args piped).map id (·.withHistory history) :=
  use_tuned s (fun _ => history) id now args piped piped' (absurd · not_history) (absurd · not_ls)

theorem restoreUser_under (stem : Option Text) :
    (s.under stem).restoreUser = s.restoreUser.map id (·.under stem) :=
  restoreUser_tuned s id fun _ => stem

theorem use_under (stem : Option Text) (now : Moment) (tool : Tool) (args : List Text)
    (piped : Bool) :
    (s.under stem).use now tool args piped =
      (s.use now tool args piped).map id (·.under stem) :=
  use_tuned s id (fun _ => stem) now args piped piped (fun _ => rfl) fun _ => rfl

end Session
end PocketShell
