import PocketShell.Proofs.FileTree.Without
import PocketShell.Proofs.Session.Step
import PocketShell.Proofs.Session.Written

/-!
What `rm` takes away. Each target has its turn in the tree that the ones before it have left: it is
taken away if the user may write in the directory where it is looked for, if it is there, and if it
is a file or directories may be removed. So a target may be missing because an earlier one has taken
it along. In the end the tree is the one at the beginning without the places that were taken away,
and something was said about every target, unless less was asked for.
-/

namespace PocketShell

/-- A flag is given by its letter behind the dash of any argument. -/
def FlagGiven (args : List Text) (flag : CodePoint) : Prop :=
  ∃ flags, .char '-' :: flags ∈ args ∧ flag ∈ flags

theorem contains_splitFlags {args : List Text} {flag : CodePoint} :
    (splitFlags args).1.contains flag = true ↔ FlagGiven args flag := by
  simp only [splitFlags, List.contains_iff_mem, List.mem_flatMap, List.mem_filter]
  constructor
  · rintro ⟨arg, ⟨mem, dash⟩, found⟩
    obtain ⟨flags, rfl⟩ := List.head?_eq_some_iff.mp (by simpa using dash)
    exact ⟨flags, mem, found⟩
  · rintro ⟨flags, mem, found⟩
    exact ⟨.char '-' :: flags, ⟨mem, by simp⟩, found⟩

namespace Session

/-- Whether the user may write in the directory where a target is looked for. -/
def mayRemoveIn (s : Session) (target : Text) : Bool :=
  canWrite (Path.parentAndName (s.resolve target)).1 s.user

/-- Where that directory is. -/
def parentPlace (s : Session) (target : Text) : List Text :=
  Path.segments (Path.parentAndName (s.resolve target)).1

/-- The name that is looked for there. -/
def entryName (s : Session) (target : Text) : Text := (Path.parentAndName (s.resolve target)).2

/-- Where the entry is, or would be. -/
def entryPlace (s : Session) (target : Text) : List Text :=
  s.parentPlace target ++ [s.entryName target]

/-- A target can be removed: the user may write in its directory, which has an entry of its name,
and that is a file, or directories may be removed. -/
def Removable (s : Session) (recursive : Bool) (target : Text) : Prop :=
  s.mayRemoveIn target = true ∧ ∃ d node, s.root.walk (s.parentPlace target) = some (.dir d) ∧
    d.get? (s.entryName target) = some node ∧ (node.isDir = true → recursive = true)

variable {s : Session} {recursive : Bool} {target : Text}

theorem removal_eq (s : Session) (recursive : Bool) (target : Text) :
    s.removal recursive target =
      if s.mayRemoveIn target = false then .denied
      else match s.root.walk (s.entryPlace target) with
        | none => .missing
        | some node =>
            if node.isDir && !recursive then .isADirectory
            else .allowed (s.parentPlace target) (s.entryName target) := by
  simp only [removal, mayRemoveIn, entryPlace, parentPlace, entryName, Directory.walk_concat,
    nodeAt]
  cases canWrite (Path.parentAndName (s.resolve target)).1 s.user with
  | false => rfl
  | true =>
      simp only [Bool.not_true, Bool.false_eq_true, if_false, Bool.true_eq_false]
      cases s.root.walk (Path.segments (Path.parentAndName (s.resolve target)).1) with
      | none => rfl
      | some node =>
          cases node with
          | file content => rfl
          | dir d =>
              simp only [Option.bind_some, Node.walk]
              cases d.get? (Path.parentAndName (s.resolve target)).2 <;> rfl

theorem removable_iff : s.Removable recursive target ↔ s.mayRemoveIn target = true ∧
    ∃ node ∈ s.root.walk (s.entryPlace target), node.isDir = true → recursive = true := by
  simp only [Removable, entryPlace, Option.mem_def, Directory.walk_concat_eq_some]
  constructor
  · rintro ⟨allowed, d, node, there, found, kind⟩
    exact ⟨allowed, node, ⟨d, there, found⟩, kind⟩
  · rintro ⟨allowed, node, ⟨d, there, found⟩, kind⟩
    exact ⟨allowed, d, node, there, found, kind⟩

instance (s : Session) (recursive : Bool) (target : Text) :
    Decidable (s.Removable recursive target) := decidable_of_iff' _ removable_iff

theorem removal_of_removable (removable : s.Removable recursive target) :
    s.removal recursive target = .allowed (s.parentPlace target) (s.entryName target) := by
  obtain ⟨allowed, node, found, kind⟩ := removable_iff.mp removable
  have goes : (node.isDir && !recursive) = false := by
    cases isDir : node.isDir with
    | false => rfl
    | true => simp [kind isDir]
  rw [removal_eq, Option.mem_def.mp found]
  simp [allowed, goes]

/-- Why a target was not taken away at its turn. -/
def whyKept (s : Session) (target : Text) : Text :=
  if s.mayRemoveIn target = false then "Permission denied"
  else if (s.root.walk (s.entryPlace target)).isSome then "Is a directory"
  else "No such file or directory"

/-- The session after the turn of a target. -/
def afterTurn (recursive : Bool) (s : Session) (target : Text) : Session :=
  if s.Removable recursive target then
    s.change (s.parentPlace target) (·.erase (s.entryName target))
  else s

/-- The targets, each with the session at its turn. -/
def turns (recursive : Bool) : Session → List Text → List (Session × Text)
  | _, [] => []
  | s, target :: targets => (s, target) :: turns recursive (s.afterTurn recursive target) targets

/-- The turns that took their targets away. -/
def taken (recursive : Bool) (turns : List (Session × Text)) : List (Session × Text) :=
  turns.filter fun turn => turn.1.Removable recursive turn.2

/-- The other ones. -/
def kept (recursive : Bool) (turns : List (Session × Text)) : List (Session × Text) :=
  turns.filter fun turn => ¬turn.1.Removable recursive turn.2

def removalNote (turn : Session × Text) : Text := "removed '" ++ turn.2 ++ "'"

def refusalNote (turn : Session × Text) : Text :=
  complaint "rm" "cannot remove" turn.2 (turn.1.whyKept turn.2)

/-- What is said of the targets that were taken away. -/
def removals (options : RemoveOptions) (turns : List (Session × Text)) : List Text :=
  if options.verbose then (taken options.recursive turns).map removalNote else []

/-- What is said of the other ones; by force, only that the user may not remove them. -/
def refusals (options : RemoveOptions) (turns : List (Session × Text)) : List Text :=
  ((kept options.recursive turns).filter fun turn =>
    options.force = true → turn.1.mayRemoveIn turn.2 = false).map refusalNote

theorem removal_of_not_removable (stays : ¬s.Removable recursive target) :
    s.mayRemoveIn target = false ∧ s.removal recursive target = .denied ∧
        s.whyKept target = "Permission denied" ∨
      s.mayRemoveIn target = true ∧
        (s.removal recursive target = .missing ∧ s.whyKept target = "No such file or directory" ∨
          s.removal recursive target = .isADirectory ∧ s.whyKept target = "Is a directory") := by
  rw [removable_iff] at stays
  rw [removal_eq, whyKept]
  cases allowed : s.mayRemoveIn target with
  | false => exact .inl ⟨rfl, rfl, rfl⟩
  | true =>
      refine .inr ⟨rfl, ?_⟩
      cases found : s.root.walk (s.entryPlace target) with
      | none => exact .inl ⟨rfl, rfl⟩
      | some node =>
          rw [allowed, found] at stays
          have kind : (node.isDir && !recursive) = true := by simpa using stays
          refine .inr ⟨?_, rfl⟩
          simp only [Bool.true_eq_false, if_false, kind, if_true]

variable {options : RemoveOptions}

theorem said_of_removable (removable : s.Removable options.recursive target) :
    removals options [(s, target)] = (if options.verbose then [removalNote (s, target)] else []) ∧
      refusals options [(s, target)] = [] := by
  have gone : taken options.recursive [(s, target)] = [(s, target)] := by simp [taken, removable]
  have none_kept : kept options.recursive [(s, target)] = [] := by simp [kept, removable]
  rw [removals, refusals, gone, none_kept]
  exact ⟨rfl, rfl⟩

theorem said_of_not_removable (stays : ¬s.Removable options.recursive target) :
    removals options [(s, target)] = [] ∧
      refusals options [(s, target)] =
        if options.force = true → s.mayRemoveIn target = false then [refusalNote (s, target)]
        else [] := by
  have none_gone : taken options.recursive [(s, target)] = [] := by simp [taken, stays]
  have one_kept : kept options.recursive [(s, target)] = [(s, target)] := by simp [kept, stays]
  rw [removals, refusals, none_gone, one_kept, List.map_nil, ite_self, List.filter_cons,
    List.filter_nil]
  refine ⟨rfl, ?_⟩
  by_cases heard : options.force = true → s.mayRemoveIn target = false
  · rw [if_pos heard, if_pos (decide_eq_true heard), List.map_singleton]
  · rw [if_neg heard, if_neg (by simpa using heard), List.map_nil]

/-- One turn changes the session as it may and adds what is said of its target. -/
theorem removeOne_eq (options : RemoveOptions) (run : RemoveRun) (target : Text) :
    removeOne options run target =
      { session := run.session.afterTurn options.recursive target
        removed := run.removed ++ removals options [(run.session, target)]
        errors := run.errors ++ refusals options [(run.session, target)] } := by
  by_cases removable : run.session.Removable options.recursive target
  · obtain ⟨spoken, silent⟩ := said_of_removable removable
    rw [removeOne, removal_of_removable removable, spoken, silent, afterTurn, if_pos removable,
      List.append_nil]
    cases options.verbose with
    | false => rw [if_neg Bool.false_ne_true, if_neg Bool.false_ne_true, List.append_nil]
    | true => rfl
  · obtain ⟨silent, spoken⟩ := said_of_not_removable removable
    rw [silent, spoken, afterTurn, if_neg removable, removeOne, List.append_nil, refusalNote]
    rcases removal_of_not_removable removable with ⟨denied, refused, why⟩ | ⟨allowed, fault⟩
    · rw [refused, if_pos fun _ => denied, why]
    · have muted : (options.force = true → run.session.mayRemoveIn target = false) ↔
          ¬options.force = true := by simp [allowed]
      simp only [muted]
      rcases fault with ⟨refused, why⟩ | ⟨refused, why⟩
      all_goals
        rw [refused, why]
        dsimp only
        by_cases force : options.force = true
        · rw [if_pos force, if_neg (not_not_intro force), List.append_nil]
        · rw [if_neg force, if_pos force]

theorem removals_append (options : RemoveOptions) (first second : List (Session × Text)) :
    removals options (first ++ second) = removals options first ++ removals options second := by
  rw [removals, taken, List.filter_append, List.map_append]
  cases verbose : options.verbose <;> simp [removals, taken, verbose]

theorem refusals_append (options : RemoveOptions) (first second : List (Session × Text)) :
    refusals options (first ++ second) = refusals options first ++ refusals options second := by
  rw [refusals, kept, List.filter_append, List.filter_append, List.map_append, refusals, refusals,
    kept, kept]

/-- All turns together. -/
theorem foldl_removeOne (options : RemoveOptions) (targets : List Text) (run : RemoveRun) :
    targets.foldl (removeOne options) run =
      { session := targets.foldl (afterTurn options.recursive) run.session
        removed := run.removed ++
          removals options (turns options.recursive run.session targets)
        errors := run.errors ++
          refusals options (turns options.recursive run.session targets) } := by
  induction targets generalizing run with
  | nil =>
      have silent : removals options [] = [] := ite_self []
      rw [turns, silent, List.append_nil]
      exact congrArg (RemoveRun.mk run.session run.removed) (List.append_nil run.errors).symm
  | cons target targets ih =>
      rw [List.foldl_cons, List.foldl_cons, ih, removeOne_eq, turns]
      generalize turns options.recursive _ targets = later
      have parts : (run.session, target) :: later = [(run.session, target)] ++ later := rfl
      rw [parts, removals_append, refusals_append, List.append_assoc, List.append_assoc]

theorem turns_targets (recursive : Bool) (s : Session) (targets : List Text) :
    (turns recursive s targets).map Prod.snd = targets := by
  induction targets generalizing s with
  | nil => rfl
  | cons target targets ih => exact congrArg (target :: ·) (ih _)

/-- Every turn took its target away or kept it. -/
theorem length_taken_kept (recursive : Bool) (turns : List (Session × Text)) :
    (taken recursive turns).length + (kept recursive turns).length = turns.length := by
  have parted := turns.length_eq_countP_add_countP
    fun turn => decide (turn.1.Removable recursive turn.2)
  simp only [List.countP_eq_length_filter, decide_eq_true_eq] at parted
  exact parted.symm

/-- The places that the turns took away. -/
def lostPlaces (recursive : Bool) (turns : List (Session × Text)) : List (List Text) :=
  (taken recursive turns).map fun turn => turn.1.entryPlace turn.2

theorem lostPlaces_cons (recursive : Bool) (s : Session) (target : Text)
    (turns : List (Session × Text)) :
    lostPlaces recursive ((s, target) :: turns) =
      if s.Removable recursive target then s.entryPlace target :: lostPlaces recursive turns
      else lostPlaces recursive turns := by
  rw [lostPlaces, taken, List.filter_cons]
  simp only [decide_eq_true_eq, lostPlaces, taken]
  split <;> rfl

/-- A turn that takes a target away takes its place from the tree, and no other one. -/
theorem afterTurn_eq (distinct : s.root.Distinct) (removable : s.Removable recursive target) :
    s.afterTurn recursive target =
      { s with root := s.root.without fun place => decide (place = s.entryPlace target) } := by
  rw [afterTurn, if_pos removable, change, Directory.modify_erase_eq_without distinct, entryPlace]

theorem distinct_afterTurn (distinct : s.root.Distinct) :
    (s.afterTurn recursive target).root.Distinct := by
  rw [afterTurn]
  split
  · exact Directory.wellNamed_modify _ (fun d => d.wellNamed_erase _) s.root _ distinct
  · exact distinct

/-- After all turns the tree is without what each of them took away. -/
theorem foldl_afterTurn (distinct : s.root.Distinct) (targets : List Text) :
    targets.foldl (afterTurn recursive) s =
      { s with root := s.root.without fun place =>
          decide (place ∈ lostPlaces recursive (turns recursive s targets)) } := by
  induction targets generalizing s with
  | nil =>
      have stays := s.root.without_never
      simp [turns, lostPlaces, taken, stays]
  | cons target targets ih =>
      rw [List.foldl_cons, ih (distinct_afterTurn distinct), turns, lostPlaces_cons]
      by_cases removable : s.Removable recursive target
      · rw [if_pos removable]
        generalize lostPlaces recursive _ = later
        rw [afterTurn_eq distinct removable]
        simp only [Directory.without_without, List.mem_cons, Bool.decide_or]
      · rw [if_neg removable, afterTurn, if_neg removable]

theorem lostPlaces_ne_nil {turns : List (Session × Text)} {place : List Text}
    (lost : place ∈ lostPlaces recursive turns) : place ≠ [] := by
  obtain ⟨turn, _, rfl⟩ := List.mem_map.mp lost
  simp [entryPlace]

/-- By force nothing is said of a target that the user may remove. -/
theorem refusals_by_force (force : options.force = true) {turns : List (Session × Text)}
    {error : Text} (said : error ∈ refusals options turns) :
    ∃ turn ∈ kept options.recursive turns, turn.1.mayRemoveIn turn.2 = false ∧
      error = complaint "rm" "cannot remove" turn.2 "Permission denied" := by
  obtain ⟨turn, heard, rfl⟩ := List.mem_map.mp said
  obtain ⟨stayed, denied⟩ := List.mem_filter.mp heard
  have denied : turn.1.mayRemoveIn turn.2 = false := of_decide_eq_true denied force
  refine ⟨turn, stayed, denied, ?_⟩
  rw [refusalNote, whyKept, if_pos denied]

theorem removals_verbose (verbose : options.verbose = true) (turns : List (Session × Text)) :
    removals options turns = (taken options.recursive turns).map removalNote := if_pos verbose

theorem refusals_unforced (unforced : options.force = false) (turns : List (Session × Text)) :
    refusals options turns = (kept options.recursive turns).map refusalNote := by
  rw [refusals, List.filter_eq_self.mpr fun turn _ => by simp [unforced]]

theorem remove_eq (args : List Text) (given : (splitFlags args).2 ≠ []) :
    let options := RemoveOptions.ofFlags (splitFlags args).1
    let targets := (splitFlags args).2
    let turns := turns options.recursive s targets
    s.remove args = (Text.unlines (removals options turns ++ refusals options turns),
      targets.foldl (afterTurn options.recursive) s) := by
  intro options targets turns
  have some_target : targets.isEmpty = false := by simpa using given
  change (if targets.isEmpty then _ else _) = _
  rw [some_target, if_neg Bool.false_ne_true, foldl_removeOne]
  simp only [List.nil_append]
  rfl

/-- Every target of `rm` has its turn, from left to right. It is taken away exactly if it can be
removed then, and of the session nothing but the tree changes, which in the end is without the
places of the targets that were taken away. What was taken away is listed first if that was asked
for, and then what was not and why; by force, only if the user may not remove it. -/
theorem remove_accounts_for_every_target (s : Session) (distinct : s.root.Distinct)
    (args : List Text) (given : (splitFlags args).2 ≠ []) (now : Moment) (piped : Bool) :
    let options := RemoveOptions.ofFlags (splitFlags args).1
    let targets := (splitFlags args).2
    let turns := turns options.recursive s targets
    let taken := taken options.recursive turns
    let kept := kept options.recursive turns
    let places := taken.map fun turn => turn.1.entryPlace turn.2
    let result := s.use now .rm args piped
    (options.recursive = true ↔ FlagGiven args 'r' ∨ FlagGiven args 'R') ∧
    (options.force = true ↔ FlagGiven args 'f') ∧
    (options.verbose = true ↔ FlagGiven args 'v') ∧
    turns.map Prod.snd = targets ∧
    result.2 = targets.foldl (afterTurn options.recursive) s ∧
    result.2 = { s with root := s.root.without fun place => decide (place ∈ places) } ∧
    Directory.Loses places s.root result.2.root ∧
    ∃ removals errors, result.1 = Text.unlines (removals ++ errors) ∧
      removals = (if options.verbose then taken.map removalNote else []) ∧
      (options.force = false → errors = kept.map refusalNote) ∧
      (options.verbose = true → options.force = false →
        removals.length + errors.length = targets.length) ∧
      (options.force = true → ∀ error ∈ errors, ∃ turn ∈ kept,
        turn.1.mayRemoveIn turn.2 = false ∧
          error = complaint "rm" "cannot remove" turn.2 "Permission denied") := by
  intro options targets turns taken kept places result
  have result_eq : result = (Text.unlines (removals options turns ++ refusals options turns),
      targets.foldl (afterTurn options.recursive) s) := remove_eq args given
  have session_eq : targets.foldl (afterTurn options.recursive) s =
      { s with root := s.root.without fun place => decide (place ∈ places) } :=
    foldl_afterTurn distinct targets
  have all_said : turns.map Prod.snd = targets := turns_targets options.recursive s targets
  refine ⟨?_, contains_splitFlags, contains_splitFlags, all_said, by rw [result_eq],
    by rw [result_eq, session_eq], ?_, removals options turns, refusals options turns,
    by rw [result_eq], rfl, fun unforced => refusals_unforced unforced turns, ?_,
    fun force error said => refusals_by_force force said⟩
  · rw [← contains_splitFlags, ← contains_splitFlags]
    exact Bool.or_eq_true_iff
  · rw [result_eq, session_eq]
    exact s.root.loses_without fun place lost => lostPlaces_ne_nil lost
  · intro verbose unforced
    rw [removals_verbose verbose, refusals_unforced unforced, List.length_map, List.length_map,
      length_taken_kept, ← all_said, List.length_map]

/-- Alice in a directory of hers, with a note in it. -/
def inNotes : Session :=
  let notes : Node := .dir (.cons "plan" (.file "tea\n") .nil)
  let home : Node := .dir (.cons "alice" (.dir (.cons "notes" notes .nil)) .nil)
  let etc : Node := .dir (.cons "hostname" (.file "shop\n") .nil)
  Session.start (.cons "home" home (.cons "etc" etc .nil)) "alice" "/home/alice/notes"

/-- The first target takes along the second one, and the third one is not hers. -/
theorem removing_a_directory_takes_the_note_along :
    let args : List Text := ["-rv", "../notes", "plan", "/etc/hostname"]
    let result := inNotes.use default .rm args false
    inNotes.root.Distinct ∧ (splitFlags args).2 ≠ [] ∧
    Directory.Loses [["home", "alice", "notes"]] inNotes.root result.2.root ∧
    result.2.root.walk ["home", "alice", "notes", "plan"] = none ∧
    result.1 = Text.unlines ["removed '../notes'",
      "rm: cannot remove 'plan': No such file or directory",
      "rm: cannot remove '/etc/hostname': Permission denied"] := by
  intro args result
  have distinct : inNotes.root.Distinct := by
    simp [inNotes, Session.start, Directory.Distinct, Directory.WellNamed, Node.WellNamed,
      Directory.get?]
  have given : (splitFlags args).2 ≠ [] := by decide +kernel
  obtain ⟨_, _, _, _, _, _, loses, _⟩ :=
    remove_accounts_for_every_target inNotes distinct args given default false
  let lost : List (List Text) := [["home", "alice", "notes"]]
  have places : lostPlaces true (turns true inNotes (splitFlags args).2) = lost := by
    decide +kernel
  have loses : Directory.Loses lost inNotes.root result.2.root := places ▸ loses
  refine ⟨distinct, given, loses, loses.lost (List.mem_singleton_self _) ?_, by decide +kernel⟩
  exact ⟨["plan"], rfl⟩

end Session
end PocketShell
