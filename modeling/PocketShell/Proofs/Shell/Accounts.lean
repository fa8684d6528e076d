import PocketShell.Proofs.Shell.Event

/-!
Users in a shell. However a session has begun, its environment says at every moment who its user
is, where that user is at home and where the session is; the entries on the stack say it too. `su`
and `exit` are like brackets: between the two, the stack below is left as it is, so the exit that
belongs to a switch brings back the account that the switch has found.
-/

namespace PocketShell.Shell

variable {σ : Type} [KeyValueStore σ]

/-- A session begins with its shell, or in the place of another session. -/
inductive Begun : Shell σ → Prop
  | start {options : StartOptions} {store : σ} {clock : Moment} {desk : Desk} {first : Shell σ} :
      Shell.start options store clock desk = .ok first → Begun first
  | restart {options : StartOptions} {sh second : Shell σ} :
      sh.restart options = .ok second → Begun second

theorem Begun.session_eq {first : Shell σ} (begun : Begun first) :
    ∃ options saved, first.session = Session.launch options saved := by
  cases begun with
  | @start options store clock desk first started =>
      simp only [Shell.start] at started
      split at started
      · cases started
      · next saved _ _ _ =>
        cases started
        exact ⟨options, saved, rfl⟩
  | @restart options sh second started =>
      simp only [Shell.restart] at started
      split at started
      · cases started
      · next saved _ _ _ =>
        cases started
        exact ⟨options, saved, rfl⟩

theorem launch_coherent (options : StartOptions) (saved : Option SavedState) :
    (Session.launch options saved).account.Coherent := by
  obtain ⟨registry, launched⟩ := launch_eq options saved
  have nobody : ∀ u ∈ ([] : List UserState), u.home = homeFor u.user := by simp
  rw [launched]
  cases saved <;> exact ⟨rfl, nobody⟩

theorem coherent_handleAll {sh : Shell σ} (h : sh.session.account.Coherent) (events : List Event) :
    (sh.handleAll events).session.account.Coherent := by
  induction events generalizing sh with
  | nil => exact h
  | cons event events ih => exact ih (h.turn (sh.handle_turn event))

theorem Begun.coherent {first : Shell σ} (begun : Begun first) (events : List Event) :
    (first.handleAll events).session.account.Coherent := by
  obtain ⟨options, saved, same⟩ := begun.session_eq
  have launched := launch_coherent options saved
  rw [← same] at launched
  exact coherent_handleAll launched events

/-- Whatever has happened in a session since it has begun, its environment agrees with it. -/
theorem environment_agrees {first : Shell σ} (begun : Begun first) (events : List Event) :
    let s := (first.handleAll events).session
    s.environment.user = s.user ∧ s.environment.home = homeFor s.user ∧
      s.environment.workingDirectory = s.path ∧
      s.environment.searchPath = ("/usr/local/bin:/usr/bin:/bin" : Text) ∧
      s.environment.shell = ("/bin/bash" : Text) ∧
      ∀ u ∈ s.userStack, u.home = homeFor u.user := by
  intro s
  obtain ⟨environment, homes⟩ := begun.coherent events
  have started : s.environment = .start s.user s.path := environment
  rw [started]
  exact ⟨rfl, rfl, rfl, rfl, rfl, homes⟩

/-- The guest turns into root in the home of alice. -/
theorem root_agrees_in_alice_home :
    let events : List Event := [.switchUser "alice", .execute default "cd ~/..",
      .execute default "mkdir alice", .execute default "cd ~", .execute default "sudo su"]
    let s := (guestShell.handleAll events).session
    Begun guestShell ∧ s.path = ("/home/alice" : Text) ∧
      s.environment.user = s.user ∧ s.environment.home = homeFor s.user ∧
      s.environment.workingDirectory = s.path ∧
      s.environment.searchPath = ("/usr/local/bin:/usr/bin:/bin" : Text) ∧
      s.environment.shell = ("/bin/bash" : Text) ∧
      ∀ u ∈ s.userStack, u.home = homeFor u.user := by
  intro events s
  have started : Shell.start guestOptions ({} : MemoryStore) default {} = .ok guestShell := rfl
  have begun : Begun guestShell := .start started
  have there : s.path = ("/home/alice" : Text) := by decide +kernel
  exact ⟨begun, there, environment_agrees begun events⟩

/-- The job that a line has done, with its name and arguments: that of its command, or what stands
behind `sudo`. -/
def jobOf (s : Session) (line : Text) : Option (Job × Text × List Text) :=
  if line.all isBlank then none
  else match (s.registry.get? (commandName line)).map Command.handler with
    | none => none
    | some (.job job) => some (job, commandName line, arguments s line)
    | some .sudo => (s.registry.behindSudo (arguments s line)).getRight?

/-- The redirect that an event has, if it is a line with one. -/
def Event.redirect? : Event → Option Redirect
  | .execute _ line => (Stages.ofLine line).redirect
  | _ => none

/-- An event that switches to a user: a line that comes to `su`, or a call. -/
inductive Switches (s : Session) (user : Text) : Event → Prop
  | line (now : Moment) {line name : Text} {args : List Text} :
      jobOf s line = some (.tool .su, name, args) → args.headD rootUser = user →
      Switches s user (.execute now line)
  | call : Switches s user (.switchUser user)

/-- An event that leaves a user: a line that comes to `exit`, or a call. -/
inductive Leaves (s : Session) : Event → Prop
  | line (now : Moment) {line name : Text} {args : List Text} :
      jobOf s line = some (.tool .exit, name, args) → Leaves s (.execute now line)
  | call : Leaves s .restoreUser

theorem execute_of_tool (sh : Shell σ) {line name : Text} {tool : Tool} {args : List Text}
    (runs : jobOf sh.session line = some (.tool tool, name, args)) :
    let used := (sh.session.remember line).use sh.machine.clock tool args
      (Stages.ofLine line).filter.isSome
    ∃ output, (sh.execute line).2 =
      ((sh.withSession used.2).deliver output (Stages.ofLine line).redirect).2 := by
  intro used
  refine ⟨filtered (Stages.ofLine line).filter used.1, ?_⟩
  simp only [jobOf] at runs
  split at runs
  · cases runs
  · next words =>
    rw [Bool.not_eq_true] at words
    split at runs
    · cases runs
    · next job found =>
      cases runs
      obtain ⟨command, known, handler⟩ := Option.map_eq_some_iff.mp found
      rw [execute_eq, executeWith_of_known _ sh words known, handler]
      rfl
    · next found =>
      obtain ⟨command, known, handler⟩ := Option.map_eq_some_iff.mp found
      have behind : (sh.remembering line).session.registry.behindSudo
          (invocation sh.session line).args = .inr (.tool tool, name, args) :=
        Sum.getRight?_eq_some_iff.mp runs
      rw [execute_eq, executeWith_of_known _ sh words known, handler]
      simp only [run, behind]
      rfl

/-- Apart from what its redirect writes, an event has left the tree alone. -/
def KeepsTree (sh : Shell σ) (event : Event) : Prop :=
  (event.redirect? = none → (sh.handle event).session.root = sh.session.root) ∧
    ∀ r ∈ event.redirect?, Directory.SameApart ((sh.handle event).session.placeOf r.target)
      sh.session.root (sh.handle event).session.root

theorem placeOf_of_account {s t : Session} (same : s.account = t.account) (path : Text) :
    s.placeOf path = t.placeOf path := by
  simp only [Session.account, Account.mk.injEq] at same
  simp only [Session.placeOf, Session.resolve, same]

theorem deliver_root (sh : Shell σ) (output : Text) (redirect : Option Redirect) :
    let last := (sh.deliver output redirect).2
    (redirect = none → last.session.root = sh.session.root) ∧
      ∀ r ∈ redirect, Directory.SameApart (last.session.placeOf r.target) sh.session.root
        last.session.root := by
  intro last
  have account : last.session.account = sh.session.account :=
    (sh.aside_deliver output redirect).account
  cases redirect with
  | none => exact ⟨fun _ => congrArg Session.root sh.checkpoint_session, by simp⟩
  | some redirect =>
      refine ⟨by simp, fun r mem => ?_⟩
      cases Option.some.inj mem
      rw [placeOf_of_account account]
      simp only [last, deliver]
      split
      · exact Directory.sameApart_refl _ _
      · next s written =>
        rw [checkpoint_session]
        exact Session.write_sameApart written

/-- A line turns the account as its tool does, and apart from its redirect it leaves the tree alone
if the tool does. -/
theorem handle_of_tool (sh : Shell σ) (now : Moment) {line name : Text} {tool : Tool}
    {args : List Text} (runs : jobOf sh.session line = some (.tool tool, name, args)) {a : Account}
    (used : ∀ s : Session, s.account = sh.session.account → ∀ piped,
      (s.use now tool args piped).2.account = a ∧ (s.use now tool args piped).2.root = s.root) :
    (sh.handle (.execute now line)).session.account = a ∧ sh.KeepsTree (.execute now line) := by
  obtain ⟨account, root⟩ := used (sh.session.remember line) rfl (Stages.ofLine line).filter.isSome
  obtain ⟨output, executed⟩ := (sh.atMoment now).execute_of_tool runs
  obtain ⟨ran, same, kept, executed⟩ : ∃ ran : Shell σ, ran.session.account = a ∧
      ran.session.root = sh.session.root ∧
      sh.handle (.execute now line) = (ran.deliver output (Stages.ofLine line).redirect).2 :=
    ⟨(sh.atMoment now).withSession _, account, root, executed⟩
  have tree := ran.deliver_root output (Stages.ofLine line).redirect
  rw [kept] at tree
  simp only [KeepsTree, executed]
  exact ⟨(ran.aside_deliver _ _).account.trans same, tree⟩

theorem handle_switch {sh : Shell σ} {user : Text} {event : Event}
    (switches : Switches sh.session user event) :
    (sh.handle event).session.account = (sh.session.switchUser user).2.account ∧
      sh.KeepsTree event := by
  cases switches with
  | call => exact ⟨rfl, fun _ => rfl, by simp [Event.redirect?]⟩
  | @line now line name args runs named =>
      refine sh.handle_of_tool now runs fun s same piped => ?_
      have used : s.use now .su args piped = s.switchUser user := by
        rw [← named]
        cases args <;> rfl
      rw [used]
      exact ⟨Session.switchUser_account same user, rfl⟩

theorem handle_leave {sh : Shell σ} {event : Event} (leaves : Leaves sh.session event) :
    (sh.handle event).session.account = sh.session.restoreUser.2.account ∧ sh.KeepsTree event := by
  cases leaves with
  | call => exact ⟨rfl, fun _ => sh.session.restoreUser_root, by simp [Event.redirect?]⟩
  | @line now line name args runs =>
      refine sh.handle_of_tool now runs fun s same piped => ?_
      have used : (s.use now .exit args piped).2 = s.restoreUser.2 := s.leaveUser_session
      rw [used]
      exact ⟨Session.restoreUser_account same, s.restoreUser_root⟩

/-- On the way through the events the stack never gets shorter than the given height. -/
def StaysUp (sh : Shell σ) (height : Nat) (events : List Event) : Prop :=
  ∀ run, run <+: events → height ≤ (sh.handleAll run).session.userStack.length

instance (sh : Shell σ) (height : Nat) (events : List Event) :
    Decidable (sh.StaysUp height events) := by
  refine decidable_of_iff (∀ n < events.length + 1,
    height ≤ (sh.handleAll (events.take n)).session.userStack.length) ⟨fun each run on_way => ?_,
      fun high n _ => high _ (List.take_prefix n events)⟩
  rw [List.prefix_iff_eq_take.mp on_way]
  exact each run.length (Nat.lt_succ_of_le on_way.length_le)

/-- Events leave what lies on the stack alone if they never make the stack shorter than that. -/
theorem suffix_handleAll {sh : Shell σ} {base : List UserState}
    (below : base <:+ sh.session.userStack) {events : List Event}
    (high : sh.StaysUp base.length events) : base <:+ (sh.handleAll events).session.userStack := by
  induction events generalizing sh with
  | nil => exact below
  | cons event events ih =>
      have first : base.length ≤ (sh.handle event).session.userStack.length :=
        high [event] (List.prefix_append [event] events)
      refine ih (Account.suffix_of_turn (sh.handle_turn event) below first) fun run on_way => ?_
      exact high (event :: run) (List.cons_prefix_cons.mpr ⟨rfl, on_way⟩)

/-- The exit that takes the stack below the height to which a switch has brought it gives the
session back the account that the switch has found: user, path, environment and stack. An exit above
that height belongs to a later switch, and one on an empty stack changes nothing. Apart from what
their redirects write, neither switches nor exits touch the tree. -/
theorem exit_ends_its_switch {first : Shell σ} (begun : Begun first) (past : List Event) :
    let sh := first.handleAll past
    (∀ user switch events leave, Switches sh.session user switch →
      let switched := sh.handle switch
      let before := switched.handleAll events
      let after := before.handle leave
      switched.StaysUp switched.session.userStack.length events →
      Leaves before.session leave →
      (before.session.userStack.length = switched.session.userStack.length →
        after.session.account = sh.session.account) ∧
      (switched.session.userStack.length < before.session.userStack.length →
        switched.session.userStack.length ≤ after.session.userStack.length)) ∧
    (∀ leave, Leaves sh.session leave → sh.session.userStack = [] →
      (sh.handle leave).session.account = sh.session.account) ∧
    ∀ event, (∃ user, Switches sh.session user event) ∨ Leaves sh.session event →
      sh.KeepsTree event := by
  intro sh
  refine ⟨?_, fun leave leaves empty => ?_, ?_⟩
  · intro user switch events leave switches switched before after high leaves
    have pushed : switched.session.userStack =
        ⟨sh.session.user, sh.session.environment.home, sh.session.path⟩ :: sh.session.userStack :=
      congrArg Account.userStack (handle_switch switches).1
    have kept : switched.session.userStack <:+ before.session.userStack :=
      suffix_handleAll (List.suffix_refl _) high
    refine ⟨fun level => ?_, fun above => ?_⟩
    · have stack := (kept.eq_of_length level.symm).symm.trans pushed
      have left : after.session.account = before.session.restoreUser.2.account :=
        (handle_leave leaves).1
      have found : sh.session.account.Coherent := begun.coherent past
      have coherent : after.session.account.Coherent :=
        (coherent_handleAll (found.turn (sh.handle_turn switch)) events).turn
          (before.handle_turn leave)
      obtain ⟨user, path, rest⟩ := Session.restoreUser_of_stack stack
      rw [← left] at user path rest
      exact coherent.ext found user path rest
    · have shorter : before.session.userStack.length ≤ after.session.userStack.length + 1 :=
        Account.length_of_turn (before.handle_turn leave)
      omega
  · rw [(handle_leave leaves).1]
    simp [Session.restoreUser, empty]
  · rintro event (⟨user, switches⟩ | leaves)
    · exact (handle_switch switches).2
    · exact (handle_leave leaves).2

/-- Between the switch to alice and the exit from her there is a switch to bob with its own exit. -/
theorem guest_comes_back_from_alice :
    let sh := guestShell
    let switch : Event := .execute default "su alice"
    let switched := sh.handle switch
    let events : List Event := [.execute default "cd /tmp", .execute default "sudo su bob",
      .execute default "cd /etc > moved.txt", .restoreUser]
    let before := switched.handleAll events
    let leave : Event := .execute default "sudo exit > left.txt"
    Begun sh ∧ Switches sh.session "alice" switch ∧
      switched.StaysUp switched.session.userStack.length events ∧ Leaves before.session leave ∧
      before.session.path = ("/tmp" : Text) ∧
      (before.handle leave).session.account = sh.session.account := by
  intro sh switch switched events before leave
  have started : Shell.start guestOptions ({} : MemoryStore) default {} = .ok guestShell := rfl
  have begun : Begun sh := .start started
  have comes_to_su : jobOf sh.session "su alice" =
      some (Job.tool .su, ("su" : Text), [("alice" : Text)]) := by
    decide +kernel
  have switches : Switches sh.session "alice" switch := .line default comes_to_su rfl
  have comes_to_exit : jobOf before.session "sudo exit > left.txt" =
      some (Job.tool .exit, ("exit" : Text), []) := by
    decide +kernel
  have leaves : Leaves before.session leave := .line default comes_to_exit
  have high : switched.StaysUp switched.session.userStack.length events := by decide +kernel
  have level : before.session.userStack.length = switched.session.userStack.length := by
    decide +kernel
  have there : before.session.path = ("/tmp" : Text) := by decide +kernel
  obtain ⟨ends, _⟩ := (exit_ends_its_switch begun []).1 "alice" switch events leave switches high
    leaves
  exact ⟨begun, switches, high, leaves, there, ends level⟩

/-- The next exit is not always the one that belongs to a switch: here it only leaves bob. -/
theorem next_exit_leaves_bob :
    let sh := guestShell
    let switch : Event := .execute default "su alice"
    let switched := sh.handle switch
    let events : List Event := [.execute default "su bob"]
    let before := switched.handleAll events
    let leave : Event := .execute default "exit"
    Begun sh ∧ Switches sh.session "alice" switch ∧
      switched.StaysUp switched.session.userStack.length events ∧
      Leaves before.session leave ∧ sh.session.user = ("guest" : Text) ∧
      (before.handle leave).session.user = ("alice" : Text) ∧
      (before.handle leave).session.userStack ≠ sh.session.userStack := by
  intro sh switch switched events before leave
  have started : Shell.start guestOptions ({} : MemoryStore) default {} = .ok guestShell := rfl
  have comes_to_su : jobOf sh.session "su alice" =
      some (Job.tool .su, ("su" : Text), [("alice" : Text)]) := by
    decide +kernel
  have comes_to_exit : jobOf before.session "exit" =
      some (Job.tool .exit, ("exit" : Text), []) := by
    decide +kernel
  exact ⟨.start started, .line default comes_to_su rfl, by decide +kernel,
    .line default comes_to_exit, by decide +kernel, by decide +kernel, by decide +kernel⟩

end PocketShell.Shell
