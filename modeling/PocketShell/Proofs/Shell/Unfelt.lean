import PocketShell.Proofs.Shell.Alike

/-!
Checkpoints are never felt. With a store to save in, a session does and says what it does and says
without one: whichever calls of the store fail, and whatever the others answer, as long as nothing
is taken up at the start. Nothing is assumed of the store, so a call may fail at one moment and not
at another.
-/

namespace PocketShell

namespace Checkpoint

variable {σ : Type} [KeyValueStore σ]

/-- A store has no checkpoint when it fails to give the three texts, or lacks one of them. -/
def Absent (stem : Text) (store : σ) : Prop :=
  ∀ tree user path, (getTexts stem store).outcome = .ok (tree, user, path) →
    tree = none ∨ user = none ∨ path = none

theorem decode_of_absent {tree user path : Option Text}
    (absent : tree = none ∨ user = none ∨ path = none) :
    decode tree user path = .error .incomplete := by
  have some_empty : tree.getD [] = [] ∨ user.getD [] = [] ∨ path.getD [] = [] := by
    rcases absent with rfl | rfl | rfl <;> simp
  rw [decode]
  split
  · next tree' user' path' tree_eq user_eq path_eq =>
    simp [tree_eq, user_eq, path_eq] at some_empty
  · rfl

theorem load_of_absent {stem : Text} {store : σ} (absent : Absent stem store) :
    (load stem store).1 = .ok none := by
  simp only [load]
  cases texts : getTexts stem store with
  | mk outcome after notes =>
      cases outcome with
      | error fault => rfl
      | ok found =>
          obtain ⟨tree, user, path⟩ := found
          have missing := absent tree user path (by rw [texts])
          simp only [decode_of_absent missing]

end Checkpoint

/-- The one machine keeps checkpoints in whatever store it has, the other one keeps none. -/
def Correspondence.silent {σ τ : Type} [KeyValueStore σ] [KeyValueStore τ] (stem : Option Text) :
    Correspondence σ τ where
  stem := stem
  stem' := none
  Fits _ _ := True
  note _ _ := trivial
  save _ _ := trivial
  clear _ := trivial

theorem Session.launch_under (options : StartOptions) (saved : Option SavedState)
    (stem : Option Text) :
    Session.launch { options with stem := stem } saved =
      (Session.launch options saved).under stem := by
  have registered (commands : List (Text × HostCommand)) (s : Session) :
      commands.foldl (fun s entry => s.register entry.1 { handler := .job (.host entry.2) })
        (s.under stem) =
      (commands.foldl (fun s entry =>
        s.register entry.1 { handler := .job (.host entry.2) }) s).under stem := by
    induction commands generalizing s with
    | nil => rfl
    | cons entry commands ih => exact ih (s.register entry.1 _)
  cases saved <;>
    exact registered options.commands { Session.start _ _ _ with stem := options.stem }

theorem Session.launch_stem (options : StartOptions) (saved : Option SavedState) :
    (Session.launch options saved).stem = options.stem := by
  obtain ⟨registry, launched⟩ := Shell.launch_eq options saved
  rw [launched]

namespace Shell

variable {σ τ : Type} [KeyValueStore σ] [KeyValueStore τ]

/-- Begun without a checkpoint, a session with a store does all that it would do without one: the
same is told at every event, and after all of them the session is the same but for the stem, and so
are the editors, the frames drawn and the number of editors closed. -/
theorem checkpoints_are_never_felt {options : StartOptions} {stem : Text}
    (persists : options.stem = some stem) {store : σ} (absent : Checkpoint.Absent stem store)
    (store' : τ) (clock : Moment) (desk : Desk) :
    ∃ first second, Shell.start options store clock desk = .ok first ∧
      Shell.start { options with stem := none } store' clock desk = .ok second ∧
      ∀ events : List Event,
        let sh := first.handleAll events
        let sh' := second.handleAll events
        first.toldAll events = second.toldAll events ∧
          sh'.session = { sh.session with stem := none } ∧ sh'.desk = sh.desk ∧
          sh'.machine.exits = sh.machine.exits := by
  have started := start_of_load persists (Checkpoint.load_of_absent absent) clock desk
  refine ⟨_, _, started, rfl, fun events => ?_⟩
  have alike : Alike (.silent options.stem : Correspondence σ τ)
      (begun options none (Checkpoint.load stem store).2.1 clock (Checkpoint.load stem store).2.2
        desk)
      (begun { options with stem := none } none store' clock [] desk) :=
    ⟨⟨⟨Session.launch_stem options none, by simp [begun]⟩, Session.launch_under options none none,
      rfl, rfl, rfl, trivial⟩, rfl⟩
  obtain ⟨told, ends⟩ := alike.handleAll events
  exact ⟨told, ends.session, ends.desk, ends.machine.exits⟩

end Shell

/-- A store in memory with a plan of what goes wrong, by the number of the call. -/
structure PlannedStore where
  memory : MemoryStore := {}
  plan : Nat → Option StoreFault
  calls : Nat := 0

namespace PlannedStore

def call {α : Type} (s : PlannedStore) (answer : α) (memory : MemoryStore) : Reply PlannedStore α :=
  let counted := { s with calls := s.calls + 1 }
  match s.plan s.calls with
  | some fault => ⟨.error fault, counted, []⟩
  | none => ⟨.ok answer, { counted with memory := memory }, []⟩

instance : KeyValueStore PlannedStore where
  get s key := s.call (s.memory.get key) s.memory
  set s key value := s.call () (s.memory.set key value)
  remove s key := s.call () (s.memory.remove key)

end PlannedStore

namespace Shell

/-- Every other call fails, from the second on. -/
def everyOther : PlannedStore := { plan := fun n => if n % 2 = 1 then some .offline else none }

/-- The saves of the guest go wrong, and so do the look for a checkpoint and the clearing; the log
says so and nothing else does. -/
theorem guest_feels_no_failure :
    let events : List Event := [.execute default "cd /tmp", .execute default "vi notes.txt",
      .press (.plain "i"), .press (.plain "x"), .press (.plain "Escape"), .press (.plain ":"),
      .press (.plain "w"), .press (.plain "Enter"), .save, .clear]
    guestOptions.stem = some ("unixshell" : Text) ∧ Checkpoint.Absent "unixshell" everyOther ∧
      ∃ (first : Shell PlannedStore) (second : Shell MemoryStore),
        Shell.start guestOptions everyOther default {} = .ok first ∧
        Shell.start { guestOptions with stem := none } {} default {} = .ok second ∧
        (first.handleAll events).machine.log.length = 6 ∧
        (second.handleAll events).machine.log = [] ∧
        (first.handleAll events).session.node? "notes.txt" = some (.file "x") ∧
        first.toldAll events = second.toldAll events ∧
        (second.handleAll events).session =
          { (first.handleAll events).session with stem := none } := by
  intro events
  have absent : Checkpoint.Absent "unixshell" everyOther := by
    intro tree user path got
    have failed : (Checkpoint.getTexts "unixshell" everyOther).outcome = .error .offline := rfl
    rw [failed] at got
    cases got
  have persists : guestOptions.stem = some ("unixshell" : Text) := rfl
  obtain ⟨first, second, started, started', felt⟩ :=
    checkpoints_are_never_felt persists absent ({} : MemoryStore) default {}
  obtain ⟨told, session, _⟩ := felt events
  refine ⟨persists, absent, first, second, started, started', ?_, ?_, ?_, told, session⟩
  · cases Except.ok.inj (started.symm.trans rfl : Except.ok first = .ok (begun guestOptions none
      (Checkpoint.load "unixshell" everyOther).2.1 default
      (Checkpoint.load "unixshell" everyOther).2.2 {}))
    decide +kernel
  · cases Except.ok.inj (started'.symm.trans rfl : Except.ok second =
      .ok (begun { guestOptions with stem := none } none {} default [] {}))
    decide +kernel
  · cases Except.ok.inj (started.symm.trans rfl : Except.ok first = .ok (begun guestOptions none
      (Checkpoint.load "unixshell" everyOther).2.1 default
      (Checkpoint.load "unixshell" everyOther).2.2 {}))
    decide +kernel

end Shell
end PocketShell
