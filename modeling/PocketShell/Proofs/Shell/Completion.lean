import PocketShell.Proofs.Session.Completion
import PocketShell.Proofs.Shell.Addressable

/-!
Completion in a shell. While every user has a name that can stand in a path, every home directory
has a canonical path, so the names in the tree stay legal. Then each option leads to the entry
that it was made from, in every session that has begun on the default tree and has the built-in
commands alone.
-/

namespace PocketShell.Shell

variable {σ : Type} [KeyValueStore σ]

/-- Before every event and after the last one, the name of the user can stand in a path. -/
def UsersAreLegal (sh : Shell σ) : List Event → Prop
  | [] => Path.LegalSegment sh.session.user
  | event :: events => Path.LegalSegment sh.session.user ∧ (sh.handle event).UsersAreLegal events

instance decidableUsersAreLegal : (sh : Shell σ) → (events : List Event) →
    Decidable (sh.UsersAreLegal events)
  | sh, [] => inferInstanceAs (Decidable (Path.LegalSegment sh.session.user))
  | sh, event :: events =>
      have := decidableUsersAreLegal (sh.handle event) events
      inferInstanceAs (Decidable (Path.LegalSegment sh.session.user ∧
        (sh.handle event).UsersAreLegal events))

/-- Where the users are legal, `cd` without arguments goes to a canonical path. -/
theorem UsersAreLegal.homes {sh : Shell σ} (coherent : sh.session.account.Coherent)
    {events : List Event} (users : sh.UsersAreLegal events) : sh.HomesAreCanonical events := by
  induction events generalizing sh with
  | nil => trivial
  | cons event events ih =>
      have home : sh.session.environment.home = homeFor sh.session.user :=
        congrArg Environment.home coherent.environment
      refine ⟨fun _ _ _ _ _ => ?_, ih (coherent.turn (sh.handle_turn event)) users.2⟩
      rw [home]
      exact Path.canonical_homeFor users.1

/-- Begun on the default tree by a user whose name can stand in a path, a session offers just the
entries of the directory that the last word of a line names, in their order and none of them twice.
An option begins with the word, ends in a slash if it is a directory and only then, and leads to its
entry; but a name alone that begins with a tilde is read as a path from the home directory. -/
theorem options_lead_to_entries {options : StartOptions} (legal : Path.LegalSegment options.user)
    (tree : options.tree = none) (commands : options.commands = []) {store : σ}
    (fresh : (Machine.lookUp options store).1 = .ok none) (clock : Moment) (desk : Desk) :
    ∃ first, Shell.start options store clock desk = .ok first ∧
      ∀ events : List Event, (∀ name command, .register name command ∉ events) →
        first.UsersAreLegal events →
        let s := (first.handleAll events).session
        ∀ line word, Session.LastWord line word →
          ∃ lead start place, s.Cut word lead start place ∧
            ((∀ d, s.root.walk place ≠ some (.dir d)) → s.completionOptions line = []) ∧
            ∀ d, s.root.walk place = some (.dir d) →
              s.completionOptions line =
                (Session.candidates start d).map (lead ++ Listing.label ·) ∧
              (s.completionOptions line).Nodup ∧
              ∀ entry ∈ Session.candidates start d,
                s.Offers word place entry (lead ++ Listing.label entry) := by
  obtain ⟨first, started, launched, alone⟩ := start_of_fresh fresh clock desk
  refine ⟨first, started, ?_⟩
  intro events no_commands users s line word last
  have orderly : first.machine.Each Session.Orderly := by
    refine ⟨?_, by simp [alone]⟩
    have same : first.machine.session = Session.launch options none := launched
    rw [same]
    exact orderly_launch legal tree commands
  have begun : Begun first := .start started
  have homes := users.homes (begun.coherent [])
  obtain ⟨⟨addressable, _⟩, _⟩ := handleAll_orderly orderly no_commands homes
  have rooted : s.environment.home.head? = some (.char '/') := (begun.coherent events).home_head
  obtain ⟨lead, start, place, cut⟩ := s.exists_cut word
  refine ⟨lead, start, place, cut, Session.completionOptions_of_no_dir cut last, ?_⟩
  intro d there
  have offered := Session.completionOptions_of_dir cut last there
  have named : d.WellNamed Path.LegalSegment :=
    Node.wellNamed_walk (.dir s.root) (.dir d) place addressable.legal there
  refine ⟨offered, ?_, fun entry mem => cut.offers addressable.legal rooted there mem⟩
  rw [offered]
  exact Session.nodup_options named lead start

/-- Behind a slash, a tilde is a letter like any other. -/
theorem draft_is_found_at_home :
    let events : List Event := [.execute default "mkdir notes",
      .execute default "touch notes/~draft", .execute default "cd /tmp"]
    let s := (guestShell.handleAll events).session
    Path.LegalSegment guestOptions.user ∧ guestOptions.tree = none ∧ guestOptions.commands = [] ∧
      (Machine.lookUp guestOptions ({} : MemoryStore)).1 = .ok none ∧
      Shell.start guestOptions ({} : MemoryStore) default {} = .ok guestShell ∧
      (∀ name command, .register name command ∉ events) ∧ guestShell.UsersAreLegal events ∧
      Session.LastWord "cat ~/notes/" "~/notes/" ∧ s.path = ("/tmp" : Text) ∧
      s.completionOptions "cat ~/notes/" = [("~/notes/~draft" : Text)] ∧
      s.placeOf "~/notes/~draft" = (["home", "guest", "notes", "~draft"] : List Text) ∧
      s.node? "~/notes/~draft" = some (.file []) := by
  intro events s
  have legal : Path.LegalSegment guestOptions.user := by decide +kernel
  have fresh : (Machine.lookUp guestOptions ({} : MemoryStore)).1 = .ok none := rfl
  have no_commands : ∀ name command, Event.register name command ∉ events := by simp [events]
  have users : guestShell.UsersAreLegal events := by decide +kernel
  have last : Session.LastWord "cat ~/notes/" "~/notes/" :=
    ⟨"cat", ' ', rfl, ⟨'c', by decide, rfl⟩, rfl, List.forall_iff_forall_mem.mp (by decide)⟩
  have cut : s.Cut "~/notes/" "~/notes/" [] (s.placeOf "~/notes/") :=
    @Session.Cut.below s "~/notes" [] List.not_mem_nil
  have place : s.placeOf "~/notes/" = (["home", "guest", "notes"] : List Text) := by decide +kernel
  have there : s.root.walk ["home", "guest", "notes"] =
      some (.dir (.single "~draft" (.file []))) := by decide +kernel
  have path : s.path = ("/tmp" : Text) := by decide +kernel
  obtain ⟨first, started, completes⟩ := options_lead_to_entries legal rfl rfl fresh default {}
  cases Except.ok.inj (started.symm.trans rfl : Except.ok first = .ok guestShell)
  obtain ⟨_, _, _, cut', _, offers⟩ := completes events no_commands users _ _ last
  obtain ⟨rfl, rfl, rfl⟩ := cut.unique cut'
  rw [place] at offers
  obtain ⟨options, _, leads⟩ := offers _ there
  obtain ⟨_, _, leads, _⟩ := leads ("~draft", .file []) List.mem_cons_self
  obtain ⟨led, found⟩ := leads (.inl (by decide))
  exact ⟨legal, rfl, rfl, fresh, rfl, no_commands, users, last, path, options, led, found⟩

/-- A name alone that begins with a tilde is offered, and then it is looked for at home. -/
theorem note_with_a_tilde_is_not_found :
    let events : List Event := [.execute default "touch ./~notes"]
    let s := (guestShell.handleAll events).session
    Path.LegalSegment guestOptions.user ∧ guestOptions.tree = none ∧ guestOptions.commands = [] ∧
      (Machine.lookUp guestOptions ({} : MemoryStore)).1 = .ok none ∧
      Shell.start guestOptions ({} : MemoryStore) default {} = .ok guestShell ∧
      (∀ name command, .register name command ∉ events) ∧ guestShell.UsersAreLegal events ∧
      Session.LastWord "cat ~" "~" ∧ s.path = ("/home/guest" : Text) ∧
      s.root.walk ["home", "guest", "~notes"] = some (.file []) ∧
      s.completionOptions "cat ~" = [("~notes" : Text)] ∧ s.node? "~notes" = none := by
  intro events s
  have legal : Path.LegalSegment guestOptions.user := by decide +kernel
  have no_commands : ∀ name command, Event.register name command ∉ events := by simp [events]
  have users : guestShell.UsersAreLegal events := by decide +kernel
  have last : Session.LastWord "cat ~" "~" :=
    ⟨"cat", ' ', rfl, ⟨'c', by decide, rfl⟩, rfl, List.forall_iff_forall_mem.mp (by decide)⟩
  have path : s.path = ("/home/guest" : Text) := by decide +kernel
  have made : s.root.walk ["home", "guest", "~notes"] = some (.file []) := by decide +kernel
  have options : s.completionOptions "cat ~" = [("~notes" : Text)] := by decide +kernel
  have found : s.node? "~notes" = none := by decide +kernel
  exact ⟨legal, rfl, rfl, rfl, rfl, no_commands, users, last, path, made, options, found⟩

end PocketShell.Shell
