import PocketShell.Proofs.Checkpoint.Keys
import PocketShell.Proofs.Shell.Unfelt

/-!
Many sessions on one store in memory, each with its checkpoints under its own stem. What the
sessions of one stem do and say is the same whether those of other stems are there or not: each
session touches the three keys of its stem and no others, and two stems have no key in common.
-/

namespace PocketShell

/-- One of the sessions on a store: the stem that it is given, and a number to tell it from others
with the same one. -/
structure Member where
  stem : Text
  number : Nat
  deriving DecidableEq

/-- The stem of the keys of a session. -/
def Member.keyStem (who : Member) : Text := Checkpoint.effectiveStem who.stem

/-- What a member does: it begins, or something happens to the shell that it has. -/
inductive Deed
  | launch (options : StartOptions) (clock : Moment) (desk : Desk)
  | handle (event : Shell.Event)

def Machine.withStore {σ τ : Type} (m : Machine σ) (store : τ) : Machine τ :=
  { m with store := store }

def Shell.withStore {σ τ : Type} (sh : Shell σ) (store : τ) : Shell τ :=
  { machine := sh.machine.withStore store, desk := sh.desk }

/-- A store, and the shells on it, which have none of their own. -/
structure Shared where
  store : MemoryStore
  shells : Member → Option (Shell Unit)

namespace Shared

def onStore (store : MemoryStore) : Shared := ⟨store, fun _ => none⟩

/-- Takes over the store of a shell, and keeps what is left of it for its member. -/
def park (w : Shared) (who : Member) (sh : Shell MemoryStore) : Shared :=
  { store := sh.machine.store, shells := Function.update w.shells who (some (sh.withStore ())) }

/-- What is told of a deed, and what it leaves. A launch may be refused, for a number in the saved
tree that is too long. -/
def act (w : Shared) (who : Member) : Deed → Except Json.LongNumber (Option Text) × Shared
  | .launch options clock desk =>
      match Shell.start { options with stem := some who.keyStem } w.store clock desk with
      | .error n => (.error n, w)
      | .ok sh => (.ok none, w.park who sh)
  | .handle event =>
      match w.shells who with
      | none => (.ok none, w)
      | some sh =>
          let sh := sh.withStore w.store
          (.ok (sh.told event), w.park who (sh.handle event))

def actAll (w : Shared) (deeds : List (Member × Deed)) : Shared :=
  deeds.foldl (fun w entry => (w.act entry.1 entry.2).2) w

def told (w : Shared) : List (Member × Deed) → List (Member × Except Json.LongNumber (Option Text))
  | [] => []
  | (who, deed) :: deeds => (who, (w.act who deed).1) :: told (w.act who deed).2 deeds

/-- All sessions of a shell have the stem of its member. -/
def Sorted (w : Shared) : Prop :=
  ∀ who sh, w.shells who = some sh → sh.machine.Each (·.stem = some who.keyStem)

/-- What belongs to one stem is the same. -/
structure Together (stem : Text) (w w' : Shared) : Prop where
  store : MemoryStore.AgreeOn (Checkpoint.keys stem) w.store w'.store
  shells : ∀ who, who.keyStem = stem → w.shells who = w'.shells who

end Shared

/-- Two machines on stores that agree under the keys of a stem, and have changed under no others. -/
def Correspondence.together (stem : Text) (first first' : MemoryStore) :
    Correspondence MemoryStore MemoryStore where
  stem := some stem
  stem' := some stem
  Fits b b' := b.2 = b'.2 ∧ MemoryStore.AgreeOn (Checkpoint.keys stem) b.1 b'.1 ∧
    MemoryStore.AgreeOff (Checkpoint.keys stem) b.1 first ∧
    MemoryStore.AgreeOff (Checkpoint.keys stem) b'.1 first'
  note notes := by
    rintro ⟨log, rest⟩
    exact ⟨congrArg (· ++ notes) log, rest⟩
  save {b b'} state := by
    rintro ⟨log, agree, off, off'⟩
    obtain ⟨silent, only, kept⟩ := Checkpoint.save_memory stem state b.1
    obtain ⟨silent', only', _⟩ := Checkpoint.save_memory stem state b'.1
    refine ⟨?_, kept _ agree, only.trans off, only'.trans off'⟩
    simp only [Checkpoint.saveUnder, silent, silent', log]
  clear {b b'} := by
    rintro ⟨log, agree, off, off'⟩
    obtain ⟨silent, only, kept⟩ := Checkpoint.clear_memory stem b.1
    obtain ⟨silent', only', _⟩ := Checkpoint.clear_memory stem b'.1
    refine ⟨?_, kept _ agree, only.trans off, only'.trans off'⟩
    simp only [Checkpoint.clearUnder, silent, silent', log]

namespace Shell

variable {stem : Text} {first first' : MemoryStore}

theorem under_own {s : Session} {stem : Option Text} (own : s.stem = stem) : s.under stem = s := by
  rw [← own, Session.under]

theorem map_under_own {former : List Session} {stem : Option Text}
    (own : ∀ s ∈ former, s.stem = stem) : former.map (·.under stem) = former :=
  (List.map_congr_left fun s mem => under_own (own s mem)).trans (List.map_id former)

/-- What is parked of two shells that are alike is the same. -/
theorem Alike.withStore_eq {sh sh' : Shell MemoryStore}
    (h : Alike (.together stem first first') sh sh') : sh'.withStore () = sh.withStore () := by
  have session := h.session.trans (under_own h.stem)
  have former := h.machine.former.trans (map_under_own h.machine.stems.2)
  obtain ⟨log, _⟩ := h.machine.books
  simp only [withStore, Machine.withStore, h.desk, Shell.mk.injEq, Machine.mk.injEq, and_true,
    true_and]
  exact ⟨session, former, h.machine.clock, log.symm, h.machine.exits⟩

theorem alike_withStore {sh : Shell Unit} (stems : sh.machine.Each (·.stem = some stem))
    (agree : MemoryStore.AgreeOn (Checkpoint.keys stem) first first') :
    Alike (.together stem first first') (sh.withStore first) (sh.withStore first') := by
  refine ⟨⟨stems, (under_own stems.1).symm, (map_under_own stems.2).symm, rfl, rfl, rfl, agree, ?_,
    ?_⟩, rfl⟩
  · exact fun _ _ => rfl
  · exact fun _ _ => rfl

/-- Two shells that begin on stores in agreement. -/
theorem start_together (options : StartOptions) (persists : options.stem = some stem)
    (agree : MemoryStore.AgreeOn (Checkpoint.keys stem) first first') (clock : Moment)
    (desk : Desk) :
    (∃ n, Shell.start options first clock desk = .error n ∧
      Shell.start options first' clock desk = .error n) ∨
    ∃ sh sh', Shell.start options first clock desk = .ok sh ∧
      Shell.start options first' clock desk = .ok sh' ∧
      Alike (.together stem first first') sh sh' := by
  obtain ⟨found, notes, looked, looked'⟩ := Checkpoint.load_memory agree
  simp only [Shell.start, Machine.lookUp, persists, looked, looked']
  cases found with
  | error n => exact .inl ⟨n, rfl, rfl⟩
  | ok saved =>
      have own : (Session.launch options saved).stem = some stem :=
        (Session.launch_stem options saved).trans persists
      refine .inr ⟨_, _, rfl, rfl, ⟨⟨⟨own, by simp⟩, (under_own own).symm, rfl, rfl, rfl, rfl,
        agree, ?_, ?_⟩, rfl⟩⟩
      · exact fun _ _ => rfl
      · exact fun _ _ => rfl

end Shell

namespace Shared

variable {w w' : Shared} {who : Member} {stem : Text}

theorem park_own (w : Shared) (who : Member) (sh : Shell MemoryStore) :
    (w.park who sh).shells who = some (sh.withStore ()) :=
  Function.update_self who _ w.shells

theorem park_other (w : Shared) {who other : Member} (ne : other ≠ who) (sh : Shell MemoryStore) :
    (w.park who sh).shells other = w.shells other :=
  Function.update_of_ne ne _ w.shells

theorem Sorted.park (sorted : w.Sorted) {sh : Shell MemoryStore}
    (stems : sh.machine.Each (·.stem = some who.keyStem)) : (w.park who sh).Sorted := by
  intro other parked there
  by_cases same : other = who
  · subst same
    rw [park_own] at there
    cases there
    exact stems
  · rw [w.park_other same] at there
    exact sorted other parked there

theorem Together.park {sh sh' : Shell MemoryStore} {first first' : MemoryStore}
    (together : Together who.keyStem w w')
    (alike : Shell.Alike (.together who.keyStem first first') sh sh') :
    Together who.keyStem (w.park who sh) (w'.park who sh') := by
  refine ⟨alike.machine.books.2.1, fun other own => ?_⟩
  by_cases same : other = who
  · subst same
    rw [park_own, park_own, alike.withStore_eq]
  · rw [w.park_other same, w'.park_other same]
    exact together.shells other own

/-- A deed comes to the same wherever what belongs to its stem is the same, and nothing else is
touched by it. -/
theorem act_together (sorted : w.Sorted) (together : Together who.keyStem w w') (deed : Deed) :
    (w.act who deed).1 = (w'.act who deed).1 ∧
      Together who.keyStem (w.act who deed).2 (w'.act who deed).2 ∧
      (w.act who deed).2.Sorted ∧
      MemoryStore.AgreeOff (Checkpoint.keys who.keyStem) (w.act who deed).2.store w.store ∧
      ∀ other, other ≠ who → (w.act who deed).2.shells other = w.shells other := by
  cases deed with
  | launch options clock desk =>
      simp only [act]
      rcases Shell.start_together { options with stem := some who.keyStem } rfl together.store clock
        desk with ⟨n, refused, refused'⟩ | ⟨sh, sh', started, started', alike⟩
      · rw [refused, refused']
        exact ⟨rfl, together, sorted, fun _ _ => rfl, fun _ _ => rfl⟩
      · rw [started, started']
        exact ⟨rfl, together.park alike, sorted.park alike.machine.stems, alike.machine.books.2.2.1,
          fun other ne => w.park_other ne sh⟩
  | handle event =>
      simp only [act, ← together.shells who rfl]
      cases there : w.shells who with
      | none => exact ⟨rfl, together, sorted, fun _ _ => rfl, fun _ _ => rfl⟩
      | some sh =>
          obtain ⟨said, alike⟩ :=
            (Shell.alike_withStore (sorted who sh there) together.store).handle event
          exact ⟨congrArg Except.ok said, together.park alike, sorted.park alike.machine.stems,
            alike.machine.books.2.2.1, fun other ne => w.park_other ne _⟩

theorem Together.refl (stem : Text) (w : Shared) : Together stem w w :=
  ⟨fun _ _ => rfl, fun _ _ => rfl⟩

/-- A deed under one stem leaves alone what belongs to another one. -/
theorem Together.act_other (together : Together stem w w') (sorted : w.Sorted)
    (other : who.keyStem ≠ stem) (deed : Deed) : Together stem (w.act who deed).2 w' := by
  obtain ⟨_, _, _, off, shells⟩ := act_together sorted (.refl who.keyStem w) deed
  refine ⟨fun key mem => ?_, fun member own => ?_⟩
  · rw [off key (Checkpoint.keys_apart (Ne.symm other) key mem)]
    exact together.store key mem
  · have ne : member ≠ who := by
      rintro rfl
      exact other own
    rw [shells member ne]
    exact together.shells member own

/-- Whether the entry of a run is one of a stem. -/
def isOf {α : Type} (stem : Text) (entry : Member × α) : Bool := entry.1.keyStem = stem

theorem run_together (together : Together stem w w') (sorted : w.Sorted) (sorted' : w'.Sorted)
    (deeds : List (Member × Deed)) :
    (w.told deeds).filter (isOf stem) = w'.told (deeds.filter (isOf stem)) ∧
      Together stem (w.actAll deeds) (w'.actAll (deeds.filter (isOf stem))) := by
  induction deeds generalizing w w' with
  | nil => exact ⟨rfl, together⟩
  | cons entry deeds ih =>
      obtain ⟨who, deed⟩ := entry
      obtain ⟨_, _, kept, _⟩ := act_together sorted (.refl who.keyStem w) deed
      by_cases own : who.keyStem = stem
      · subst own
        obtain ⟨said, next, _⟩ := act_together sorted together deed
        obtain ⟨_, _, kept', _⟩ := act_together sorted' (.refl who.keyStem w') deed
        obtain ⟨rest, ends⟩ := ih next kept kept'
        simp only [told, isOf, decide_true, List.filter_cons_of_pos, said]
        exact ⟨congrArg _ rest, ends⟩
      · obtain ⟨rest, ends⟩ := ih (together.act_other sorted own deed) kept sorted'
        simp only [told, isOf, own, decide_false, Bool.false_eq_true, not_false_iff,
          List.filter_cons_of_neg]
        exact ⟨rest, ends⟩

theorem sorted_actAll (sorted : w.Sorted) (deeds : List (Member × Deed)) :
    (w.actAll deeds).Sorted := by
  induction deeds generalizing w with
  | nil => exact sorted
  | cons entry deeds ih =>
      obtain ⟨_, _, kept, _⟩ := act_together sorted (.refl entry.1.keyStem w) entry.2
      exact ih kept

/-- Whatever sessions do on a store in memory, in any order, those of one stem are told the same and
come to the same as if those of other stems were not there; and what a session does changes no key
but the three of its stem, whether the key is there or not. -/
theorem stems_are_apart (store : MemoryStore) (deeds : List (Member × Deed)) :
    let w := onStore store
    (∀ stem,
      let alone := deeds.filter (isOf stem)
      (w.told deeds).filter (isOf stem) = w.told alone ∧
        (∀ who, who.keyStem = stem → (w.actAll deeds).shells who = (w.actAll alone).shells who) ∧
        ∀ key ∈ Checkpoint.keys stem,
          (w.actAll deeds).store.get key = (w.actAll alone).store.get key) ∧
    ∀ who deed key, key ∉ Checkpoint.keys who.keyStem →
      ((w.actAll deeds).act who deed).2.store.get key = (w.actAll deeds).store.get key := by
  intro w
  have nobody : w.Sorted := fun who sh there => by cases there
  refine ⟨fun stem => ?_, fun who deed => ?_⟩
  · obtain ⟨told, ends⟩ := run_together (.refl stem w) nobody nobody deeds
    exact ⟨told, ends.shells, ends.store⟩
  · have sorted : (w.actAll deeds).Sorted := sorted_actAll nobody deeds
    obtain ⟨_, _, _, off, _⟩ := act_together sorted (.refl who.keyStem _) deed
    exact off

def guestMember : Member := ⟨"", 0⟩

/-- The keys of bob begin like two of the keys of the guest. -/
def bobMember : Member := ⟨"unixshell_current", 0⟩

def guestAgain : Member := ⟨"unixshell", 1⟩

def guestBesideBob : List (Member × Deed) :=
  [(guestMember, .launch Shell.guestOptions default {}),
   (bobMember, .launch { user := "bob" } default {}),
   (guestMember, .handle (.execute default "cd /tmp")),
   (bobMember, .handle (.execute default "su")), (bobMember, .handle .clear),
   (guestAgain, .launch Shell.guestOptions default {})]

/-- The guest on the default stem goes on in a second session, whatever bob does meanwhile. -/
theorem guest_goes_on_beside_bob :
    guestAgain.keyStem = guestMember.keyStem ∧ bobMember.keyStem ≠ guestMember.keyStem ∧
      (((onStore {}).actAll guestBesideBob).shells guestAgain).map (·.session.path) =
        some ("/tmp" : Text) ∧
      ((onStore {}).actAll guestBesideBob).shells guestAgain =
        ((onStore {}).actAll (guestBesideBob.filter (isOf guestMember.keyStem))).shells guestAgain ∧
      ("unixshell_current_path" : Text) ∉ Checkpoint.keys bobMember.keyStem ∧
      (((onStore {}).actAll guestBesideBob).act bobMember (.handle .save)).2.store.get
          "unixshell_current_path" =
        ((onStore {}).actAll guestBesideBob).store.get "unixshell_current_path" := by
  obtain ⟨apart, only⟩ := stems_are_apart {} guestBesideBob
  have own : guestAgain.keyStem = guestMember.keyStem := by decide
  have away : ("unixshell_current_path" : Text) ∉ Checkpoint.keys bobMember.keyStem := by decide
  have there : (((onStore {}).actAll guestBesideBob).shells guestAgain).map (·.session.path) =
      some ("/tmp" : Text) := by decide +kernel
  exact ⟨own, by decide, there, (apart guestMember.keyStem).2.1 guestAgain own, away,
    only bobMember (.handle .save) _ away⟩

end Shared
end PocketShell
