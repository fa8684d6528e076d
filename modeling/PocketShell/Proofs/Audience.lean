import Mathlib.Data.List.Induction
import PocketShell.Audience

/-!
Which keys a listener receives. Tokens are handed out in increasing order and the subscriptions stay
in that order, so an open subscription is the only one with its token, and a token that was handed
out is never handed out again. Hence what happens to a subscription is told by the turns behind it
alone: a key reaches it once while it is open, and nothing reaches it after it has ended. That a
listener leaves in the middle of a key changes nothing for the others, since the key goes to all who
were subscribed when it was sent.
-/

namespace PocketShell.Audience

/-- What may happen to an audience. -/
inductive Turn
  | subscribe (listener : Listener)
  | unsubscribe (token : Nat)
  | draw (frame : Text)
  | send (k : Key)
  deriving DecidableEq, Repr

namespace Turn

def happen (a : Audience) : Turn → Audience
  | .subscribe listener => a.subscribe listener
  | .unsubscribe token => a.unsubscribe token
  | .draw frame => a.draw frame
  | .send k => a.send k

def key? : Turn → Option Key
  | .send k => some k
  | _ => none

def listener? : Turn → Option Listener
  | .subscribe listener => some listener
  | _ => none

end Turn

def run (turns : List Turn) (a : Audience) : Audience := turns.foldl Turn.happen a

/-- What has come of a new audience. -/
def after (history : List Turn) : Audience := run history {}

/-- The token of the subscription that follows a history. -/
def tokenAfter (history : List Turn) : Nat := (history.filterMap Turn.listener?).length

def keysIn (turns : List Turn) : List Key := turns.filterMap Turn.key?

/-- The keys for a subscription, told from the turns behind it: those sent before it is ended, and
only the first of them if its listener then ends it. -/
def keysFor (token : Nat) (listener : Listener) (later : List Turn) : List Key :=
  let keys := keysIn (later.takeWhile (· ≠ .unsubscribe token))
  if listener.once then keys.take 1 else keys

/-- Whether a subscription is ended by the turns behind it. -/
def Ended (token : Nat) (listener : Listener) (later : List Turn) : Prop :=
  .unsubscribe token ∈ later ∨ (listener.once = true ∧ keysIn later ≠ [])

/-- How it is written down that a subscriber has received a key. -/
def entry (k : Key) (subscription : Nat × Listener) : Nat × Text × Key :=
  (subscription.1, subscription.2.name, k)

/-- What was received under a token, in order. -/
def receivedBy (a : Audience) (token : Nat) : List (Nat × Text × Key) :=
  a.received.filter (·.1 = token)

/-- The subscriptions are in the order of their tokens, and no token is used that was not handed
out. -/
structure Orderly (a : Audience) : Prop where
  increasing : a.surface.subscriptions.Pairwise (·.1 < ·.1)
  fresh : ∀ s ∈ a.surface.subscriptions, s.1 < a.surface.nextToken
  heard : ∀ r ∈ a.received, r.1 < a.surface.nextToken

variable {a : Audience} {token : Nat} {listener : Listener}

section Send

theorem foldl_hear_received (k : Key) (subscriptions : List (Nat × Listener)) (a : Audience) :
    (subscriptions.foldl (fun a s => hear k s a) a).received =
      a.received ++ subscriptions.map (entry k) := by
  induction subscriptions generalizing a with
  | nil => simp
  | cons s subscriptions ih =>
      have here : (hear k s a).received = a.received ++ [entry k s] := by
        simp only [hear]
        split <;> rfl
      rw [List.foldl_cons, ih, here]
      simp

theorem foldl_hear_nextToken (k : Key) (subscriptions : List (Nat × Listener)) (a : Audience) :
    (subscriptions.foldl (fun a s => hear k s a) a).surface.nextToken = a.surface.nextToken := by
  induction subscriptions generalizing a with
  | nil => rfl
  | cons s subscriptions ih =>
      rw [List.foldl_cons, ih]
      simp only [hear]
      split <;> rfl

/-- A subscription goes on unless one with its token is ended by the key. -/
theorem mem_foldl_hear (k : Key) (subscriptions : List (Nat × Listener)) (a : Audience)
    (s : Nat × Listener) :
    s ∈ (subscriptions.foldl (fun a s => hear k s a) a).surface.subscriptions ↔
      s ∈ a.surface.subscriptions ∧ ∀ t ∈ subscriptions, t.2.once = true → s.1 ≠ t.1 := by
  induction subscriptions generalizing a with
  | nil => simp
  | cons t subscriptions ih =>
      rw [List.foldl_cons, ih, List.forall_mem_cons, ← and_assoc]
      refine and_congr_left fun _ => ?_
      cases once : t.2.once <;> simp [hear, once, unsubscribe, Surface.unsubscribe]

theorem foldl_hear_sublist (k : Key) (subscriptions : List (Nat × Listener)) (a : Audience) :
    (subscriptions.foldl (fun a s => hear k s a) a).surface.subscriptions.Sublist
      a.surface.subscriptions := by
  induction subscriptions generalizing a with
  | nil => exact List.Sublist.refl _
  | cons s subscriptions ih =>
      refine (ih _).trans ?_
      simp only [hear]
      split
      · exact List.filter_sublist
      · exact List.Sublist.refl _

/-- A key is received by all who are subscribed when it is sent, in their order. -/
theorem send_received (a : Audience) (k : Key) :
    (a.send k).received = a.received ++ a.surface.subscriptions.map (entry k) :=
  foldl_hear_received k _ a

theorem send_nextToken (a : Audience) (k : Key) :
    (a.send k).surface.nextToken = a.surface.nextToken :=
  foldl_hear_nextToken k _ a

end Send

namespace Orderly

theorem filter_token {subscriptions : List (Nat × Listener)}
    (increasing : subscriptions.Pairwise (·.1 < ·.1)) (mem : (token, listener) ∈ subscriptions) :
    subscriptions.filter (·.1 = token) = [(token, listener)] := by
  induction subscriptions with
  | nil => cases mem
  | cons s subscriptions ih =>
      rw [List.pairwise_cons] at increasing
      rcases List.mem_cons.mp mem with here | later
      · have others : subscriptions.filter (·.1 = token) = [] := by
          rw [List.filter_eq_nil_iff]
          intro t mem'
          have above := increasing.1 t mem'
          simp only [decide_eq_true_eq, ← here] at above ⊢
          omega
        simp [← here, others]
      · have below : s.1 ≠ token := Nat.ne_of_lt (increasing.1 _ later)
        rw [List.filter_cons_of_neg (by simpa using below)]
        exact ih increasing.2 later

theorem eq_of_token (orderly : Orderly a) (mem : (token, listener) ∈ a.surface.subscriptions)
    {s : Nat × Listener} (mem' : s ∈ a.surface.subscriptions) (same : s.1 = token) :
    s = (token, listener) := by
  have found : s ∈ a.surface.subscriptions.filter (·.1 = token) :=
    List.mem_filter.mpr ⟨mem', decide_eq_true same⟩
  rwa [filter_token orderly.increasing mem, List.mem_singleton] at found

theorem mem_send (orderly : Orderly a) (k : Key) (s : Nat × Listener) :
    s ∈ (a.send k).surface.subscriptions ↔
      s ∈ a.surface.subscriptions ∧ s.2.once = false := by
  refine (mem_foldl_hear k _ a s).trans (and_congr_right fun mem => ?_)
  constructor
  · intro apart
    cases once : s.2.once with
    | false => rfl
    | true => exact absurd rfl (apart s mem once)
  · rintro many t mem' once same
    have there := orderly.eq_of_token mem mem' same.symm
    simp [there, many] at once

theorem empty : Orderly {} :=
  ⟨List.Pairwise.nil, by simp, by simp⟩

theorem subscribe (orderly : Orderly a) (listener : Listener) : Orderly (a.subscribe listener) where
  increasing := by
    refine List.pairwise_append.mpr ⟨orderly.increasing, List.pairwise_singleton _ _, ?_⟩
    intro s mem t mem'
    rw [List.mem_singleton.mp mem']
    exact orderly.fresh s mem
  fresh := by
    intro s mem
    rcases List.mem_append.mp mem with mem | here
    · exact Nat.lt_succ_of_lt (orderly.fresh s mem)
    · rw [List.mem_singleton.mp here]
      exact Nat.lt_succ_self _
  heard r mem := Nat.lt_succ_of_lt (orderly.heard r mem)

theorem unsubscribe (orderly : Orderly a) (token : Nat) : Orderly (a.unsubscribe token) where
  increasing := orderly.increasing.sublist List.filter_sublist
  fresh s mem := orderly.fresh s (List.mem_filter.mp mem).1
  heard := orderly.heard

theorem send (orderly : Orderly a) (k : Key) : Orderly (a.send k) where
  increasing := orderly.increasing.sublist (foldl_hear_sublist k _ a)
  fresh s mem := by
    rw [send_nextToken]
    exact orderly.fresh s ((orderly.mem_send k s).mp mem).1
  heard r mem := by
    rw [send_nextToken]
    rw [send_received, List.mem_append, List.mem_map] at mem
    rcases mem with mem | ⟨s, mem, rfl⟩
    · exact orderly.heard r mem
    · exact orderly.fresh s mem

theorem happen (orderly : Orderly a) (turn : Turn) : Orderly (turn.happen a) := by
  cases turn with
  | subscribe listener => exact orderly.subscribe listener
  | unsubscribe token => exact orderly.unsubscribe token
  | draw frame => exact ⟨orderly.increasing, orderly.fresh, orderly.heard⟩
  | send k => exact orderly.send k

theorem run (orderly : Orderly a) (turns : List Turn) : Orderly (run turns a) :=
  List.foldlRecOn turns Turn.happen orderly fun _ orderly turn _ => orderly.happen turn

theorem after (history : List Turn) : Orderly (after history) := empty.run history

end Orderly

/-- A subscription that was made and is not open any more. -/
structure Closed (a : Audience) (token : Nat) : Prop where
  known : token < a.surface.nextToken
  gone : ∀ s ∈ a.surface.subscriptions, s.1 ≠ token

namespace Closed

theorem happen (orderly : Orderly a) (closed : Closed a token) (turn : Turn) :
    Closed (turn.happen a) token ∧ (turn.happen a).receivedBy token = a.receivedBy token := by
  cases turn with
  | subscribe listener =>
      refine ⟨⟨Nat.lt_succ_of_lt closed.known, ?_⟩, rfl⟩
      intro s mem
      rcases List.mem_append.mp mem with mem | here
      · exact closed.gone s mem
      · rw [List.mem_singleton.mp here]
        exact Nat.ne_of_gt closed.known
  | unsubscribe other =>
      exact ⟨⟨closed.known, fun s mem => closed.gone s (List.mem_filter.mp mem).1⟩, rfl⟩
  | draw frame => exact ⟨⟨closed.known, closed.gone⟩, rfl⟩
  | send k =>
      refine ⟨⟨?_, fun s mem => closed.gone s ((orderly.mem_send k s).mp mem).1⟩, ?_⟩
      · rw [Turn.happen, send_nextToken]
        exact closed.known
      · have none_here : (a.surface.subscriptions.map (entry k)).filter (·.1 = token) = [] := by
          rw [List.filter_eq_nil_iff, List.forall_mem_map]
          intro s mem
          exact fun same => closed.gone s mem (of_decide_eq_true same)
        rw [receivedBy, Turn.happen, send_received, List.filter_append, none_here,
          List.append_nil, receivedBy]

/-- Once it has ended, a subscription stays ended and receives nothing. -/
theorem run (orderly : Orderly a) (closed : Closed a token) (turns : List Turn) :
    Closed (run turns a) token ∧ (run turns a).receivedBy token = a.receivedBy token := by
  induction turns generalizing a with
  | nil => exact ⟨closed, rfl⟩
  | cons turn turns ih =>
      have step := closed.happen orderly turn
      have rest := ih (orderly.happen turn) step.1
      exact ⟨rest.1, rest.2.trans step.2⟩

end Closed

section Open

theorem keysIn_cons (turn : Turn) (turns : List Turn) :
    keysIn (turn :: turns) = turn.key?.toList ++ keysIn turns := by
  cases key : turn.key? <;> simp [keysIn, key]

theorem keysFor_unsubscribe (token : Nat) (listener : Listener) (later : List Turn) :
    keysFor token listener (.unsubscribe token :: later) = [] := by
  simp [keysFor, keysIn]

/-- A turn that neither ends a subscription nor is a key passes it by. -/
theorem keysFor_cons {turn : Turn} (goes_on : turn ≠ .unsubscribe token) (no_key : turn.key? = none)
    (listener : Listener) (later : List Turn) :
    keysFor token listener (turn :: later) = keysFor token listener later := by
  simp [keysFor, keysIn, goes_on, no_key]

theorem keysFor_send (token : Nat) (listener : Listener) (k : Key) (later : List Turn) :
    keysFor token listener (.send k :: later) =
      k :: if listener.once then [] else keysFor token listener later := by
  cases once : listener.once <;> simp [keysFor, keysIn, Turn.key?, once]

theorem ended_cons {turn : Turn} (goes_on : turn ≠ .unsubscribe token) (no_key : turn.key? = none)
    (listener : Listener) (later : List Turn) :
    Ended token listener (turn :: later) ↔ Ended token listener later := by
  simp [Ended, keysIn_cons, no_key, Ne.symm goes_on]

theorem ended_send (token : Nat) (listener : Listener) (k : Key) (later : List Turn) :
    Ended token listener (.send k :: later) ↔
      listener.once = true ∨ Ended token listener later := by
  cases once : listener.once <;> simp [Ended, keysIn_cons, Turn.key?, once]

/-- How a subscription has come out of some turns: it is open if they have not ended it, and it has
received its keys. -/
structure Served (a : Audience) (token : Nat) (listener : Listener) (later : List Turn)
    (before : List (Nat × Text × Key)) : Prop where
  opened : ¬ Ended token listener later → (token, listener) ∈ a.surface.subscriptions
  closed : Ended token listener later → Closed a token
  received : a.receivedBy token =
    before ++ (keysFor token listener later).map fun k => entry k (token, listener)

/-- A turn that neither ends a subscription nor is a key leaves all to the later ones. -/
theorem Served.pass {turn : Turn} {later : List Turn} {before : List (Nat × Text × Key)}
    (goes_on : turn ≠ .unsubscribe token) (no_key : turn.key? = none)
    (rest : Served a token listener later before) :
    Served a token listener (turn :: later) before where
  opened := by
    rw [ended_cons goes_on no_key]
    exact rest.opened
  closed := by
    rw [ended_cons goes_on no_key]
    exact rest.closed
  received := by
    rw [keysFor_cons goes_on no_key]
    exact rest.received

theorem receivedBy_send (orderly : Orderly a)
    (mem : (token, listener) ∈ a.surface.subscriptions) (k : Key) :
    (a.send k).receivedBy token = a.receivedBy token ++ [entry k (token, listener)] := by
  have mine : (a.surface.subscriptions.map (entry k)).filter (·.1 = token) =
      (a.surface.subscriptions.filter (·.1 = token)).map (entry k) := by
    rw [List.filter_map]
    rfl
  rw [receivedBy, send_received, List.filter_append, mine,
    Orderly.filter_token orderly.increasing mem]
  rfl

theorem closed_unsubscribe (orderly : Orderly a)
    (mem : (token, listener) ∈ a.surface.subscriptions) : Closed (a.unsubscribe token) token where
  known := orderly.fresh _ mem
  gone _ mem := of_decide_eq_true (List.mem_filter.mp mem).2

theorem closed_send (orderly : Orderly a) (mem : (token, listener) ∈ a.surface.subscriptions)
    (once : listener.once = true) (k : Key) : Closed (a.send k) token where
  known := by
    rw [send_nextToken]
    exact orderly.fresh _ mem
  gone s mem' same := by
    obtain ⟨there, many⟩ := (orderly.mem_send k s).mp mem'
    rw [orderly.eq_of_token mem there same, once] at many
    cases many

theorem served_run (orderly : Orderly a) (mem : (token, listener) ∈ a.surface.subscriptions)
    (later : List Turn) :
    Served (run later a) token listener later (a.receivedBy token) := by
  induction later generalizing a with
  | nil =>
      refine ⟨fun _ => mem, fun ended => ?_, ?_⟩
      · simp [Ended, keysIn] at ended
      · simp [run, keysFor, keysIn]
  | cons turn later ih =>
      have orderly' := orderly.happen turn
      cases turn with
      | subscribe other =>
          exact (ih orderly' (List.mem_append_left _ mem)).pass (by simp) rfl
      | draw frame => exact (ih orderly' mem).pass (by simp) rfl
      | unsubscribe other =>
          by_cases same : other = token
          · subst same
            have ended : Ended other listener (.unsubscribe other :: later) :=
              .inl List.mem_cons_self
            have rest := (closed_unsubscribe orderly mem).run orderly' later
            refine ⟨fun goes_on => absurd ended goes_on, fun _ => rest.1, ?_⟩
            rw [keysFor_unsubscribe, List.map_nil, List.append_nil]
            exact rest.2
          · have still : (token, listener) ∈ (a.unsubscribe other).surface.subscriptions :=
              List.mem_filter.mpr ⟨mem, by simpa using Ne.symm same⟩
            exact (ih orderly' still).pass (by simpa using same) rfl
      | send k =>
          have here := receivedBy_send orderly mem k
          -- the listener hears this key; whether there are more depends on whether it stays
          cases once : listener.once with
          | true =>
              have ended := (ended_send token listener k later).mpr (.inl once)
              have rest := (closed_send orderly mem once k).run orderly' later
              refine ⟨fun goes_on => absurd ended goes_on, fun _ => rest.1, ?_⟩
              rw [keysFor_send, once]
              exact rest.2.trans here
          | false =>
              have rest := ih orderly' ((orderly.mem_send k _).mpr ⟨mem, once⟩)
              have same := (ended_send token listener k later).trans (or_iff_right (by simp [once]))
              refine ⟨?_, ?_, ?_⟩
              · rw [same]
                exact rest.opened
              · rw [same]
                exact rest.closed
              · refine rest.received.trans ?_
                rw [keysFor_send, once]
                simp [Turn.happen, here]

end Open

section History

theorem run_nextToken (turns : List Turn) (a : Audience) :
    (run turns a).surface.nextToken = a.surface.nextToken + tokenAfter turns := by
  induction turns generalizing a with
  | nil => rfl
  | cons turn turns ih =>
      have step : (turn.happen a).surface.nextToken =
          a.surface.nextToken + turn.listener?.toList.length := by
        cases turn with
        | send k => exact send_nextToken a k
        | _ => rfl
      have counted :
          tokenAfter (turn :: turns) = turn.listener?.toList.length + tokenAfter turns := by
        cases turn <;> simp [tokenAfter, List.filterMap_cons, Turn.listener?, Nat.add_comm]
      calc (run (turn :: turns) a).surface.nextToken
          = (turn.happen a).surface.nextToken + tokenAfter turns := ih (turn.happen a)
        _ = a.surface.nextToken + tokenAfter (turn :: turns) := by rw [step, counted, Nat.add_assoc]

theorem after_nextToken (history : List Turn) :
    (after history).surface.nextToken = tokenAfter history :=
  (run_nextToken history {}).trans (Nat.zero_add _)

theorem after_concat (history : List Turn) (turn : Turn) :
    after (history ++ [turn]) = turn.happen (after history) := by
  simp [after, run]

theorem served_after (before : List Turn) (listener : Listener) (later : List Turn) :
    Served (after (before ++ .subscribe listener :: later)) (tokenAfter before) listener later
      [] := by
  have orderly := Orderly.after before
  have next := after_nextToken before
  have parted : after (before ++ .subscribe listener :: later) =
      run later ((after before).subscribe listener) := by
    simp [after, run, Turn.happen]
  have opened : (tokenAfter before, listener) ∈
      ((after before).subscribe listener).surface.subscriptions :=
    List.mem_append_right _ (by rw [next]; exact List.mem_singleton_self _)
  have unheard : ((after before).subscribe listener).receivedBy (tokenAfter before) = [] := by
    rw [receivedBy, List.filter_eq_nil_iff]
    intro r mem same
    have known := orderly.heard r mem
    rw [next, of_decide_eq_true same] at known
    exact Nat.lt_irrefl _ known
  rw [parted, ← unheard]
  exact served_run (orderly.subscribe listener) opened later

/-- An open subscription was made in some turn. -/
theorem exists_subscribe (history : List Turn)
    (mem : (token, listener) ∈ (after history).surface.subscriptions) :
    ∃ before later, history = before ++ .subscribe listener :: later ∧
      token = tokenAfter before := by
  induction history using List.reverseRecOn with
  | nil => cases mem
  | append_singleton history turn ih =>
      have older (mem : (token, listener) ∈ (after history).surface.subscriptions) :
          ∃ before later, history ++ [turn] = before ++ .subscribe listener :: later ∧
            token = tokenAfter before := by
        obtain ⟨before, later, rfl, known⟩ := ih mem
        exact ⟨before, later ++ [turn], by simp, known⟩
      rw [after_concat] at mem
      cases turn with
      | subscribe other =>
          rcases List.mem_append.mp mem with mem | here
          · exact older mem
          · cases List.mem_singleton.mp here
            exact ⟨history, [], rfl, after_nextToken history⟩
      | unsubscribe other => exact older (List.mem_filter.mp mem).1
      | draw frame => exact older mem
      | send k => exact older (((Orderly.after history).mem_send k _).mp mem).1

theorem mem_after_iff (history : List Turn) (token : Nat) (listener : Listener) :
    (token, listener) ∈ (after history).surface.subscriptions ↔
      ∃ before later, history = before ++ .subscribe listener :: later ∧
        token = tokenAfter before ∧ ¬ Ended token listener later := by
  constructor
  · intro mem
    obtain ⟨before, later, rfl, rfl⟩ := exists_subscribe history mem
    refine ⟨before, later, rfl, rfl, fun ended => ?_⟩
    exact ((served_after before listener later).closed ended).gone _ mem rfl
  · rintro ⟨before, later, rfl, rfl, goes_on⟩
    exact (served_after before listener later).opened goes_on

/-- To end a subscription again changes nothing. -/
theorem Closed.unsubscribe (closed : Closed a token) : a.unsubscribe token = a := by
  have rest : a.surface.subscriptions.filter (·.1 ≠ token) = a.surface.subscriptions :=
    List.filter_eq_self.mpr fun s mem => decide_eq_true (closed.gone s mem)
  simp only [Audience.unsubscribe, Surface.unsubscribe, rest]

/--
A subscription receives the keys that were sent behind it until it was ended, each once and in their
order; ending it again changes nothing. The open subscriptions are those that were not ended. They
stand in the order in which they were made, which is the order in which a key is received, and the
surface is active as long as there is one.
-/
theorem keys_go_to_open_subscriptions (history : List Turn) :
    let now := after history
    now.surface.nextToken = tokenAfter history ∧
    (∀ before listener later, history = before ++ .subscribe listener :: later →
      let token := tokenAfter before
      now.receivedBy token =
        (keysFor token listener later).map (fun k => entry k (token, listener)) ∧
      (Ended token listener later → now.unsubscribe token = now)) ∧
    (∀ token listener, (token, listener) ∈ now.surface.subscriptions ↔
      ∃ before later, history = before ++ .subscribe listener :: later ∧
        token = tokenAfter before ∧ ¬ Ended token listener later) ∧
    now.surface.subscriptions.Pairwise (·.1 < ·.1) ∧
    (∀ k, (now.send k).received = now.received ++ now.surface.subscriptions.map (entry k)) ∧
    (now.surface.isActive = true ↔
      ∃ before listener later, history = before ++ .subscribe listener :: later ∧
        ¬ Ended (tokenAfter before) listener later) := by
  intro now
  refine ⟨after_nextToken history, ?_, mem_after_iff history, (Orderly.after history).increasing,
    send_received now, ?_⟩
  · rintro before listener later rfl
    have served := served_after before listener later
    exact ⟨served.received, fun ended => (served.closed ended).unsubscribe⟩
  · have active : now.surface.isActive = true ↔ ∃ s, s ∈ now.surface.subscriptions := by
      rw [Surface.isActive, Bool.not_eq_true', List.isEmpty_eq_false_iff_exists_mem]
    rw [active]
    constructor
    · rintro ⟨⟨token, listener⟩, mem⟩
      obtain ⟨before, later, parts, rfl, goes_on⟩ := (mem_after_iff history token listener).mp mem
      exact ⟨before, listener, later, parts, goes_on⟩
    · rintro ⟨before, listener, later, parts, goes_on⟩
      exact ⟨_, (mem_after_iff history _ listener).mpr ⟨before, later, parts, rfl, goes_on⟩⟩

/-- A listener for one key leaves with that key, and its token ends nobody else's subscription. -/
theorem second_listener_hears_one_key :
    let steady : Listener := ⟨"a", false⟩
    let brief : Listener := ⟨"b", true⟩
    let x : Key := { name := "x" }
    let y : Key := { name := "y" }
    let later : List Turn :=
      [.send x, .unsubscribe 1, .subscribe steady, .send y, .unsubscribe 0, .send x]
    let history : List Turn := [.subscribe steady] ++ .subscribe brief :: later
    let now := after history
    Ended 1 brief later ∧
    now.receivedBy 0 = [entry x (0, steady), entry y (0, steady)] ∧
    now.receivedBy 1 = [entry x (1, brief)] ∧
    now.receivedBy 2 = [entry y (2, steady), entry x (2, steady)] ∧
    now.unsubscribe 1 = now ∧ now.surface.isActive = true := by
  intro steady brief x y later history now
  obtain ⟨_, each, _, _, _, active⟩ := keys_go_to_open_subscriptions history
  have ended : Ended 1 brief later := .inl (by decide)
  have first := each [] steady (.subscribe brief :: later) rfl
  have second := each [.subscribe steady] brief later rfl
  let made : List Turn := [.subscribe steady, .subscribe brief, .send x, .unsubscribe 1]
  let rest : List Turn := [.send y, .unsubscribe 0, .send x]
  have third := each made steady rest rfl
  have goes_on : ¬ Ended (tokenAfter made) steady rest := by
    rintro (gone | ⟨once, _⟩)
    · revert gone
      decide
    · cases once
  exact ⟨ended, first.1.trans (by decide), second.1.trans (by decide), third.1.trans (by decide),
    second.2 ended, active.mpr ⟨made, steady, rest, rfl, goes_on⟩⟩

end History
end PocketShell.Audience
