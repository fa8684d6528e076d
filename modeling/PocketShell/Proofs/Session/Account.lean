import PocketShell.Proofs.Session.Step

/-!
What a session knows about its user: who it is and where, the environment, and the users to return
to. A command turns this account at most once, by going somewhere, by switching to another user or
by returning to the last one; all else leaves it alone. So the environment says the same as the
session however the account turns, and what lies on the stack below the present user is left as it
is for as long as nobody returns below it.
-/

namespace PocketShell

structure Account where
  user : Text
  path : Text
  environment : Environment
  userStack : List UserState

namespace Session

def account (s : Session) : Account := ⟨s.user, s.path, s.environment, s.userStack⟩

/-- The account after at most one turn. -/
inductive Turn (s : Session) : Account → Prop
  | stay : Turn s s.account
  | move (path : Text) : Turn s (s.moveTo path).account
  | switch (user : Text) : Turn s (s.switchUser user).2.account
  | back : Turn s s.restoreUser.2.account

theorem moveTo_account {s t : Session} (same : s.account = t.account) (path : Text) :
    (s.moveTo path).account = (t.moveTo path).account := by
  simp only [account, Account.mk.injEq] at same
  simp only [account, moveTo, same]

theorem switchUser_account {s t : Session} (same : s.account = t.account) (user : Text) :
    (s.switchUser user).2.account = (t.switchUser user).2.account := by
  simp only [account, Account.mk.injEq] at same
  simp only [account, switchUser, same]

theorem restoreUser_account {s t : Session} (same : s.account = t.account) :
    s.restoreUser.2.account = t.restoreUser.2.account := by
  have stack : s.userStack = t.userStack := congrArg Account.userStack same
  simp only [restoreUser, stack]
  cases t.userStack with
  | nil => exact same
  | cons previous rest =>
      simp only [account, Account.mk.injEq] at same
      simp only [account, same]

/-- Returning follows the entry on top of the stack and takes it away. -/
theorem restoreUser_of_stack {s : Session} {previous : UserState} {rest : List UserState}
    (stack : s.userStack = previous :: rest) :
    let a := s.restoreUser.2.account
    a.user = previous.user ∧ a.path = previous.path ∧ a.userStack = rest := by
  simp only [restoreUser, stack]
  exact ⟨rfl, rfl, rfl⟩

/-- Turns depend on the account alone. -/
theorem Turn.of_account {s t : Session} {a : Account} (turn : Turn s a)
    (same : s.account = t.account) : Turn t a := by
  cases turn with
  | stay =>
      rw [same]
      exact .stay
  | move path =>
      rw [moveTo_account same]
      exact .move path
  | switch user =>
      rw [switchUser_account same]
      exact .switch user
  | back =>
      rw [restoreUser_account same]
      exact .back

theorem edits_account {args : List Text} {s s' : Session} (edits : Edits args s s') :
    s'.account = s.account := by
  induction edits with
  | refl => rfl
  | tail _ edit ih =>
      rw [← ih]
      cases edit <;> rfl

theorem step_turn {args : List Text} {s s' : Session} (step : Step args s s') :
    Turn s s'.account := by
  cases step with
  | enter target d mem found => exact .move _
  | goHome => exact .move _
  | create | remove => exact .stay
  | switchUser user mem => exact .switch user
  | restoreUser => exact .back

theorem use_turn (s : Session) (now : Moment) (tool : Tool) (args : List Text) (piped : Bool) :
    Turn s (s.use now tool args piped).2.account := by
  rcases use_effect s now tool args piped with edits | ⟨step, _⟩
  · rw [edits_account edits]
    exact .stay
  · exact step_turn step

end Session

namespace Account

/-- The environment is that of the user and the path, and so are the homes to return to. -/
structure Coherent (a : Account) : Prop where
  environment : a.environment = .start a.user a.path
  homes : ∀ u ∈ a.userStack, u.home = homeFor u.user

theorem Coherent.turn {s : Session} (h : s.account.Coherent) {a : Account} (turn : s.Turn a) :
    a.Coherent := by
  have environment : s.environment = .start s.user s.path := h.environment
  have homes : ∀ u ∈ s.userStack, u.home = homeFor u.user := h.homes
  cases turn with
  | stay => exact h
  | move path =>
      refine ⟨?_, homes⟩
      simp [Session.account, Session.moveTo, environment, Environment.start]
  | switch user =>
      refine ⟨?_, fun u mem => ?_⟩
      · simp [Session.account, Session.switchUser, environment, Environment.start]
      · -- the entry is put on the stack with the home that the environment had
        rcases List.mem_cons.mp mem with rfl | mem
        · simp [environment, Environment.start]
        · exact homes u mem
  | back =>
      simp only [Session.restoreUser]
      split
      · exact h
      · next previous rest stack =>
        rw [stack] at homes
        refine ⟨?_, fun u mem => homes u (List.mem_cons_of_mem _ mem)⟩
        simp [Session.account, environment, Environment.start, homes previous List.mem_cons_self]

theorem Coherent.home_head {a : Account} (h : a.Coherent) :
    a.environment.home.head? = some (.char '/') := by
  simp only [h.environment, Environment.start, homeFor]
  split <;> rfl

/-- A coherent account is known from its user, its path and its stack. -/
theorem Coherent.ext {a b : Account} (ha : a.Coherent) (hb : b.Coherent) (user : a.user = b.user)
    (path : a.path = b.path) (stack : a.userStack = b.userStack) : a = b := by
  have environment : a.environment = b.environment := by
    rw [ha.environment, hb.environment, user, path]
  cases a
  cases b
  simp only at user path stack environment
  rw [user, path, stack, environment]

/-- What lies on the stack stays there unless the stack gets shorter than that. -/
theorem suffix_of_turn {s : Session} {a : Account} (turn : s.Turn a) {base : List UserState}
    (below : base <:+ s.userStack) (long : base.length ≤ a.userStack.length) :
    base <:+ a.userStack := by
  cases turn with
  | stay => exact below
  | move path => exact below
  | switch user => exact below.trans (List.suffix_cons _ _)
  | back =>
      revert long
      simp only [Session.restoreUser]
      split
      · intro _
        exact below
      · next previous rest stack =>
        intro long
        rw [stack] at below
        rcases List.suffix_cons_iff.mp below with whole | inside
        · rw [whole] at long
          exact absurd long (Nat.not_succ_le_self rest.length)
        · exact inside

theorem length_of_turn {s : Session} {a : Account} (turn : s.Turn a) :
    s.userStack.length ≤ a.userStack.length + 1 := by
  cases turn with
  | stay | move path => exact Nat.le_succ _
  | switch user =>
      simp only [Session.account, Session.switchUser, List.length_cons]
      omega
  | back =>
      simp only [Session.restoreUser]
      split
      · exact Nat.le_succ _
      · next previous rest stack => simp [Session.account, stack]

end Account
end PocketShell
