import Mathlib.Data.List.Basic
import Mathlib.Tactic.IntervalCases
import PocketShell.Proofs.Editor.Deleting
import PocketShell.Proofs.Editor.Typing

/-!
Capital letters. A shifted letter comes as a key that is named by the capital, or as a key that is
named by the small letter with shift held down. Normal mode takes the two for the same, but for
the letters that it reads by their name alone: motions, with `d` and `w` among them behind `d`.
Where text is typed, shift does not count at all, and the small letter stays small.
-/

namespace PocketShell

namespace Key

/-- Two keys for the same shifted letter: the first one is named by the capital, the second one by
the small letter. -/
structure SameCapital (k k' : Key) (c : Char) : Prop where
  letter : c.isLower = true
  capital : k.name = [↑c.toUpper]
  small : k'.name = [↑c]
  shift : k'.shift = true
  control : k'.control = k.control
  metaKey : k'.metaKey = k.metaKey

def smallLetters : List Char := "abcdefghijklmnopqrstuvwxyz".toList

theorem mem_smallLetters {c : Char} (letter : c.isLower = true) : c ∈ smallLetters := by
  have between : ('a'.val ≤ c.val && c.val ≤ 'z'.val) = true := letter
  have bounds : 97 ≤ c.toNat ∧ c.toNat ≤ 122 := by
    simpa [UInt32.le_iff_toNat_le, ← Char.toNat_val] using between
  have here : c = Char.ofNat c.toNat := c.ofNat_toNat.symm
  generalize c.toNat = n at bounds here
  obtain ⟨low, high⟩ := bounds
  rw [here]
  interval_cases n <;> decide

/-- The small letters that are a motion in normal mode. -/
def movingLetters : List Char := ['h', 'j', 'k', 'l']

/-- The small letters that are a motion behind `d`. -/
def deletingLetters : List Char := ['d', 'h', 'j', 'k', 'l', 'w']

theorem action?_capital : ∀ c ∈ smallLetters, ∀ shift : Bool,
    action? { name := [↑c.toUpper], shift := shift } =
      if c ∈ movingLetters then none else action? { name := [↑c], shift := true } := by
  -- only the letters of the list are gone through: there are too many characters
  rw [← List.forall_iff_forall_mem]
  decide

theorem action?_shifted : ∀ c ∈ movingLetters,
    action? { name := [↑c], shift := true } = action? { name := [↑c] } := by
  rw [← List.forall_iff_forall_mem]
  decide

theorem motionNames_letters : ∀ c ∈ smallLetters, ([↑c.toUpper] : Text) ∉ motionNames ∧
    (([↑c] : Text) ∈ motionNames → c ∈ deletingLetters) := by
  rw [← List.forall_iff_forall_mem]
  decide

variable {k k' : Key} {c : Char}

theorem typed?_of_name (named : k.name = [↑c]) :
    k.typed? = if k.control || k.metaKey then none else some ↑c := by
  simp only [typed?, named]

namespace SameCapital

theorem action?_eq (same : k.SameCapital k' c) :
    k.action? = if c ∈ movingLetters then none else k'.action? := by
  rw [Key.action?_eq k, Key.action?_eq k', same.capital, same.small, same.shift]
  exact action?_capital c (mem_smallLetters same.letter) k.shift

theorem action?_unshifted (same : k.SameCapital k' c) (moving : c ∈ movingLetters) :
    k'.action? = action? { k' with shift := false } := by
  rw [Key.action?_eq k', Key.action?_eq { k' with shift := false }, same.small, same.shift]
  exact action?_shifted c moving

theorem motion?_capital (same : k.SameCapital k' c) : k.motion? = none := by
  refine motion?_eq_none ?_
  rw [same.capital]
  exact (motionNames_letters c (mem_smallLetters same.letter)).1

theorem motion?_small (same : k.SameCapital k' c) (other : c ∉ deletingLetters) :
    k'.motion? = none := by
  refine motion?_eq_none ?_
  rw [same.small]
  exact fun motion => other ((motionNames_letters c (mem_smallLetters same.letter)).2 motion)

end SameCapital
end Key

namespace Editor

/-- The small letters that normal mode reads by their name alone. -/
def lettersByName (e : Editor) : List Char :=
  if e.deleting then Key.deletingLetters else Key.movingLetters

variable {e : Editor} {k k' : Key} {c : Char}

theorem pressNormal_capital (same : k.SameCapital k' c) :
    (c ∉ e.lettersByName → e.pressNormal k = e.pressNormal k') ∧
      (c ∈ e.lettersByName → e.pressNormal k = { e with deleting := false } ∧
        e.pressNormal k' = e.pressNormal { k' with shift := false }) := by
  cases waiting : e.deleting with
  | true =>
      simp only [lettersByName, pressNormal, waiting, if_true, same.motion?_capital]
      refine ⟨fun other => ?_, fun _ => ⟨trivial, rfl⟩⟩
      rw [same.motion?_small other]
  | false =>
      simp only [lettersByName, pressNormal, waiting, Bool.false_eq_true, if_false]
      refine ⟨fun other => ?_, fun moving => ⟨?_, ?_⟩⟩
      · rw [same.action?_eq, if_neg other]
      · rw [same.action?_eq, if_pos moving]
        simp [← waiting]
      · rw [same.action?_unshifted moving]

theorem pressInsert_named (named : k.name = [↑c]) :
    e.pressInsert k = if k.control || k.metaKey then e else e.insertChar c := by
  simp only [pressInsert, Key.letter_not_named named, Key.typed?_of_name named, Bool.false_eq_true,
    if_false]
  cases k.control || k.metaKey <;> rfl

theorem pressCommand_named (written : Bool) (named : k.name = [↑c]) :
    e.pressCommand written k =
      if k.control || k.metaKey then e else { e with command := e.command ++ [↑c] } := by
  simp only [pressCommand, Key.letter_not_named named, Key.typed?_of_name named, Bool.false_eq_true,
    if_false]
  cases k.control || k.metaKey <;> rfl

/-- The two forms of a capital letter do the same in normal mode, behind `d` and elsewhere, unless
the small letter is read by its name alone there: then the capital only ends the waiting, while
the small letter does what it does without shift. In the other modes the capital is typed as a
capital and the small letter as a small one, if not held back by another modifier. A closed editor
ignores both. -/
theorem capital_letters_come_in_two_forms (same : k.SameCapital k' c) (e : Editor)
    (written : Bool) :
    let capital := e.press written k
    let small := e.press written k'
    let quiet := { e with message := none }
    (e.closed = true → capital = e ∧ small = e) ∧
    (e.closed = false → e.mode = .normal →
      (c ∉ e.lettersByName → capital = small) ∧
      (c ∈ e.lettersByName →
        capital = e.atRest ∧ small = e.press written { k' with shift := false })) ∧
    (e.closed = false → e.mode ≠ .normal →
      ((k.control || k.metaKey) = true → capital = quiet ∧ small = quiet) ∧
      ((k.control || k.metaKey) = false →
        (e.mode = .insert → capital = quiet.insertChar c.toUpper ∧ small = quiet.insertChar c) ∧
        (e.mode = .command →
          capital = { quiet with command := e.command ++ [↑c.toUpper] } ∧
          small = { quiet with command := e.command ++ [↑c] }))) := by
  intro capital small quiet
  have held : (k'.control || k'.metaKey) = (k.control || k.metaKey) := by
    rw [same.control, same.metaKey]
  refine ⟨fun closed => ?_, fun still normal => ?_, fun still typing => ⟨fun other => ?_,
    fun alone => ⟨fun insert => ?_, fun command => ?_⟩⟩⟩
  · exact ⟨press_of_closed closed written k, press_of_closed closed written k'⟩
  · have normal_press (k : Key) : e.press written k = quiet.pressNormal k :=
      (press_of_open still written k).1 normal
    obtain ⟨alike, apart⟩ := pressNormal_capital (e := quiet) same
    simp only [capital, small, normal_press]
    exact ⟨alike, apart⟩
  · have ignored (k : Key) (named : ∃ c : Char, k.name = [↑c])
        (other : (k.control || k.metaKey) = true) : e.press written k = quiet := by
      obtain ⟨c, named⟩ := named
      obtain ⟨_, insert, command⟩ := press_of_open still written k
      cases mode : e.mode with
      | normal => exact absurd mode typing
      | insert => rw [insert mode, pressInsert_named named, if_pos other]
      | command => rw [command mode, pressCommand_named written named, if_pos other]
    exact ⟨ignored k ⟨_, same.capital⟩ other, ignored k' ⟨_, same.small⟩ (held.trans other)⟩
  · have typed (k : Key) : e.press written k = quiet.pressInsert k :=
      (press_of_open still written k).2.1 insert
    simp only [capital, small, typed, pressInsert_named same.capital, pressInsert_named same.small,
      held, alone, Bool.false_eq_true, if_false, and_self]
  · have typed (k : Key) : e.press written k = quiet.pressCommand written k :=
      (press_of_open still written k).2.2 command
    simp only [capital, small, typed, pressCommand_named written same.capital,
      pressCommand_named written same.small, held, alone, Bool.false_eq_true, if_false]
    exact ⟨rfl, rfl⟩

/-- `D` in both forms, and `J`, which goes down in one of them. -/
theorem twoLines_by_capitals :
    let e := { twoLines .normal with row := 0, col := 1 }
    let big (letter : Char) : Key := { name := [↑letter] }
    let shifted (letter : Char) : Key := { name := [↑letter], shift := true }
    (big 'D').SameCapital (shifted 'd') 'd' ∧ (big 'J').SameCapital (shifted 'j') 'j' ∧
      e.press true (big 'D') = e.press true (shifted 'd') ∧
      (e.press true (big 'D')).content = ("a\ncd" : Text) ∧
      e.press true (big 'J') = e ∧ e.press true (shifted 'j') = e.press true (.plain "j") ∧
      (e.press true (.plain "j")).row = 1 := by
  intro e big shifted
  have d : (big 'D').SameCapital (shifted 'd') 'd' := ⟨rfl, rfl, rfl, rfl, rfl, rfl⟩
  have j : (big 'J').SameCapital (shifted 'j') 'j' := ⟨rfl, rfl, rfl, rfl, rfl, rfl⟩
  obtain ⟨alike, _⟩ := (capital_letters_come_in_two_forms d e true).2.1 rfl rfl
  obtain ⟨_, apart⟩ := (capital_letters_come_in_two_forms j e true).2.1 rfl rfl
  obtain ⟨rests, goes⟩ := apart (by decide)
  exact ⟨d, j, alike (by decide), by decide, rests, goes, by decide⟩

/-- Behind `i`, shift and `a` type a small letter. -/
theorem shift_is_not_typed :
    let e := (ofFile "f" []).press true (.plain "i")
    let capital : Key := { name := ['A'] }
    let small : Key := { name := ['a'], shift := true }
    capital.SameCapital small 'a' ∧ (e.press true capital).content = ("A" : Text) ∧
      (e.press true small).content = ("a" : Text) ∧ e.press true capital ≠ e.press true small := by
  intro e capital small
  exact ⟨⟨rfl, rfl, rfl, rfl, rfl, rfl⟩, by decide, by decide, by decide⟩

end Editor
end PocketShell
