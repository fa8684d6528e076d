import PocketShell.Proofs.Pipeline.Written
import PocketShell.Proofs.Session.Drawing
import PocketShell.Proofs.Session.Listing
import PocketShell.Proofs.Shell.PlainLine
import PocketShell.Proofs.Shell.Restart

/-!
What lines print that show the working directory. A line of one word, with a filter behind it or
none, prints what the command says without arguments, and the filter is applied to it if there is
anything to filter.
-/

namespace PocketShell

namespace Stages

/-- A filter behind a command without an operator is the last stage of its line. -/
theorem ofLine_filtered {command : Text} {g : GrepText} (trimmed : Text.Trimmed command)
    (no_pipe : .char '|' ∉ command) (no_redirect : .char '>' ∉ command) (legible : g.Legible) :
    ofLine (written command (some g) none) = ⟨command, some g.filter, none⟩ := by
  have parted : ofPipe (written command (some g) none) = ⟨command, some g.filter, none⟩ :=
    ofPipe_written trimmed no_pipe legible (by simp)
  simp only [ofLine, parted, Redirect.parse_eq_none no_redirect]

end Stages

namespace Shell

variable {σ : Type} [KeyValueStore σ] {sh : Shell σ} {line name : Text}
  {filter : Option GrepFilter} {tool : Tool}

theorem execute_bare (parted : Stages.ofLine line = ⟨name, filter, none⟩) (named : name.Plain)
    (known : (sh.session.registry.get? name).map Command.handler = some (.job (.tool tool))) :
    (sh.execute line).1 =
      filtered filter
        ((sh.session.remember line).use sh.machine.clock tool [] filter.isSome).1 := by
  have words : line.all isBlank = false := by
    rw [← Bool.not_eq_true]
    intro blank
    have name_blank := Stages.blank_of_ofLine blank
    rw [parted] at name_blank
    obtain ⟨c, rest, rfl⟩ := List.exists_cons_of_ne_nil named.1
    simp [(named.2 c (by simp)).1] at name_blank
  have first : commandName line = name := by simp [commandName, parted, named.words]
  have given : invocation sh.session line = ⟨name, [], filter.isSome⟩ := by
    have no_args : arguments sh.session line = [] := by
      simp only [arguments, parted, named.words, List.tail_cons, Session.expandWildcards]
      split <;> rfl
    rw [invocation, first, no_args, parted]
  rw [← first] at known
  obtain ⟨command, found, handler⟩ := Option.map_eq_some_iff.mp known
  rw [execute_eq, executeWith_of_known _ sh words found, given, handler, parted]
  rfl

/--
A listing shows the visible entries, directories first and each group in the order of names; and a
filter behind it prints exactly those rows of the listing that it keeps, one a line.
-/
theorem filter_keeps_rows_of_listing (sh : Shell σ) {d : Directory}
    (own : (sh.session.registry.get? "ls").map Command.handler = some (.job (.tool .ls)))
    (canonical : Path.Canonical sh.session.path)
    (here : sh.session.nodeAt sh.session.path = some (.dir d))
    (named : ∀ name ∈ d.names, Listing.OwnRow name) :
    let rows := Listing.rows d
    rows.Perm ((Listing.visible d).map Listing.label) ∧
    (∀ isDir, (Listing.sortedNames isDir (Listing.visible d)).Pairwise fun t u =>
      t = u ∨ Text.Precedes t u) ∧
    (sh.execute "ls").1 = Text.join "    " rows ∧
    ∀ g : GrepText, g.Legible →
      (sh.execute (Stages.written "ls" (some g) none)).1 =
        Text.unlines (rows.filter g.filter.keeps) := by
  intro rows
  have word : Text.Plain "ls" := by decide
  have output (line : Text) (piped : Bool) :
      ((sh.session.remember line).use sh.machine.clock .ls [] piped).1 =
        if piped then Text.unlines rows else Text.join "    " rows :=
    Session.list_eq (s := sh.session.remember line) canonical here sh.machine.clock piped
  have own_rows := Listing.rows_ownRow named
  refine ⟨Listing.rows_perm d, fun isDir => ?_, ?_, fun g legible => ?_⟩
  · exact (Listing.pairwise_sortedNames isDir _).imp fun {t u} sorted => Text.ble_iff.mp sorted
  · have parted : Stages.ofLine "ls" = ⟨"ls", none, none⟩ :=
      Stages.ofLine_plain (by decide) (by decide)
    rw [execute_bare parted word own, output]
    rfl
  · have parted : Stages.ofLine (Stages.written "ls" (some g) none) = ⟨"ls", some g.filter, none⟩ :=
      Stages.ofLine_filtered (by decide) (by decide) (by decide) legible
    rw [execute_bare parted word own, output]
    show filtered (some g.filter) (Text.unlines rows) = _
    -- without a row there is no output, and an empty output is not filtered
    by_cases some_row : rows = []
    · rw [some_row]
      rfl
    · have filled : Text.unlines rows ≠ [] :=
        Text.join_ne_nil some_row fun row mem => (own_rows row mem).1
      rw [filtered, if_neg (by simpa using filled)]
      exact g.filter.apply_unlines some_row own_rows

/-- The guest, in a home with these entries. -/
def shellAtHome (home : Directory) : Shell MemoryStore :=
  guestShell.withSession { guestShell.session with
    root := .ofList [("home", .dir (.ofList [("guest", .dir home)]))] }

/-- Capitals come first, and the hidden file is not in the listing. -/
theorem crowded_home_is_listed :
    let home : Directory := .ofList
      [("b.txt", .file "b"), ("work", .dir .nil), (".note", .file []), ("B", .file []),
        ("Z", .dir .nil)]
    let sh := shellAtHome home
    Path.Canonical sh.session.path ∧ (∀ name ∈ home.names, Listing.OwnRow name) ∧
    (sh.execute "ls").1 = ("Z/    work/    B    b.txt" : Text) ∧
    (sh.execute ("ls | grep -v 'B' -i" : Text)).1 = ("Z/\nwork/" : Text) := by
  intro home sh
  have own : (sh.session.registry.get? "ls").map Command.handler = some (.job (.tool .ls)) := by
    decide +kernel
  have legal : Path.LegalSegment "guest" := by decide
  have canonical : Path.Canonical sh.session.path := Path.canonical_home legal
  have named : ∀ name ∈ home.names, Listing.OwnRow name := by decide +kernel
  let g : GrepText := ⟨[.invert], '\'', "B", [.ignoreCase]⟩
  have legible : g.Legible := ⟨rfl, by decide, by decide⟩
  obtain ⟨_, _, whole, kept⟩ := filter_keeps_rows_of_listing sh own canonical rfl named
  have dirs : [("Z" : Text), ("work" : Text)] = Listing.sortedNames true (Listing.visible home) :=
    Listing.eq_sortedNames (by decide +kernel) (by decide +kernel)
  have files : [("B" : Text), "b.txt"] = Listing.sortedNames false (Listing.visible home) :=
    Listing.eq_sortedNames (by decide +kernel) (by decide +kernel)
  have rows : Listing.rows home =
      [("Z/" : Text), ("work/" : Text), ("B" : Text), ("b.txt" : Text)] := by
    rw [Listing.rows, ← dirs, ← files]
    rfl
  refine ⟨canonical, named, whole.trans ?_, (kept g legible).trans ?_⟩
  · rw [rows]
    rfl
  · rw [rows]
    decide +kernel

/--
Two drawings made at the same path are the same exactly if the trees have the same names, kinds and
places, in the same order; and a drawing has one line for each node, below its header.
-/
theorem drawing_determines_outline {τ : Type} [KeyValueStore τ] (sh : Shell σ) (sh' : Shell τ)
    {d d' : Directory}
    (own : (sh.session.registry.get? "tree").map Command.handler = some (.job (.tool .tree)))
    (own' : (sh'.session.registry.get? "tree").map Command.handler = some (.job (.tool .tree)))
    (path : sh'.session.path = sh.session.path) (no_feed : .char '\n' ∉ sh.session.path)
    (here : sh.session.nodeAt sh.session.path = some (.dir d))
    (here' : sh'.session.nodeAt sh'.session.path = some (.dir d'))
    (plain : ∀ name ∈ d.namesBelow, Drawing.Plain name)
    (plain' : ∀ name ∈ d'.namesBelow, Drawing.Plain name) :
    ((sh.execute "tree").1 = (sh'.execute "tree").1 ↔ d.outline = d'.outline) ∧
    ∃ rows, Text.lines (sh.execute "tree").1 = Drawing.header sh.session.path :: rows ++ [[]] ∧
      rows.length = d.namesBelow.length := by
  have drawn {τ : Type} [KeyValueStore τ] {sh : Shell τ} {d : Directory}
      (own : (sh.session.registry.get? "tree").map Command.handler = some (.job (.tool .tree)))
      (here : sh.session.nodeAt sh.session.path = some (.dir d)) :
      (sh.execute "tree").1 = Drawing.text sh.session.path d := by
    have parted : Stages.ofLine "tree" = ⟨"tree", none, none⟩ :=
      Stages.ofLine_plain (by decide) (by decide)
    have draws : (sh.session.remember "tree").drawTree = Drawing.text sh.session.path d := by
      have same : (sh.session.remember "tree").nodeAt (sh.session.remember "tree").path =
          some (.dir d) := here
      simp only [Session.drawTree, same]
      rfl
    rw [execute_bare parted (by decide) own]
    exact draws
  rw [drawn own here, drawn own' here', path]
  exact ⟨Drawing.text_inj no_feed plain plain', _, Drawing.lines_text no_feed plain,
    Drawing.entryLines_length [] d⟩

/-- What stands in a file is not drawn, and a name that looks like a branch is not taken for one. -/
theorem branches_in_names_are_drawn :
    let home (text : Text) : Directory := .ofList
      [("├── a", .dir (.ofList [("│   b", .file text)])), ("c", .dir .nil)]
    let flat : Directory := .ofList
      [("├── a", .dir .nil), ("│   b", .file []), ("c", .dir .nil)]
    let drawn (d : Directory) : Text := ((shellAtHome d).execute "tree").1
    (∀ name ∈ (home "x").namesBelow, Drawing.Plain name) ∧
    drawn (home "x") = drawn (home "y") ∧ drawn (home "x") ≠ drawn flat ∧
    (Text.lines (drawn (home "x"))).length = 5 := by
  intro home flat drawn
  have own (d : Directory) : ((shellAtHome d).session.registry.get? "tree").map Command.handler =
      some (.job (.tool .tree)) := by
    show (guestShell.session.registry.get? "tree").map Command.handler = _
    decide +kernel
  have plain (text : Text) : ∀ name ∈ (home text).namesBelow, Drawing.Plain name := by
    show ∀ name ∈ (home []).namesBelow, Drawing.Plain name
    decide
  have same := drawing_determines_outline (shellAtHome (home "x")) (shellAtHome (home "y"))
    (own _) (own _) rfl (by decide) rfl rfl (plain _) (plain _)
  have other := drawing_determines_outline (shellAtHome (home "x")) (shellAtHome flat)
    (own _) (own _) rfl (by decide) rfl rfl (plain _) (by decide)
  obtain ⟨rows, lines, count⟩ := same.2
  refine ⟨plain _, same.1.mpr rfl, fun drawing => ?_, ?_⟩
  · exact absurd (other.1.mp drawing) (by decide)
  · rw [lines]
    simp only [List.cons_append, List.length_cons, List.length_append, count]
    rfl

end Shell
end PocketShell
