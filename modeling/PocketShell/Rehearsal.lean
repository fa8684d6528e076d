import PocketShell.Desk
import PocketShell.Log

/-!
Editors without a shell behind them. The host has its answers to saves written down beforehand,
and answers yes when they are used up; it keeps what was saved and counts the editors closed.
A host without callbacks writes nothing down: every save succeeds there.
-/

namespace PocketShell

structure Rehearsal where
  answers : List Bool := []
  saved : List (Text × Text) := []
  exits : Nat := 0
  log : List LogEntry := []
  deriving DecidableEq, Repr

namespace Rehearsal

def host : Host Rehearsal where
  save _ file text r :=
    (r.answers.headD true,
      { r with answers := r.answers.tail, saved := r.saved ++ [(file, text)] })
  refused file r := { r with log := r.log ++ [.couldNotWrite file] }
  closed _ r := { r with exits := r.exits + 1 }

def silentHost : Host Rehearsal where
  save _ _ _ r := (true, r)
  refused _ r := r
  closed _ r := r

end Rehearsal
end PocketShell
