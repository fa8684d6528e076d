import PocketShell.Text.Basic

/-!
A drawing surface that hands keys to its subscribers. Each subscription gets a token of its own;
ending a subscription a second time changes nothing. A key goes to all who are subscribed when
it is sent, in the order of their subscriptions, whatever they do to the surface meanwhile.
-/

namespace PocketShell

structure Surface (α : Type) where
  /-- The frames drawn so far, the latest first. -/
  frames : List Text := []
  subscriptions : List (Nat × α) := []
  nextToken : Nat := 0
  deriving Repr

namespace Surface

variable {α : Type}

def screen (s : Surface α) : Text := s.frames.headD []

def isActive (s : Surface α) : Bool := !s.subscriptions.isEmpty

def draw (s : Surface α) (frame : Text) : Surface α := { s with frames := frame :: s.frames }

def subscribe (s : Surface α) (subscriber : α) : Surface α :=
  { s with subscriptions := s.subscriptions ++ [(s.nextToken, subscriber)],
           nextToken := s.nextToken + 1 }

def unsubscribe (s : Surface α) (token : Nat) : Surface α :=
  { s with subscriptions := s.subscriptions.filter (·.1 ≠ token) }

/-- Hands something to every subscription of the surface in `w`, as it is before the first of
them acts. -/
def dispatch {W : Type} (surface : W → Surface α) (handle : Nat × α → W → W) (w : W) : W :=
  (surface w).subscriptions.foldl (fun w subscription => handle subscription w) w

end Surface
end PocketShell
