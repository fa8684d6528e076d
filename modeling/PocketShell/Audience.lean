import PocketShell.Editor.Key
import PocketShell.Surface

/-!
Listeners on a surface that write down the keys they receive. A listener for one key ends its
own subscription while it handles that key.
-/

namespace PocketShell

structure Listener where
  name : Text
  once : Bool
  deriving DecidableEq, Repr

structure Audience where
  surface : Surface Listener := {}
  /-- Who received which key, in order. -/
  received : List (Nat × Text × Key) := []

namespace Audience

def subscribe (a : Audience) (listener : Listener) : Audience :=
  { a with surface := a.surface.subscribe listener }

def unsubscribe (a : Audience) (token : Nat) : Audience :=
  { a with surface := a.surface.unsubscribe token }

def draw (a : Audience) (frame : Text) : Audience := { a with surface := a.surface.draw frame }

def hear (k : Key) (subscription : Nat × Listener) (a : Audience) : Audience :=
  let heard := { a with received := a.received ++ [(subscription.1, subscription.2.name, k)] }
  if subscription.2.once then heard.unsubscribe subscription.1 else heard

def send (a : Audience) (k : Key) : Audience := Surface.dispatch Audience.surface (hear k) a

end Audience
end PocketShell
