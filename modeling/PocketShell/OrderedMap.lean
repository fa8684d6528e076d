/-!
Finite maps that remember the order in which their keys arrived: giving a present key a new
value keeps its place, a new key comes last.
-/

namespace PocketShell

structure OrderedMap (α β : Type) where
  toList : List (α × β) := []
  deriving Repr, DecidableEq

namespace OrderedMap

variable {α β : Type} [DecidableEq α]

def empty : OrderedMap α β := ⟨[]⟩

def keys (m : OrderedMap α β) : List α := m.toList.map Prod.fst

def get? (m : OrderedMap α β) (key : α) : Option β :=
  (m.toList.find? (·.1 = key)).map Prod.snd

def contains (m : OrderedMap α β) (key : α) : Bool := (m.get? key).isSome

def insertEntry (key : α) (value : β) : List (α × β) → List (α × β)
  | [] => [(key, value)]
  | (k, v) :: rest => if k = key then (key, value) :: rest else (k, v) :: insertEntry key value rest

def insert (m : OrderedMap α β) (key : α) (value : β) : OrderedMap α β :=
  ⟨insertEntry key value m.toList⟩

def erase (m : OrderedMap α β) (key : α) : OrderedMap α β := ⟨m.toList.filter (·.1 ≠ key)⟩

def ofList (entries : List (α × β)) : OrderedMap α β :=
  entries.foldl (fun m e => m.insert e.1 e.2) empty

end OrderedMap
end PocketShell
