import PocketShell.OrderedMap
import PocketShell.Store.Basic

/-!
A store in memory, whose calls never fail, and one that is subject to outages: an outage makes
one kind of call fail, for every key or for a single one.
-/

namespace PocketShell

structure MemoryStore where
  entries : OrderedMap Text Text := .empty
  deriving DecidableEq, Repr

namespace MemoryStore

def get (s : MemoryStore) (key : Text) : Option Text := s.entries.get? key

def set (s : MemoryStore) (key value : Text) : MemoryStore := ⟨s.entries.insert key value⟩

def remove (s : MemoryStore) (key : Text) : MemoryStore := ⟨s.entries.erase key⟩

def contains (s : MemoryStore) (key : Text) : Bool := s.entries.contains key

def ofList (entries : List (Text × Text)) : MemoryStore := ⟨.ofList entries⟩

/-- The entries in the order of their keys. -/
def sortedEntries (s : MemoryStore) : List (Text × Text) :=
  s.entries.toList.mergeSort fun a b => Text.ble a.1 b.1

instance : KeyValueStore MemoryStore where
  get s key := ⟨.ok (s.get key), s, []⟩
  set s key value := ⟨.ok (), s.set key value, []⟩
  remove s key := ⟨.ok (), s.remove key, []⟩

end MemoryStore

inductive StoreCall
  | get
  | set
  | remove
  deriving DecidableEq, Repr

structure Outage where
  call : StoreCall
  /-- The key for which the call fails, or none if it fails for all. -/
  key : Option Text
  deriving DecidableEq, Repr

structure UnreliableStore where
  memory : MemoryStore := {}
  outages : List Outage := []
  deriving DecidableEq, Repr

namespace UnreliableStore

def fails (s : UnreliableStore) (call : StoreCall) (key : Text) : Bool :=
  s.outages.any fun o => o.call = call && (o.key.isNone || o.key = some key)

instance : KeyValueStore UnreliableStore where
  get s key := ⟨if s.fails .get key then .error .offline else .ok (s.memory.get key), s, []⟩
  set s key value :=
    if s.fails .set key then ⟨.error .quotaExceeded, s, []⟩
    else ⟨.ok (), { s with memory := s.memory.set key value }, []⟩
  remove s key :=
    if s.fails .remove key then ⟨.error .removeUnsupported, s, []⟩
    else ⟨.ok (), { s with memory := s.memory.remove key }, []⟩

end UnreliableStore
end PocketShell
