import PocketShell.Json.Reader
import PocketShell.Log
import PocketShell.Store.Disk
import PocketShell.Text.Bytes

/-!
Stores of texts by key. A call of a store may fail and may leave notes for the log; either way it
leaves a store behind.
-/

namespace PocketShell

inductive StoreFault
  | offline
  | quotaExceeded
  | removeUnsupported
  | undecodable
  | unencodable (cause : Unencodable)
  | nullInPath
  | longNumber (n : Json.LongNumber)
  | unwritable (cause : DiskError)
  deriving DecidableEq, Repr

def StoreFault.message : StoreFault → Text
  | .offline => "store offline"
  | .quotaExceeded => "quota exceeded"
  | .removeUnsupported => "remove unsupported"
  | .undecodable => "'utf-8' codec can't decode the state file"
  | .unencodable cause => cause.message
  | .nullInPath => "embedded null byte"
  | .longNumber n => n.message
  | .unwritable cause => cause.message

structure Reply (σ α : Type) where
  outcome : Except StoreFault α
  store : σ
  notes : List LogEntry := []

/-- Goes on after a call that has not failed; the notes of both are kept. -/
def Reply.andThen {σ α β : Type} (reply : Reply σ α) (next : α → σ → Reply σ β) : Reply σ β :=
  match reply with
  | ⟨.error e, store, notes⟩ => ⟨.error e, store, notes⟩
  | ⟨.ok a, store, notes⟩ =>
      let ⟨outcome, store, more⟩ := next a store
      ⟨outcome, store, notes ++ more⟩

class KeyValueStore (σ : Type) where
  get : σ → Text → Reply σ (Option Text)
  set : σ → Text → Text → Reply σ Unit
  remove : σ → Text → Reply σ Unit

end PocketShell
