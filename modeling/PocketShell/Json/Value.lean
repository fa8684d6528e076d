import PocketShell.Decimal.Binary64
import PocketShell.Text.Basic

/-!
JSON values. The members of an object keep their order and have different names: a repeated
name keeps its first place and takes its last value.
-/

namespace PocketShell.Json

mutual

inductive Value
  | null
  | boolean (b : Bool)
  | integer (n : Int)
  | floating (x : Binary64)
  | string (t : Text)
  | array (items : Items)
  | object (members : Members)
  deriving DecidableEq

inductive Items
  | nil
  | cons (v : Value) (rest : Items)
  deriving DecidableEq

inductive Members
  | nil
  | cons (name : Text) (v : Value) (rest : Members)
  deriving DecidableEq

end

instance : Inhabited Value := ⟨.null⟩

namespace Items

def toList : Items → List Value
  | .nil => []
  | .cons v rest => v :: rest.toList

def ofList : List Value → Items
  | [] => .nil
  | v :: vs => .cons v (ofList vs)

end Items

namespace Members

def toList : Members → List (Text × Value)
  | .nil => []
  | .cons name v rest => (name, v) :: rest.toList

def ofList : List (Text × Value) → Members
  | [] => .nil
  | (name, v) :: rest => .cons name v (ofList rest)

def get? (key : Text) : Members → Option Value
  | .nil => none
  | .cons name v rest => if name = key then some v else rest.get? key

def insert (key : Text) (value : Value) : Members → Members
  | .nil => .cons key value .nil
  | .cons name v rest =>
      if name = key then .cons name value rest else .cons name v (rest.insert key value)

end Members

end PocketShell.Json
