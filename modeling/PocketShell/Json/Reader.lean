import PocketShell.Json.Value

/-!
Reading JSON. Blanks are space, tab, line feed and carriage return; control characters may not
stand in a string; `NaN`, `Infinity` and `-Infinity` are numbers; a comma must be followed by
another item. A number without fraction and exponent is whole, and may have a limited number of
digits only.
-/

namespace PocketShell.Json

/-- A whole number with more digits than can be read. -/
structure LongNumber where
  digits : Nat
  deriving DecidableEq, Repr

def maxDigits : Nat := 4300

def LongNumber.message (n : LongNumber) : Text :=
  "Exceeds the limit (" ++ Text.ofNat maxDigits
    ++ " digits) for integer string conversion: value has " ++ Text.ofNat n.digits
    ++ " digits; use sys.set_int_max_str_digits() to increase the limit"

/-- Why a text cannot be read; of several reasons the first one in the text counts. -/
inductive ReadError
  | malformed
  | longNumber (n : LongNumber)
  deriving DecidableEq, Repr

def isSpace (c : CodePoint) : Bool := c == ' ' || c == '\t' || c == '\n' || c == '\r'

def skipSpace (t : Text) : Text := t.dropWhile isSpace

def isDigit (c : CodePoint) : Bool := '0' ≤ c && c ≤ '9'

def hexDigit? (c : CodePoint) : Option Nat :=
  if '0' ≤ c ∧ c ≤ '9' then some (c.toNat - 48)
  else if 'a' ≤ c ∧ c ≤ 'f' then some (c.toNat - 87)
  else if 'A' ≤ c ∧ c ≤ 'F' then some (c.toNat - 55)
  else none

def hexNumber? (a b c d : CodePoint) : Option Nat := do
  let a ← hexDigit? a
  let b ← hexDigit? b
  let c ← hexDigit? c
  let d ← hexDigit? d
  return ((a * 16 + b) * 16 + c) * 16 + d

def escaped? (c : CodePoint) : Option CodePoint :=
  if c = '"' ∨ c = '\\' ∨ c = '/' then some c
  else if c = 'b' then some '\x08'
  else if c = 'f' then some '\x0c'
  else if c = 'n' then some '\n'
  else if c = 'r' then some '\r'
  else if c = 't' then some '\t'
  else none

/-- A first half of a surrogate pair stands in the text when no second half follows it. -/
def unpaired : Option Nat → Text
  | none => []
  | some half => [.ofNat half]

/-- The text and the first half that an escape `\uXXXX` yields behind the first half `half`. -/
def unit (half : Option Nat) (n : Nat) : Text × Option Nat :=
  if 0xD800 ≤ n ∧ n < 0xDC00 then (unpaired half, some n)
  else if 0xDC00 ≤ n ∧ n < 0xE000 then
    match half with
    | some h => ([.ofNat (0x10000 + (h - 0xD800) * 0x400 + (n - 0xDC00))], none)
    | none => ([.ofNat n], none)
  else (unpaired half ++ [.ofNat n], none)

/-- Reads a string behind its opening quote; `half` is the first half of a surrogate pair that
has just been read. Gives the text and what follows the closing quote. -/
def readString (half : Option Nat) : Text → Option (Text × Text)
  | '\\' :: 'u' :: a :: b :: c :: d :: t =>
      match hexNumber? a b c d with
      | none => none
      | some n =>
          (readString (unit half n).2 t).map fun (s, rest) => ((unit half n).1 ++ s, rest)
  | '\\' :: c :: t =>
      match escaped? c with
      | none => none
      | some e => (readString none t).map fun (s, rest) => (unpaired half ++ e :: s, rest)
  | c :: t =>
      if c = '"' then some (unpaired half, t)
      else if c.toNat < 0x20 then none
      else (readString none t).map fun (s, rest) => (unpaired half ++ c :: s, rest)
  | [] => none

def natOfDigits (digits : Text) : Nat := digits.foldl (fun n c => n * 10 + (c.toNat - 48)) 0

/-- The digits at the head of a text, if there are any, and what follows them. -/
def readDigits (t : Text) : Option (Text × Text) :=
  match t.takeWhile isDigit with
  | [] => none
  | digits => some (digits, t.dropWhile isDigit)

/-- The digits behind a decimal point, if there are any, and what follows them. -/
def readFraction (t : Text) : Option (Text × Text) :=
  match t with
  | '.' :: u => readDigits u
  | _ => none

/-- An exponent, if there is one, and what follows it. -/
def readExponent (t : Text) : Option (Int × Text) :=
  match t with
  | e :: u =>
      if e = 'e' ∨ e = 'E' then
        let (negative, u) := match u with
          | '-' :: v => (true, v)
          | '+' :: v => (false, v)
          | v => (false, v)
        (readDigits u).map fun (digits, rest) =>
          let n : Int := natOfDigits digits
          (if negative then -n else n, rest)
      else none
  | [] => none

/-- A whole number, unless it has too many digits. -/
def wholeNumber (negative : Bool) (digits : Text) : Except ReadError Value :=
  if maxDigits < digits.length then .error (.longNumber ⟨digits.length⟩)
  else
    let n : Int := natOfDigits digits
    .ok (.integer (if negative then -n else n))

/-- Reads a number whose sign has been read: `0` or digits that do not begin with `0`, then
perhaps a fraction and an exponent. -/
def readUnsigned (negative : Bool) (t : Text) : Except ReadError (Value × Text) :=
  let whole := match t with
    | '0' :: u => some (['0'], u)
    | u => readDigits u
  match whole with
  | none => .error .malformed
  | some (digits, rest) =>
      let (fraction, rest, exact) := match readFraction rest with
        | some (fraction, rest) => (fraction, rest, false)
        | none => ([], rest, true)
      let (power, rest, exact) := match readExponent rest with
        | some (power, rest) => (power, rest, false)
        | none => (0, rest, exact)
      if exact then (wholeNumber negative digits).map fun v => (v, rest)
      else
        .ok (.floating (.ofDecimal negative (natOfDigits (digits ++ fraction))
          (power - fraction.length)), rest)

def readNumber (t : Text) : Except ReadError (Value × Text) :=
  match t with
  | '-' :: u => readUnsigned true u
  | _ => readUnsigned false t

mutual

/-- Reads one value at the head of the text; `n` bounds the steps. -/
def readValue : Nat → Text → Except ReadError (Value × Text)
  | 0, _ => .error .malformed
  | n + 1, t =>
      match t with
      | '"' :: u =>
          match readString none u with
          | none => .error .malformed
          | some (s, rest) => .ok (.string s, rest)
      | '\x7b' :: u =>
          match skipSpace u with
          | '\x7d' :: v => .ok (.object .nil, v)
          | v => readMembers n .nil v
      | '[' :: u =>
          match skipSpace u with
          | ']' :: v => .ok (.array .nil, v)
          | v => (readItems n v).map fun (items, rest) => (.array items, rest)
      | 'n' :: 'u' :: 'l' :: 'l' :: u => .ok (.null, u)
      | 't' :: 'r' :: 'u' :: 'e' :: u => .ok (.boolean true, u)
      | 'f' :: 'a' :: 'l' :: 's' :: 'e' :: u => .ok (.boolean false, u)
      | 'N' :: 'a' :: 'N' :: u => .ok (.floating .nan, u)
      | 'I' :: 'n' :: 'f' :: 'i' :: 'n' :: 'i' :: 't' :: 'y' :: u =>
          .ok (.floating (.infinite false), u)
      | '-' :: 'I' :: 'n' :: 'f' :: 'i' :: 'n' :: 'i' :: 't' :: 'y' :: u =>
          .ok (.floating (.infinite true), u)
      | u => readNumber u

/-- Reads the items of an array, at least one, up to the closing bracket. -/
def readItems : Nat → Text → Except ReadError (Items × Text)
  | 0, _ => .error .malformed
  | n + 1, t =>
      match readValue n t with
      | .error e => .error e
      | .ok (v, rest) =>
          match skipSpace rest with
          | ']' :: u => .ok (.cons v .nil, u)
          | ',' :: u => (readItems n (skipSpace u)).map fun (items, rest) => (.cons v items, rest)
          | _ => .error .malformed

/-- Reads the members of an object, at least one, behind those in `known`. -/
def readMembers : Nat → Members → Text → Except ReadError (Value × Text)
  | 0, _, _ => .error .malformed
  | n + 1, known, t =>
      match t with
      | '"' :: u =>
          match readString none u with
          | none => .error .malformed
          | some (name, rest) =>
              match skipSpace rest with
              | ':' :: u =>
                  match readValue n (skipSpace u) with
                  | .error e => .error e
                  | .ok (v, rest) =>
                      match skipSpace rest with
                      | '\x7d' :: u => .ok (.object (known.insert name v), u)
                      | ',' :: u => readMembers n (known.insert name v) (skipSpace u)
                      | _ => .error .malformed
              | _ => .error .malformed
      | _ => .error .malformed

end

/-- The value that the whole text stands for. Every character is the cause of at most two
steps, so the bound is never met. -/
def read (t : Text) : Except ReadError Value :=
  match readValue (2 * t.length + 2) (skipSpace t) with
  | .error e => .error e
  | .ok (v, rest) => if (skipSpace rest).isEmpty then .ok v else .error .malformed

end PocketShell.Json
