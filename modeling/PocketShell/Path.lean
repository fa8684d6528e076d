import PocketShell.Text.Basic

/-!
Paths of the virtual tree. A path names a place by its segments, the non-empty pieces between
slashes. `resolve` brings a path to canonical form: a leading tilde stands for the home
directory, a relative path continues the current one, `.` stays and `..` goes up, but never
above the root.
-/

namespace PocketShell.Path

def segments (path : Text) : List Text := (Text.splitOn '/' path).filter (· ≠ [])

def ofSegments (names : List Text) : Text := '/' :: Text.join ['/'] names

/-- One step from the place `names` along a segment. -/
def step (names : List Text) (segment : Text) : List Text :=
  if segment = (['.', '.'] : Text) then names.dropLast
  else if segment = (['.'] : Text) then names
  else names ++ [segment]

def expandHome (home : Text) : Text → Text
  | [] => []
  | c :: path => if c = '~' then home ++ path else c :: path

def isAbsolute (path : Text) : Bool := path.head? == some (.char '/')

/-- The place that a path names, as the names from the root. -/
def place (path current home : Text) : List Text :=
  let path := expandHome home path
  let start := if isAbsolute path then [] else segments current
  (segments path).foldl step start

def resolve (path current home : Text) : Text := ofSegments (place path current home)

/-- The parent directory and the last segment; the root is its own parent and has no name. -/
def parentAndName (path : Text) : Text × Text :=
  match (segments path).getLast? with
  | none => (['/'], [])
  | some name => (ofSegments (segments path).dropLast, name)

def join (directory name : Text) : Text :=
  if directory = (['/'] : Text) then .char '/' :: name else directory ++ .char '/' :: name

/-- A name that can stand between slashes and means no step of its own. -/
def LegalSegment (name : Text) : Prop :=
  name ≠ [] ∧ .char '/' ∉ name ∧ name ≠ (['.'] : Text) ∧ name ≠ (['.', '.'] : Text)

instance (name : Text) : Decidable (LegalSegment name) := by unfold LegalSegment; infer_instance

/-- A path made of legal segments: it begins with a slash and, but for the root, ends in none. -/
def Canonical (path : Text) : Prop :=
  ∃ names : List Text, (∀ name ∈ names, LegalSegment name) ∧ path = ofSegments names

end PocketShell.Path
