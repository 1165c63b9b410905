import Concord.Table
import Concord.Text.Quoted

namespace Concord

/-! Field paths: one way to name a field, whichever representation declares it.

A path is a list of named segments, each of which may be marked as list-valued, and is written
`work[].location.city`.  Names are never empty and hold no separator and no bracket, so a path
can be read back from its written form, and paths are listed in the order of their written form.
-/

inductive PathError where
  | emptySegment
  | reservedCharacter (name : String) (character : Char)
  | danglingMarker (path : String)
  | repeatedMarker (path : String)
deriving DecidableEq, Repr

def PathError.message : PathError → String
  | .emptySegment => "empty path segment"
  | .reservedCharacter name character =>
      "segment name " ++ Text.quoted name ++ " contains reserved character '" ++
        String.singleton character ++ "'"
  | .danglingMarker path => "list marker does not follow a field in " ++ Text.quoted path
  | .repeatedMarker path => "consecutive list markers in " ++ Text.quoted path

def isReserved (c : Char) : Bool := c == '.' || c == '[' || c == ']'

structure FieldName where
  text : String
  nonempty : text ≠ ""
  unreserved : ∀ c ∈ text.toList, isReserved c = false
deriving DecidableEq

namespace FieldName

instance : Keyed FieldName := ⟨text⟩

instance : LT FieldName := ⟨fun earlier later => earlier.text < later.text⟩

/-- The empty text is refused first, then the first reserved character. -/
def ofString (text : String) : Except PathError FieldName :=
  if nonempty : text = "" then .error .emptySegment
  else
    match found : text.toList.find? isReserved with
    | some character => .error (.reservedCharacter text character)
    | none => .ok ⟨text, nonempty, by simpa using found⟩

def ofString? (text : String) : Option FieldName := (ofString text).toOption

end FieldName

structure Segment where
  name : FieldName
  list : Bool
deriving DecidableEq

namespace Segment

def listMarker : List Char := ['[', ']']

def chars (segment : Segment) : List Char :=
  segment.name.text.toList ++ if segment.list then listMarker else []

def render (segment : Segment) : String := String.ofList segment.chars

def ofString (name : String) (list : Bool) : Except PathError Segment := do
  return { name := ← FieldName.ofString name, list }

end Segment

structure FieldPath where
  segments : List Segment
deriving DecidableEq

namespace FieldPath

/-- The path above every section, written as the empty text. -/
def root : FieldPath := ⟨[]⟩

def field (name : FieldName) : FieldPath := ⟨[{ name, list := false }]⟩

def append (path : FieldPath) (segment : Segment) : FieldPath := ⟨path.segments ++ [segment]⟩

def child (path : FieldPath) (name : FieldName) : FieldPath :=
  path.append { name, list := false }

def length (path : FieldPath) : Nat := path.segments.length

def leaf? (path : FieldPath) : Option FieldName := path.segments.getLast?.map (·.name)

/-- Whether the last segment has this name, marked or not. -/
def endsWith (path : FieldPath) (name : String) : Bool :=
  path.leaf?.map (·.text) = some name

def chars (path : FieldPath) : List Char :=
  ['.'].intercalate (path.segments.map Segment.chars)

def render (path : FieldPath) : String := String.ofList path.chars

instance : Keyed FieldPath := ⟨render⟩

instance : LT FieldPath := ⟨fun earlier later => earlier.render < later.render⟩

/-- The stretches between separators: one more than there are separators. -/
def pieces : List Char → List (List Char)
  | [] => [[]]
  | c :: rest =>
      if c = '.' then [] :: pieces rest
      else
        match pieces rest with
        | [] => [[c]]
        | piece :: later => (c :: piece) :: later

/-- The text before a final list marker, if there is one. -/
def beforeMarker? : List Char → Option (List Char)
  | [] => none
  | c :: rest =>
      if c :: rest = Segment.listMarker then some []
      else (beforeMarker? rest).map (c :: ·)

/-- One piece of the written path `whole`. A marker needs a name before it, and only one is
allowed; both are checked before the name is. -/
def readPiece (whole : String) (piece : List Char) : Except PathError Segment :=
  match beforeMarker? piece with
  | none => Segment.ofString (String.ofList piece) false
  | some [] => .error (.danglingMarker whole)
  | some name =>
      if (beforeMarker? name).isSome then .error (.repeatedMarker whole)
      else Segment.ofString (String.ofList name) true

/-- Reads a written path; the leftmost piece at fault decides the error. -/
def parse (text : String) : Except PathError FieldPath :=
  if text = "" then .ok root
  else do return ⟨← (pieces text.toList).mapM (readPiece text)⟩

end FieldPath

end Concord
