namespace Concord.Files

/-! Paths of files as texts.

A path is kept as it was written; joining adds a separator only where one is missing, and nothing
is resolved.  Two paths are the same if they have the same components.
-/

def isSeparator (c : Char) : Bool := c == '/'

def isAbsolute (path : String) : Bool := path.toList.head?.any isSeparator

/-- The path taken below another one; an absolute path stays itself. -/
def join (base path : String) : String :=
  if isAbsolute path then path
  else if base = "" || base.toList.getLast?.any isSeparator then base ++ path
  else base ++ "/" ++ path

def stretches : List Char → List (List Char)
  | [] => [[]]
  | c :: rest =>
      if isSeparator c then [] :: stretches rest
      else
        match stretches rest with
        | [] => [[c]]
        | stretch :: later => (c :: stretch) :: later

inductive Component where
  | root
  | here
  | up
  | name (text : String)
deriving DecidableEq, Repr

/-- The step of a stretch; empty stretches and dots take none. -/
def step? (stretch : List Char) : Option Component :=
  match String.ofList stretch with
  | "" | "." => none
  | ".." => some .up
  | text => some (.name text)

/-- A dot counts only where a relative path begins with it. -/
def components (path : String) : List Component :=
  let parts := stretches path.toList
  let start :=
    if isAbsolute path then [Component.root]
    else if parts.head? = some ['.'] then [.here]
    else []
  start ++ parts.filterMap step?

def same (path other : String) : Bool := components path == components other

def ofComponents (parts : List Component) : String :=
  parts.foldl
    (fun path part =>
      match part with
      | .root => "/"
      | .here => join path "."
      | .up => join path ".."
      | .name text => join path text)
    ""

/-- The path without its last component, if it has one that is not the root. -/
def parent? (path : String) : Option String :=
  let parts := components path
  match parts.getLast? with
  | none | some .root => none
  | some _ => some (ofComponents parts.dropLast)

def fileName? (path : String) : Option String :=
  match (components path).getLast? with
  | some (.name text) => some text
  | _ => none

/-- What stands behind the last dot of a name, if the dot does not begin the name. -/
def extension? (path : String) : Option String := do
  let name ← fileName? path
  let behind := name.toList.reverse.takeWhile (· ≠ '.')
  if behind.length + 1 < name.length then some (String.ofList behind.reverse) else none

end Concord.Files
