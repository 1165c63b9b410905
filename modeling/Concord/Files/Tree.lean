import Concord.Files.FileSystem

namespace Concord.Files

/-! A tree of files, seen from its top as a file system. -/

inductive Tree where
  | file (contents : ByteArray)
  | directory (entries : List (String × Tree))

namespace Tree

def empty : Tree := .directory []

def entries : Tree → List (String × Tree)
  | .file _ => []
  | .directory entries => entries

/-- The entries with one replaced, or added at the end. -/
def setEntry (name : String) (tree : Tree) : List (String × Tree) → List (String × Tree)
  | [] => [(name, tree)]
  | entry :: rest =>
      if entry.1 = name then (name, tree) :: rest else entry :: setEntry name tree rest

/-- The tree with something put below the directories of these names, which are made if they are
missing. A directory that is there already stays. -/
def place (leaf : Tree) : List String → Tree → Tree
  | [], tree =>
      match leaf, tree with
      | .directory _, .directory _ => tree
      | _, _ => leaf
  | name :: names, tree =>
      let below := (tree.entries.lookup name).getD empty
      .directory (setEntry name (place leaf names below) tree.entries)

def ofLeaves (leaves : List (String × Tree)) : Tree :=
  leaves.foldl
    (fun tree leaf =>
      let names := (components leaf.1).filterMap fun part =>
        match part with
        | .name text => some text
        | _ => none
      place leaf.2 names tree)
    empty

def entry : Tree → Entry
  | .file contents => .file contents
  | .directory entries => .directory (entries.map (·.1))

/-- Takes the steps of a path, with the directories above the place that is reached. -/
def walk : List (List Char) → Tree → List Tree → Entry
  | [], tree, _ => tree.entry
  | _ :: _, .file _, _ => .blocked
  | stretch :: rest, .directory entries, above =>
      match step? stretch with
      | none | some .here | some .root => walk rest (.directory entries) above
      | some .up =>
          match above with
          | [] => .missing
          | parent :: others => walk rest parent others
      | some (.name text) =>
          match entries.lookup text with
          | some below => walk rest below (.directory entries :: above)
          | none => .missing

def fileSystem (tree : Tree) : FileSystem := fun path =>
  if path = "" then .missing
  else if isAbsolute path then
    if components path = [.root] then .directory [] else .missing
  else walk (stretches path.toList) tree []

end Tree

end Concord.Files
