import Concord.Yaml.Layout

namespace Concord.Yaml

/-! The nodes that the tokens of a document describe, as they are written: an alias is a node that
names another one.
-/

inductive WrittenNode where
  | alias (number : Nat)
  | scalar (tag? : Option String) (style : Style) (text : String)
  | sequence (tag? : Option String) (items : List WrittenNode)
  | mapping (tag? : Option String) (entries : List (WrittenNode × WrittenNode))

namespace WrittenNode

/-- A node that is not written. -/
def empty : WrittenNode := .scalar none .plain ""

mutual

/-- How often a node starts, ends or stands for another one: a collection counts twice beside what
is in it, and everything else once. -/
def size : WrittenNode → Nat
  | .alias _ | .scalar _ _ _ => 1
  | .sequence _ items => sizeOfItems items + 2
  | .mapping _ entries => sizeOfEntries entries + 2

def sizeOfItems : List WrittenNode → Nat
  | [] => 0
  | item :: rest => item.size + sizeOfItems rest

def sizeOfEntries : List (WrittenNode × WrittenNode) → Nat
  | [] => 0
  | (key, value) :: rest => key.size + value.size + sizeOfEntries rest

end

/-- Where anchored nodes stand.

The number of an anchor is how many names there are when its node starts, so a name that is used
again, and the next new name, share one number.  A number stands for the last node that starts with
it. -/
structure Anchors where
  /-- The number of each name. -/
  numbers : List (List Char × Nat)
  /-- The number of each anchored node, the last one first. -/
  starts : List Nat
  /-- The anchored nodes that are complete, by the count of those before them. -/
  nodes : List (Nat × WrittenNode)

namespace Anchors

def empty : Anchors := ⟨[], [], []⟩

def number? (anchors : Anchors) (name : List Char) : Option Nat := anchors.numbers.lookup name

def start (anchors : Anchors) (name : List Char) : Anchors :=
  let number := anchors.numbers.length
  { anchors with
    numbers := (name, number) :: anchors.numbers.filter (·.1 ≠ name)
    starts := number :: anchors.starts }

def node? (anchors : Anchors) (number : Nat) : Option WrittenNode := do
  let since ← anchors.starts.idxOf? number
  anchors.nodes.lookup (anchors.starts.length - 1 - since)

end Anchors

/-- The tokens that are left, and the anchors so far. -/
structure Progress where
  tokens : List Token
  anchors : Anchors

namespace Progress

def next? (progress : Progress) : Option Token := progress.tokens.head?

def skip (progress : Progress) : Progress := { progress with tokens := progress.tokens.drop 1 }

/-- Whether the next token is one of these; at the end of the text it is none. -/
def nextIsOneOf (progress : Progress) (expected : List Token) : Bool :=
  (progress.next?.map expected.contains).getD false

def skipIf (progress : Progress) (expected : Token) : Option Progress :=
  if progress.next? = some expected then some progress.skip else none

def start (progress : Progress) (anchor? : Option (List Char)) : Option Nat × Progress :=
  match anchor? with
  | some name =>
      let place := progress.anchors.starts.length
      (some place, { progress with anchors := progress.anchors.start name })
  | none => (none, progress)

def complete (progress : Progress) (place? : Option Nat) (node : WrittenNode) :
    WrittenNode × Progress :=
  match place? with
  | some place =>
      let anchors := progress.anchors
      let nodes := (place, node) :: anchors.nodes
      (node, { progress with anchors := { anchors with nodes } })
  | none => (node, progress)

end Progress

abbrev Handles := List (List Char × List Char)

/-- The tag in full; its handle must be declared. -/
def expandTag (handles : Handles) (written : WrittenTag) : Option String :=
  if written.handle.isEmpty then some (String.ofList written.suffix)
  else (handles.lookup written.handle).map fun expansion =>
    String.ofList (expansion ++ written.suffix)

structure Properties where
  anchor? : Option (List Char)
  tag? : Option String

/-- An anchor and a tag, in either order, each at most once. -/
def readProperties (handles : Handles) (progress : Progress) : Option (Properties × Progress) :=
  match progress.tokens with
  | .anchor name :: .tag written :: rest
  | .tag written :: .anchor name :: rest => do
      return (⟨some name, some (← expandTag handles written)⟩, { progress with tokens := rest })
  | .anchor name :: rest => some (⟨some name, none⟩, { progress with tokens := rest })
  | .tag written :: rest => do
      return (⟨none, some (← expandTag handles written)⟩, { progress with tokens := rest })
  | _ => some (⟨none, none⟩, progress)

mutual

/-- A node. In a block it may be a block itself, and where `indentless` holds a sequence need not be
indented. -/
def read (handles : Handles) (inBlock indentless : Bool) :
    Nat → Progress → Option (WrittenNode × Progress)
  | 0, _ => none
  | steps + 1, progress =>
      match progress.next? with
      | some (.alias name) => do
          return (.alias (← progress.anchors.number? name), progress.skip)
      | _ => do
          let (properties, progress) ← readProperties handles progress
          let (place?, progress) := progress.start properties.anchor?
          let sequence (items : List WrittenNode) (behind : Progress) :
              Option (WrittenNode × Progress) :=
            some (behind.complete place? (.sequence properties.tag? items))
          let mapping (entries : List (WrittenNode × WrittenNode)) (behind : Progress) :
              Option (WrittenNode × Progress) :=
            some (behind.complete place? (.mapping properties.tag? entries))
          match progress.next? with
          | some .blockEntry =>
              if indentless then do
                let (items, behind) ← readIndentless handles steps [] progress
                sequence items behind
              else if properties.anchor?.isSome || properties.tag?.isSome then
                some (progress.complete place? (.scalar properties.tag? .plain ""))
              else none
          | some (.scalar style text) =>
              let tag? := if properties.tag? = some "!" then none else properties.tag?
              some (progress.skip.complete place? (.scalar tag? style (String.ofList text)))
          | some .openSequence => do
              let (items, behind) ← readFlowItems handles steps true [] progress.skip
              sequence items behind
          | some .openMapping => do
              let (entries, behind) ← readFlowEntries handles steps true [] progress.skip
              mapping entries behind
          | next =>
              if inBlock ∧ next = some .blockSequence then do
                let (items, behind) ← readBlockItems handles steps [] progress.skip
                sequence items behind
              else if inBlock ∧ next = some .blockMapping then do
                let (entries, behind) ← readBlockEntries handles steps [] progress.skip
                mapping entries behind
              else if properties.anchor?.isSome || properties.tag?.isSome then
                some (progress.complete place? (.scalar properties.tag? .plain ""))
              else none

/-- A node, or an empty one before certain tokens. -/
def readUnless (handles : Handles) (ends : List Token) (inBlock indentless : Bool) :
    Nat → Progress → Option (WrittenNode × Progress)
  | 0, _ => none
  | steps + 1, progress =>
      if progress.nextIsOneOf ends then some (empty, progress)
      else read handles inBlock indentless steps progress

/-- The items of a block sequence, last one first, up to its end. -/
def readBlockItems (handles : Handles) :
    Nat → List WrittenNode → Progress → Option (List WrittenNode × Progress)
  | 0, _, _ => none
  | steps + 1, items, progress =>
      match progress.next? with
      | some .blockEntry => do
          let (item, behind) ←
            readUnless handles [.blockEntry, .blockEnd] true false steps progress.skip
          readBlockItems handles steps (item :: items) behind
      | some .blockEnd => some (items.reverse, progress.skip)
      | _ => none

/-- The items of a sequence that is not indented. -/
def readIndentless (handles : Handles) :
    Nat → List WrittenNode → Progress → Option (List WrittenNode × Progress)
  | 0, _, _ => none
  | steps + 1, items, progress =>
      match progress.next? with
      | some .blockEntry => do
          let (item, behind) ←
            readUnless handles [.blockEntry, .key, .value, .blockEnd] true false steps
              progress.skip
          readIndentless handles steps (item :: items) behind
      | _ => some (items.reverse, progress)

def readBlockEntries (handles : Handles) :
    Nat → List (WrittenNode × WrittenNode) → Progress →
      Option (List (WrittenNode × WrittenNode) × Progress)
  | 0, _, _ => none
  | steps + 1, entries, progress =>
      let ends : List Token := [.key, .value, .blockEnd]
      match progress.next? with
      | some .key => do
          let (key, behind) ← readUnless handles ends true true steps progress.skip
          let (value, behind) ←
            match behind.next? with
            | some .value => readUnless handles ends true true steps behind.skip
            | _ => some (empty, behind)
          readBlockEntries handles steps ((key, value) :: entries) behind
      | some .blockEnd => some (entries.reverse, progress.skip)
      | _ => none

/-- The items between brackets. A key among them makes a mapping of one entry. -/
def readFlowItems (handles : Handles) :
    Nat → Bool → List WrittenNode → Progress → Option (List WrittenNode × Progress)
  | 0, _, _, _ => none
  | steps + 1, first, items, progress =>
      match progress.next? with
      | some .closeSequence => some (items.reverse, progress.skip)
      | _ => do
          let progress ← if first then some progress else progress.skipIf .flowEntry
          match progress.next? with
          | some .closeSequence => return (items.reverse, progress.skip)
          | some .key => do
              let ends : List Token := [.flowEntry, .closeSequence]
              let inside := progress.skip
              let (key, behind) ←
                if inside.nextIsOneOf (.value :: ends) then some (empty, inside.skip)
                else read handles false false steps inside
              let (value, behind) ←
                match behind.next? with
                | some .value => readUnless handles ends false false steps behind.skip
                | _ => some (empty, behind)
              readFlowItems handles steps false (.mapping none [(key, value)] :: items) behind
          | _ => do
              let (item, behind) ← read handles false false steps progress
              readFlowItems handles steps false (item :: items) behind

/-- The entries between braces. A node without a colon is a key with an empty value. -/
def readFlowEntries (handles : Handles) :
    Nat → Bool → List (WrittenNode × WrittenNode) → Progress →
      Option (List (WrittenNode × WrittenNode) × Progress)
  | 0, _, _, _ => none
  | steps + 1, first, entries, progress =>
      match progress.next? with
      | some .closeMapping => some (entries.reverse, progress.skip)
      | _ => do
          let progress ← if first then some progress else progress.skipIf .flowEntry
          match progress.next? with
          | some .closeMapping => return (entries.reverse, progress.skip)
          | some .key => do
              let ends : List Token := [.flowEntry, .closeMapping]
              let (key, behind) ←
                readUnless handles (.value :: ends) false false steps progress.skip
              let (value, behind) ←
                match behind.next? with
                | some .value => readUnless handles ends false false steps behind.skip
                | _ => some (empty, behind)
              readFlowEntries handles steps false ((key, value) :: entries) behind
          | _ => do
              let (key, behind) ← read handles false false steps progress
              readFlowEntries handles steps false ((key, empty) :: entries) behind

end

def coreTags : List Char := "tag:yaml.org,2002:".toList

/-- The handles that every document has, unless it declares them otherwise. -/
def standardHandles : Handles := [(['!'], ['!']), (['!', '!'], coreTags)]

/-- The directives before a document: at most one version, which is 1.1 or 1.2, and handles that
are declared once. -/
def readDirectives : Bool → Handles → List Token → Option (Handles × List Token)
  | versioned, handles, .version major minor :: rest =>
      if versioned ∨ major ≠ 1 ∨ (minor ≠ 1 ∧ minor ≠ 2) then none
      else readDirectives true handles rest
  | versioned, handles, .handle name expansion :: rest =>
      if (handles.lookup name).isSome then none
      else readDirectives versioned ((name, expansion) :: handles) rest
  | _, handles, rest => some (handles ++ standardHandles, rest)

/-- The tokens behind the start of a document that is marked. -/
def skipStart : List Token → Option (List Token)
  | .documentStart :: rest => some rest
  | _ => none

/-- The node of a document from its content on, and the anchors in it; end marks may follow, and
nothing else. -/
def readContent (handles : Handles) (tokens : List Token) : Option (WrittenNode × Anchors) := do
  let (node, behind) ← read handles true false (4 * tokens.length + 4) ⟨tokens, .empty⟩
  if behind.tokens.all (· == .documentEnd) then return (node, behind.anchors) else none

/-- The only document of a text; a text without one stands for an empty node. -/
def ofTokens? (tokens : List Token) : Option (WrittenNode × Anchors) :=
  match tokens with
  | [] => some (empty, .empty)
  | .version _ _ :: _ | .handle _ _ :: _ | .documentStart :: _ => do
      let (handles, rest) ← readDirectives false [] tokens
      let content ← skipStart rest
      if content.all (· == .documentEnd) then return (empty, .empty)
      else readContent handles content
  | _ => readContent standardHandles tokens

end WrittenNode

end Concord.Yaml
