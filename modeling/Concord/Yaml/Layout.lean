import Concord.Yaml.Token

namespace Concord.Yaml

/-! The tokens of a text, with the block structure that its indentation implies.

A mapping entry can begin with any node, and only the colon behind the node shows that it does.
So the place of every node that may be a key is kept until the node turns out to be one: the
tokens that open the entry are then put before it.  A key stands on one line and is at most 1024
characters long.
-/

/-- A node that is a key if a colon follows it. -/
structure Candidate where
  /-- The number of tokens before the node. -/
  position : Nat
  /-- Whether the node must be a key, because it begins an entry of a block. -/
  required : Bool
  index : Nat
  line : Nat
  column : Nat

structure Layout where
  place : Place
  tokens : Array Token
  /-- The column of the innermost block, or -1 outside of any. -/
  indent : Int
  /-- The columns of the blocks around it. -/
  outer : List Int
  /-- Whether a node that begins here may be a key. -/
  keyAllowed : Bool
  /-- The candidate outside of brackets and of each pair of brackets, the innermost first. -/
  candidate : Option Candidate
  around : List (Option Candidate)

namespace Layout

def start (text : String) : Layout where
  place := .start text
  tokens := #[]
  indent := -1
  outer := []
  keyAllowed := true
  candidate := none
  around := []

def inFlow (layout : Layout) : Bool := !layout.around.isEmpty

def push (layout : Layout) (token : Token) : Layout :=
  { layout with tokens := layout.tokens.push token }

/-- Gives the candidate up, unless it must be a key. -/
def dropCandidate (layout : Layout) : Option Layout :=
  match layout.candidate with
  | some candidate => if candidate.required then none else some { layout with candidate := none }
  | none => some layout

/-- Makes the node that begins here a candidate, if it may be a key. -/
def markCandidate (layout : Layout) : Option Layout :=
  if !layout.keyAllowed then some layout
  else do
    let layout ← layout.dropCandidate
    let place := layout.place
    let candidate : Candidate := {
      position := layout.tokens.size
      required := !layout.inFlow && layout.indent == (place.column : Int)
      index := place.index
      line := place.line
      column := place.column }
    return { layout with candidate := some candidate }

/-- A candidate that can still be a key at this place, and otherwise nothing; fails if it had to
be one. -/
def Candidate.unlessPast (place : Place) (candidate? : Option Candidate) :
    Option (Option Candidate) :=
  match candidate? with
  | some candidate =>
      if candidate.line < place.line || candidate.index + 1024 < place.index then
        if candidate.required then none else some none
      else some (some candidate)
  | none => some none

def dropPastCandidates (layout : Layout) : Option Layout := do
  let candidate ← Candidate.unlessPast layout.place layout.candidate
  let around ← layout.around.mapM (Candidate.unlessPast layout.place)
  return { layout with candidate, around }

/-- Opens a block at a column right of the innermost one; its token goes to a position. -/
def openBlock (layout : Layout) (column position : Nat) (token : Token) : Layout :=
  if layout.inFlow || (column : Int) ≤ layout.indent then layout
  else
    { layout with
      tokens := layout.tokens.insertIdxIfInBounds position token
      indent := column
      outer := layout.indent :: layout.outer }

def openBlockHere (layout : Layout) (token : Token) : Layout :=
  layout.openBlock layout.place.column layout.tokens.size token

def closeBlocks (layout : Layout) (column : Int) : Layout :=
  if layout.inFlow then layout else go layout.indent layout.outer layout
where
  go (indent : Int) : List Int → Layout → Layout
    | [], layout =>
        if column < indent then { layout.push .blockEnd with indent := -1, outer := [] }
        else { layout with indent, outer := [] }
    | next :: outer, layout =>
        if column < indent then go next outer (layout.push .blockEnd)
        else { layout with indent, outer := next :: outer }

/-- Blanks, comments and line breaks before the next token. A tab does not count as a blank where
a key could begin. -/
def skipGaps : Nat → Layout → Layout
  | 0, layout => layout
  | steps + 1, layout =>
      let place := if layout.place.index = 0 ∧ layout.place.next? = some '\ufeff' then
        layout.place.skip else layout.place
      let tabs := layout.inFlow || !layout.keyAllowed
      let place := (place.span fun c => c == ' ' || (tabs && c == '\t')).2.skipComment
      if place.atBreak then
        skipGaps steps
          { layout with
            place := place.skipBreak
            keyAllowed := layout.keyAllowed || !layout.inFlow }
      else { layout with place }

def readDirective (layout : Layout) : Option Layout := do
  let layout ← (layout.closeBlocks (-1)).dropCandidate
  let (token, behind) ← Token.readDirective layout.place.skip
  return { layout.push token with place := behind, keyAllowed := false }

def readDocumentMarker (layout : Layout) (token : Token) : Option Layout := do
  let layout ← (layout.closeBlocks (-1)).dropCandidate
  return { layout.push token with place := layout.place.skipMany 3, keyAllowed := false }

def openFlow (layout : Layout) (token : Token) : Option Layout := do
  let layout ← layout.markCandidate
  return { layout.push token with
    place := layout.place.skip
    keyAllowed := true
    candidate := none
    around := layout.candidate :: layout.around }

def closeFlow (layout : Layout) (token : Token) : Option Layout := do
  let layout ← layout.dropCandidate
  let layout := { layout.push token with place := layout.place.skip, keyAllowed := false }
  match layout.around with
  | [] => return layout
  | candidate :: around => return { layout with candidate, around }

def readFlowEntry (layout : Layout) : Option Layout := do
  let layout ← layout.dropCandidate
  return { layout.push .flowEntry with place := layout.place.skip, keyAllowed := true }

def readBlockEntry (layout : Layout) : Option Layout :=
  if !layout.inFlow && !layout.keyAllowed then none
  else do
    let layout ← (layout.openBlockHere .blockSequence).dropCandidate
    return { layout.push .blockEntry with place := layout.place.skip, keyAllowed := true }

def readKey (layout : Layout) : Option Layout :=
  if !layout.inFlow && !layout.keyAllowed then none
  else do
    let layout ← (layout.openBlockHere .blockMapping).dropCandidate
    return { layout.push .key with
      place := layout.place.skip
      keyAllowed := !layout.inFlow }

/-- A colon. If the node before it is a candidate it is the key; otherwise the key was written
with a question mark, or is left out. -/
def readColon (layout : Layout) : Option Layout :=
  match layout.candidate with
  | some candidate =>
      let layout := { layout with
        tokens := layout.tokens.insertIdxIfInBounds candidate.position .key
        candidate := none }
      let layout := layout.openBlock candidate.column candidate.position .blockMapping
      some { layout.push .value with place := layout.place.skip, keyAllowed := false }
  | none =>
      if !layout.inFlow && !layout.keyAllowed then none
      else
        let layout := layout.openBlockHere .blockMapping
        some { layout.push .value with
          place := layout.place.skip
          keyAllowed := !layout.inFlow }

/-- A node or a property of one, which may begin a key. -/
def readProperty (layout : Layout) (read : Place → Option (Token × Place)) : Option Layout := do
  let layout ← layout.markCandidate
  let (token, behind) ← read layout.place
  return { layout.push token with place := behind, keyAllowed := false }

def readPlainScalar (layout : Layout) : Option Layout := do
  let layout ← layout.markCandidate
  let scalar ← readPlain layout.inFlow layout.indent layout.place
  return { layout.push (.scalar .plain scalar.text) with
    place := scalar.behind
    keyAllowed := scalar.brokenBehind }

def readBlockScalar (layout : Layout) (style : Style) : Option Layout := do
  let layout ← layout.dropCandidate
  let (text, behind) ← readBlock (style == .literal) layout.indent layout.place.skip
  return { layout.push (.scalar style text) with place := behind, keyAllowed := true }

/-- Characters with which no plain scalar begins. -/
def indicators : List Char :=
  ['-', '?', ':', ',', '[', ']', '\x7b', '\x7d', '#', '&', '*', '!', '|', '>', '\'', '"', '%',
    '@', '\x60']

def startsPlain (layout : Layout) (c : Char) : Bool :=
  let next := layout.place.ahead? 1
  !(isGap c || indicators.contains c) ||
    (c == '-' && !(next.map isBlank).getD false) ||
    (!layout.inFlow && (c == '?' || c == ':') && !layout.place.gapAt 1)

def readToken (layout : Layout) (c : Char) : Option Layout :=
  let place := layout.place
  let alone := place.gapAt 1
  if place.column = 0 ∧ c = '%' then layout.readDirective
  else if place.atMarker '-' then layout.readDocumentMarker .documentStart
  else if place.atMarker '.' then layout.readDocumentMarker .documentEnd
  else if c = '[' then layout.openFlow .openSequence
  else if c = '\x7b' then layout.openFlow .openMapping
  else if c = ']' then layout.closeFlow .closeSequence
  else if c = '\x7d' then layout.closeFlow .closeMapping
  else if c = ',' then layout.readFlowEntry
  else if c = '-' ∧ alone then layout.readBlockEntry
  else if c = '?' ∧ (layout.inFlow ∨ alone) then layout.readKey
  else if c = ':' ∧ (layout.inFlow ∨ alone) then layout.readColon
  else if c = '*' then
    layout.readProperty fun place =>
      (Token.readAnchorName place.skip).map fun (name, behind) => (.alias name, behind)
  else if c = '&' then
    layout.readProperty fun place =>
      (Token.readAnchorName place.skip).map fun (name, behind) => (.anchor name, behind)
  else if c = '!' then
    layout.readProperty fun place =>
      (Token.readTag layout.inFlow place).map fun (written, behind) => (.tag written, behind)
  else if c = '|' ∧ !layout.inFlow then layout.readBlockScalar .literal
  else if c = '>' ∧ !layout.inFlow then layout.readBlockScalar .folded
  else if c = '\'' then
    layout.readProperty fun place =>
      (readQuoted true place.skip).map fun (text, behind) => (.scalar .singleQuoted text, behind)
  else if c = '"' then
    layout.readProperty fun place =>
      (readQuoted false place.skip).map fun (text, behind) => (.scalar .doubleQuoted text, behind)
  else if layout.startsPlain c then layout.readPlainScalar
  else none

/-- At the end of the text every block ends. -/
def finish (layout : Layout) : Option (List Token) := do
  let layout ← (layout.closeBlocks (-1)).dropCandidate
  return layout.tokens.toList

/-- Every token takes at least a character, so as many steps suffice as there are characters. -/
def readAll : Nat → Layout → Option (List Token)
  | 0, _ => none
  | steps + 1, layout => do
      let layout ← (skipGaps (layout.place.rest.length + 1) layout).dropPastCandidates
      let layout := layout.closeBlocks layout.place.column
      match layout.place.next? with
      | none => layout.finish
      | some c => readAll steps (← layout.readToken c)

end Layout

def Token.ofText? (text : String) : Option (List Token) :=
  if text.toList.all isAllowed then Layout.readAll (text.length + 1) (.start text) else none

end Concord.Yaml
