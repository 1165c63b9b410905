import Concord.Regex.Syntax
import Concord.Text.Utf8

namespace Concord.Regex

/-! The room that an automaton for an expression takes up.

The automaton reads bytes of UTF-8, forward or backward. It has states for the bytes of characters
and for choices, and a counted repetition repeats those of its body. Expressions whose automata
are too large are refused.
-/

inductive Direction where
  | forward
  | backward
deriving DecidableEq, Repr

def stateSize : Nat := 32

/-- An edge to another state for one range of bytes. -/
def edgeSize : Nat := 8

/-- An alternative of a choice. -/
def choiceSize : Nat := 4

def choiceOf (count : Nat) : Nat := stateSize + count * choiceSize

/-- Sequences of ranges by their first range, where equal ones stand together. -/
def groupsByFirst (sequences : List Text.ByteRanges) : List (List Text.ByteRanges) :=
  sequences.splitBy fun a b => a.head? == b.head?

/-- States with their edges, the end not among them; a state's number is its place from the last
one on. -/
abbrev States := List (List ((Nat × Nat) × Nat))

/-- The number of a state with such edges, which is added if there is none. -/
def States.number (states : States) (edges : List ((Nat × Nat) × Nat)) : Nat × States :=
  match states.findIdx? (· == edges) with
  | some place => (states.length - place, states)
  | none => (states.length + 1, edges :: states)

/-- The state that begins some sequences of at most four ranges; states with equal edges are
shared, and the end has the number zero. -/
def numberOfStart : Nat → List Text.ByteRanges → States → Nat × States
  | 0, _, states => (0, states)
  | steps + 1, sequences, states =>
      if sequences.all List.isEmpty then (0, states)
      else
        let (edges, states) :=
          (groupsByFirst sequences).foldl (fun (edges, states) group =>
            let (target, states) := numberOfStart steps (group.map List.tail) states
            (edges ++ group.head?.toList.flatMap fun sequence =>
              (sequence.take 1).map (·, target), states)) ([], states)
        states.number edges

def countBeginnings : Nat → List Text.ByteRanges → Nat
  | 0, _ => 0
  | steps + 1, sequences =>
      (groupsByFirst (sequences.filter (!·.isEmpty))).foldl
        (fun count group => count + 1 + countBeginnings steps (group.map List.tail)) 0

/-- Forward, sequences share their ends; backward they share their beginnings. -/
def sizeOfIntervals (direction : Direction) (intervals : Text.Intervals) : Nat :=
  match intervals with
  | [(first, last)] =>
      if first = last then Text.byteSize first * stateSize else sizeOfMany
  | _ => sizeOfMany
where
  sizeOfMany : Nat :=
    if intervals.all (·.2 ≤ 0x7F) then 2 * stateSize + intervals.length * edgeSize
    else
      let sequences := intervals.flatMap Text.byteRanges
      match direction with
      | .forward =>
          (numberOfStart 5 sequences []).2.foldl
            (fun size edges => size + stateSize + edges.length * edgeSize) stateSize
      | .backward =>
          choiceOf sequences.length + stateSize + countBeginnings 5 sequences * stateSize

/-- The length of the shortest texts that an expression matches. -/
def minLength : Regex → Nat
  | .empty | .anchor _ | .look _ _ _ => 0
  | .set _ => 1
  | .concat first second => first.minLength + second.minLength
  | .either first second => min first.minLength second.minLength
  | .repeated least _ body => least * body.minLength
  | .group body => body.minLength

/-- Whether an expression matches the empty text alone. -/
def isWidthless : Regex → Bool
  | .empty | .anchor _ | .look _ _ _ => true
  | .set _ => false
  | .concat first second | .either first second => first.isWidthless && second.isWidthless
  | .repeated _ most? body => most? == some 0 || body.isWidthless
  | .group body => body.isWidthless

/-- The counts that matter: what matches the empty text alone need not be repeated. -/
def effectiveCounts (least : Nat) (most? : Option Nat) (body : Regex) : Nat × Option Nat :=
  if body.isWidthless then (min least 1, some (min (most?.getD 1) 1)) else (least, most?)

/-- The bytes of an expression that matches one text, without a choice. -/
def literalBytes? (expression : Regex) : Option (List Nat) := before expression []
where
  /-- The bytes of an expression before others. -/
  before : Regex → List Nat → Option (List Nat)
    | .set chars, behind =>
        match chars.intervals with
        | [(first, last)] =>
            if first = last then
              some ((Char.ofNat first).toString.toUTF8.toList.map UInt8.toNat ++ behind)
            else none
        | _ => none
    | .concat first second, behind => do before first (← before second behind)
    | _, _ => none

def asSet? : Regex → Option Text.CharSet
  | .set chars => some chars
  | _ => none

/-- The size of a choice between texts: they share their beginnings. -/
def sizeOfTexts : Nat → List (List Nat) → Nat
  | 0, _ => 0
  | steps + 1, texts =>
      let further := (texts.filter (!·.isEmpty)).mergeSort fun a b => a.headD 0 ≤ b.headD 0
      let groups := further.splitBy fun a b => a.head? == b.head?
      if groups.isEmpty then 0
      else
        let own := match groups with
          | [_] => stateSize
          | _ => stateSize + groups.length * edgeSize
        let ends := if texts.any List.isEmpty then choiceSize else 0
        groups.foldl (fun size group => size + sizeOfTexts steps (group.map List.tail))
          (choiceOf 1 + own + ends)

/-- The size of a repetition around a body of a given size. -/
def sizeOfRepetition (counts : Nat × Option Nat) (isNullable : Bool) (body : Nat) : Nat :=
  match counts with
  | (0, some 1) => choiceOf 2 + stateSize + body
  | (0, none) => (if isNullable then 2 * choiceOf 2 + stateSize else choiceOf 2) + body
  | (least, none) => least * body + choiceOf 2
  | (least, some most) =>
      let first := if least = 0 then stateSize else least * body
      if least = most then first
      else first + stateSize + (most - least) * (choiceOf 2 + body)

/-- The sizes of an expression, which are found when they are asked for. -/
structure Sizes where
  /-- Whether nothing is left of it once repetitions that ask for nothing are dropped. -/
  isVoid : Bool
  /-- Inside a sequence, where what is void takes up nothing. -/
  inside : Unit → Nat
  /-- As branches of a choice. -/
  asBranches : Unit → Nat

namespace Sizes

/-- By itself. -/
def alone (sizes : Sizes) : Nat := if sizes.isVoid then stateSize else sizes.inside ()

/-- The sizes of an expression that is one branch of a choice. -/
def ofOne (isVoid : Bool) (inside : Unit → Nat) : Sizes where
  isVoid := isVoid
  inside := inside
  asBranches := fun _ => choiceSize + if isVoid then stateSize else inside ()

end Sizes

/-- The size of a choice, if not all of its branches are sets and not all of them texts. -/
def sizeOfChoice (direction : Direction) (branches : List Regex) (asBranches : Unit → Nat) : Nat :=
  match branches.mapM asSet? with
  | some sets => sizeOfIntervals direction (.ofList (sets.flatMap Text.CharSet.intervals))
  | none =>
      match branches.mapM literalBytes? with
      | some texts =>
          let texts := match direction with
            | .forward => texts
            | .backward => texts.map List.reverse
          let longest := texts.foldl (fun longest text => max longest text.length) 0
          stateSize + sizeOfTexts (longest + 1) texts
      | none => 2 * stateSize + asBranches ()

def sizes (direction : Direction) : Regex → Sizes
  | .empty => .ofOne true fun _ => 0
  | .set chars => .ofOne false fun _ => sizeOfIntervals direction chars.intervals
  | .anchor _ => .ofOne false fun _ => stateSize
  | .concat first second =>
      let first := first.sizes direction
      let second := second.sizes direction
      .ofOne (first.isVoid && second.isVoid) fun _ => first.inside () + second.inside ()
  | .either first second =>
      let firstSizes := first.sizes direction
      let secondSizes := second.sizes direction
      let asBranches := fun _ => firstSizes.asBranches () + secondSizes.asBranches ()
      let inside := fun _ =>
        sizeOfChoice direction (first.branches ++ second.branches) asBranches
      ⟨false, inside, asBranches⟩
  | .repeated least most? body =>
      let sizes := body.sizes direction
      match effectiveCounts least most? body with
      | (0, some 0) => .ofOne true fun _ => 0
      | (1, some 1) => .ofOne sizes.isVoid sizes.inside
      | counts =>
          .ofOne false fun _ => sizeOfRepetition counts (body.minLength == 0) sizes.alone
  | .group body =>
      let remembered := match direction with
        | .forward => 2 * stateSize
        | .backward => 0
      let sizes := body.sizes direction
      .ofOne false fun _ => remembered + sizes.alone
  | .look _ _ body =>
      let sizes := body.sizes direction
      .ofOne false fun _ => 2 * stateSize + sizes.alone

/-- The states that every automaton has: the text before a match may be passed over, and a match
is remembered. -/
def commonSize : Direction → Nat
  | .forward => choiceOf 2 + 2 * stateSize + edgeSize + 3 * stateSize
  | .backward => choiceOf 2 + 2 * stateSize + edgeSize + stateSize

def sizeLimit : Nat := 10 * 1024 * 1024

def fits (expression : Regex) : Bool :=
  [Direction.forward, .backward].all fun direction =>
    commonSize direction + (expression.sizes direction).alone ≤ sizeLimit

end Concord.Regex
