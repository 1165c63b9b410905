import Concord.Regex.Syntax

namespace Concord.Regex

/-! Matching, by the places of a text that an expression leads to.

A place is the number of characters before it.  An expression leads from a place to every place
that ends a match of it; from a set of places it leads to the places that it leads to from any of
them.
-/

/-- Places in ascending order, each once. -/
abbrev Places := List Nat

def merge : Places → Places → Places
  | [], second => second
  | first, [] => first
  | p :: ps, q :: qs =>
      if p < q then p :: merge ps (q :: qs)
      else if q < p then q :: merge (p :: ps) qs
      else p :: merge ps qs

def isWordAt (text : Array Char) (place : Nat) : Bool :=
  (text[place]?.map Text.isWordChar).getD false

def isWordBefore (text : Array Char) (place : Nat) : Bool :=
  place != 0 && isWordAt text (place - 1)

def Anchor.holds (text : Array Char) (place : Nat) : Anchor → Bool
  | .textStart => place == 0
  | .textEnd => place == text.size
  | .lineStart => place == 0 || text[place - 1]? == some '\n'
  | .lineEnd => place == text.size || text[place]? == some '\n'
  | .wordBoundary => isWordBefore text place != isWordAt text place
  | .noWordBoundary => isWordBefore text place == isWordAt text place
  | .wordStart => !isWordBefore text place && isWordAt text place
  | .wordEnd => isWordBefore text place && !isWordAt text place
  | .wordStartHalf => !isWordBefore text place
  | .wordEndHalf => !isWordAt text place

/-- As many steps as are asked for. -/
def iterate (step : Places → Places) : Nat → Places → Places
  | 0, places => places
  | count + 1, places => iterate step count (step places)

/-- All places reached in at most so many steps. -/
def accumulate (step : Places → Places) : Nat → Places → Places
  | 0, places => places
  | count + 1, places => merge places (accumulate step count (step places))

/-- Where an expression leads to. No repetition leads further in more steps than the text has
places. -/
def reach (text : Array Char) : Regex → Places → Places
  | .empty, places => places
  | .set chars, places =>
      places.filterMap fun place =>
        match text[place]? with
        | some c => if chars.contains c then some (place + 1) else none
        | none => none
  | .anchor condition, places => places.filter fun place => condition.holds text place
  | .concat first second, places => reach text second (reach text first places)
  | .either first second, places => merge (reach text first places) (reach text second places)
  | .repeated least most? body, places =>
      let step := reach text body
      let further := (most?.map (· - least)).getD (text.size + 1)
      accumulate step (min further (text.size + 1))
        (iterate step (min least (text.size + 1)) places)
  | .group body, places => reach text body places
  | .look behind negated body, places =>
      places.filter fun place =>
        let found :=
          if behind then
            (List.range (place + 1)).any fun start => (reach text body [start]).contains place
          else !(reach text body [place]).isEmpty
        found != negated

/-- Whether the expression matches anywhere in a text. -/
def isFoundIn (expression : Regex) (text : String) : Bool :=
  let chars := text.toList.toArray
  !(reach chars expression (List.range (chars.size + 1))).isEmpty

end Concord.Regex
