import Concord.Validation.Check

namespace Concord.Validation

/-! What a schema asks of a value, and where a value falls short of it.

A constraint is made of checks.  References to other schemas stay open in it, and what they find
is given to `Constraint.violations`.
-/

/-- A part of a document, and the rule of the schema that speaks of it. -/
structure Place where
  value : Json.Pointer
  rule : Json.Pointer
deriving DecidableEq, Repr

def Place.root : Place := ⟨[], []⟩

def Place.into (place : Place) (step : String) : Place :=
  { place with value := place.value ++ [step] }

def Place.under (place : Place) (step : String) : Place :=
  { place with rule := place.rule ++ [step] }

structure Violation where
  place : Place
  message : String
deriving DecidableEq, Repr

inductive Constraint where
  | always (accepted : Bool)
  | reference (target : String)
  | check (test : Check)
  /-- A check that does not say what place it found fault with. -/
  | unplaced (test : Check)
  | all (parts : List Constraint)
  /-- A constraint that stands a step further down in its schema. -/
  | under (step : String) (part : Constraint)
  /-- For every property all constraints whose test admits its name, or else the last one. -/
  | properties (cases : List (NameTest × Constraint)) (others : Constraint)
  /-- For items from a position on, all or so many. -/
  | items (first : Nat) (count? : Option Nat) (part : Constraint)
  /-- For the names of properties as texts. -/
  | names (part : Constraint)
  | dependent (name : String) (part : Constraint)
  | anyOf (parts : List Constraint)
  | oneOf (parts : List Constraint)
  | contains (part : Constraint)
  | excludes (written : String) (part : Constraint)
  | choice (condition met unmet : Constraint)

namespace Constraint

def accepted : Constraint := .always true

/-- What references find, by their targets. -/
abbrev Follow := String → Place → Json → List Violation

def noneValid (keyword : String) (value : Json) : String :=
  value.compact ++ " is not valid under any of the schemas listed in the '" ++ keyword ++
    "' keyword"

def manyValid (keyword : String) (value : Json) : String :=
  value.compact ++ " is valid under more than one of the schemas listed in the '" ++ keyword ++
    "' keyword"

def membersOf (value : Json) : List (String × Json) := (value.members?.map (·.entries)).getD []

def itemsFrom (first : Nat) (count? : Option Nat) (value : Json) : List (Nat × Json) :=
  let placed := (value.items?.getD []).zipIdx.map fun (item, position) => (position, item)
  match count? with
  | some count => (placed.drop first).take count
  | none => placed.drop first

mutual

def violations (follow : Follow) : Constraint → Place → Json → List Violation
  | .always true, _, _ => []
  | .always false, place, value => [⟨place, "False schema does not allow " ++ value.compact⟩]
  | .reference target, place, value => follow target (place.under "$ref") value
  | .check test, place, value => (test.faults value).map (⟨place, ·⟩)
  | .unplaced test, _, value => (test.faults value).map (⟨.root, ·⟩)
  | .all parts, place, value => violationsOfAll follow parts place value
  | .under step part, place, value => violations follow part (place.under step) value
  | .properties cases others, place, value =>
      (membersOf value).flatMap fun (name, member) =>
        match violationsOfCases follow cases name (place.into name) member with
        | some found => found
        | none => violations follow others (place.into name) member
  | .items first count? part, place, value =>
      (itemsFrom first count? value).flatMap fun (position, item) =>
        violations follow part (place.into (toString position)) item
  | .names part, place, value =>
      (membersOf value).flatMap fun (name, _) => violations follow part place (.string name)
  | .dependent name part, place, value =>
      if (value.get? name).isSome then violations follow part place value else []
  | .anyOf parts, place, value =>
      if (verdicts follow parts place value).any id then []
      else [⟨place, noneValid "anyOf" value⟩]
  | .oneOf parts, place, value =>
      match (verdicts follow parts place value).filter id with
      | [] => [⟨place, noneValid "oneOf" value⟩]
      | [_] => []
      | _ => [⟨place, manyValid "oneOf" value⟩]
  | .contains part, place, value =>
      match value.items? with
      | none => []
      | some found =>
          if found.any fun item => (violations follow part place item).isEmpty then []
          else [⟨place, "None of " ++ value.compact ++ " are valid under the given schema"⟩]
  | .excludes written part, place, value =>
      if (violations follow part place value).isEmpty then
        [⟨place, written ++ " is not allowed for " ++ value.compact⟩]
      else []
  | .choice condition met unmet, place, value =>
      if (violations follow condition place value).isEmpty then violations follow met place value
      else violations follow unmet place value

def violationsOfAll (follow : Follow) : List Constraint → Place → Json → List Violation
  | [], _, _ => []
  | part :: rest, place, value =>
      violations follow part place value ++ violationsOfAll follow rest place value

/-- What the cases for a property find, if there are any. -/
def violationsOfCases (follow : Follow) :
    List (NameTest × Constraint) → String → Place → Json → Option (List Violation)
  | [], _, _, _ => none
  | (test, part) :: rest, name, place, value =>
      let others := violationsOfCases follow rest name place value
      if test.admits name then some (violations follow part place value ++ others.getD [])
      else others

def verdicts (follow : Follow) : List Constraint → Place → Json → List Bool
  | [], _, _ => []
  | part :: rest, place, value =>
      (violations follow part place value).isEmpty :: verdicts follow rest place value

end

mutual

def targets : Constraint → List String
  | .always _ | .check _ | .unplaced _ => []
  | .reference target => [target]
  | .under _ part | .items _ _ part | .names part | .dependent _ part | .contains part
  | .excludes _ part => part.targets
  | .all parts | .anyOf parts | .oneOf parts => targetsOfAll parts
  | .properties cases others => targetsOfCases cases ++ others.targets
  | .choice condition met unmet => condition.targets ++ met.targets ++ unmet.targets

def targetsOfAll : List Constraint → List String
  | [] => []
  | part :: rest => part.targets ++ targetsOfAll rest

def targetsOfCases : List (NameTest × Constraint) → List String
  | [] => []
  | (_, part) :: rest => part.targets ++ targetsOfCases rest

end

end Constraint

end Concord.Validation
