import Concord.Json.Equality
import Concord.Json.Printer
import Concord.Regex.Match
import Concord.Validation.Content
import Concord.Validation.Format

namespace Concord.Validation

/-! What a schema asks of a value without looking into it by further schemas.

A check finds faults in a value and says each in one sentence; a value of another kind than the
one it is about has none.
-/

/-- The kinds of values, in the order in which they are listed. -/
inductive Kind where
  | array
  | boolean
  | integer
  | null
  | number
  | object
  | string
deriving DecidableEq, Repr

namespace Kind

def name : Kind → String
  | .array => "array"
  | .boolean => "boolean"
  | .integer => "integer"
  | .null => "null"
  | .number => "number"
  | .object => "object"
  | .string => "string"

def all : List Kind := [.array, .boolean, .integer, .null, .number, .object, .string]

def ofName? (written : String) : Option Kind := all.find? fun kind => kind.name = written

/-- A number without a fraction is an integer, however it is written. -/
def admits : Kind → Json → Bool
  | .array, .array _ | .boolean, .bool _ | .null, .null | .number, .number _
  | .object, .object _ | .string, .string _ => true
  | .integer, .number value => value.isIntegral
  | _, _ => false

end Kind

/-- What can be counted in a value. -/
inductive Measure where
  | characters
  | items
  | properties
deriving DecidableEq, Repr

namespace Measure

def count? : Measure → Json → Option Nat
  | .characters, .string text => some text.length
  | .items, .array values => some values.length
  | .properties, value => value.members?.map (·.size)
  | _, _ => none

/-- A limit of the measure in words. -/
def words (measure : Measure) (limit : Nat) : String :=
  let unit :=
    match measure with
    | .characters => "character"
    | .items => "item"
    | .properties => "property"
  let units :=
    match measure with
    | .characters => "characters"
    | .items => "items"
    | .properties => "properties"
  toString limit ++ " " ++ if limit = 1 then unit else units

def tooFew : Measure → String
  | .characters => "is shorter than"
  | .items | .properties => "has less than"

def tooMany : Measure → String
  | .characters => "is longer than"
  | .items | .properties => "has more than"

end Measure

/-- Limits of numbers, which they may or may not reach. -/
inductive Bound where
  | minimum
  | exclusiveMinimum
  | maximum
  | exclusiveMaximum
deriving DecidableEq, Repr

namespace Bound

/-- What a number that keeps the limit may be to it. -/
def admits : Bound → Ordering → Bool
  | .minimum, order => order != .lt
  | .exclusiveMinimum, order => order == .gt
  | .maximum, order => order != .gt
  | .exclusiveMaximum, order => order == .lt

def fault : Bound → String
  | .minimum => "is less than the minimum of"
  | .exclusiveMinimum => "is less than or equal to the minimum of"
  | .maximum => "is greater than the maximum of"
  | .exclusiveMaximum => "is greater than or equal to the maximum of"

end Bound

/-- The properties of an object that a schema is about. -/
inductive NameTest where
  | exactly (name : String)
  | matching (expression : Regex)

def NameTest.admits : NameTest → String → Bool
  | .exactly name, other => name == other
  | .matching expression, other => expression.isFoundIn other

inductive Check where
  | kind (allowed : List Kind)
  | among (values : List Json)
  | constant (value : Json)
  | atLeast (measure : Measure) (limit : Nat)
  | atMost (measure : Measure) (limit : Nat)
  | bound (side : Bound) (limit : JsonNumber)
  | multiple (divisor : Real64)
  | distinct
  | pattern (written : String) (expression : Regex)
  | format (asked : Format)
  /-- A text that encodes bytes. -/
  | encoded
  /-- A text that encodes a text. -/
  | encodedText
  /-- A text that is a document. -/
  | document
  /-- A text that encodes a document, if it encodes a text at all. -/
  | encodedDocument
  | required (names : List String)
  /-- No items after the first ones. -/
  | noFurtherItems (count : Nat)
  /-- No properties beside those that are known. -/
  | noOtherProperties (known : List NameTest)
  | noProperties
  | noPropertyNames

namespace Check

/-- The difference of two numbers, rounded, is below the distance of 1 to the next number. -/
def isClose (x y : JsonNumber) : Bool :=
  let a := x.toReal
  let b := y.toReal
  let (p, q) := (JsonNumber.real a).fraction
  let (r, s) := (JsonNumber.real b).fraction
  match Real64.ofFraction (p * s - r * q).natAbs (q * s) with
  | some difference => difference.compareFraction 1 (powerOfTwo 52) == .lt
  | none => false

/-- Numbers need not be quite the same. -/
def isConstant (expected value : Json) : Bool :=
  match expected, value with
  | .number x, .number y => isClose x y
  | _, _ => expected.equal value

/-- Whether a quotient of decimals, as the numbers are written, is whole. -/
def dividesDecimal (divisor value : Real64) : Bool :=
  let d := divisor.shortest
  let v := value.shortest
  (v.digits * powerOfTen (v.exponent - d.exponent).toNat) %
    (d.digits * powerOfTen (d.exponent - v.exponent).toNat) == 0

/-- Whether a number is a multiple. A divisor with a fraction divides if the rounded quotient is
less than the distance of 1 to the next number above a whole number, or negative; a quotient
beyond all numbers is taken exactly. -/
def divides (divisor value : Real64) : Bool :=
  if divisor.isIntegral then
    value.isIntegral &&
      (value.numerator / value.denominator) % (divisor.numerator / divisor.denominator) == 0
  else
    match value.div divisor with
    | none => dividesDecimal divisor value
    | some quotient =>
        (quotient.negative && !quotient.isIntegral) ||
          (quotient.numerator % quotient.denominator) * powerOfTwo 52 < quotient.denominator

def areDistinct : List Json → Bool
  | [] => true
  | item :: rest => rest.all (!item.equal ·) && areDistinct rest

/-- Items in a row, and how they are spoken of. -/
def unexpected (items : List String) : String :=
  ", ".intercalate items ++ if items.length = 1 then " was unexpected" else " were unexpected"

/-- A fault, unless the value keeps what is asked. -/
private def faultUnless (kept : Bool) (fault : String) : List String := if kept then [] else [fault]

def kindFault (allowed : List Kind) : String :=
  let names := ", ".intercalate (allowed.map fun kind => "\"" ++ kind.name ++ "\"")
  (if allowed.length = 1 then " is not of type " else " is not of types ") ++ names

def encodingFault (value : Json) : String :=
  value.compact ++ " is not compliant with \"" ++ Content.encoding ++ "\" content encoding"

def documentFault (value : Json) : String :=
  value.compact ++ " is not compliant with \"" ++ Content.mediaType ++ "\" media type"

def faults (check : Check) (value : Json) : List String :=
  match check, value with
  | .kind allowed, _ =>
      faultUnless (allowed.any (·.admits value)) (value.compact ++ kindFault allowed)
  | .among values, _ =>
      faultUnless (values.any value.equal)
        (value.compact ++ " is not one of " ++ (Json.array values).compact)
  | .constant expected, _ =>
      faultUnless (isConstant expected value) (expected.compact ++ " was expected")
  | .atLeast measure limit, _ =>
      faultUnless ((measure.count? value).all (limit ≤ ·))
        (value.compact ++ " " ++ measure.tooFew ++ " " ++ measure.words limit)
  | .atMost measure limit, _ =>
      faultUnless ((measure.count? value).all (· ≤ limit))
        (value.compact ++ " " ++ measure.tooMany ++ " " ++ measure.words limit)
  | .bound side limit, .number number =>
      faultUnless (side.admits (number.compare limit))
        (value.compact ++ " " ++ side.fault ++ " " ++ limit.render)
  | .multiple divisor, .number number =>
      faultUnless (divides divisor number.toReal)
        (value.compact ++ " is not a multiple of " ++ NumberLayout.plain.write divisor)
  | .distinct, .array items =>
      faultUnless (areDistinct items) (value.compact ++ " has non-unique elements")
  | .pattern written expression, .string text =>
      faultUnless (expression.isFoundIn text)
        (value.compact ++ " does not match \"" ++ written ++ "\"")
  | .format asked, .string text =>
      faultUnless (asked.admits text) (value.compact ++ " is not a \"" ++ asked.name ++ "\"")
  | .encoded, .string text => faultUnless (Content.isEncoded text) (encodingFault value)
  | .encodedText, .string text => (Content.encodedFault? text).toList.map (·.message)
  | .document, .string text => faultUnless (Content.isJson text) (documentFault value)
  | .encodedDocument, .string text =>
      faultUnless ((Content.decoded? text).all Content.isJson) (documentFault value)
  | .required names, .object _ =>
      names.flatMap fun name =>
        faultUnless (value.get? name).isSome (Json.renderString name ++ " is a required property")
  | .noFurtherItems count, .array items =>
      faultUnless (items.length ≤ count)
        ("Additional items are not allowed (" ++
          unexpected ((items.drop count).map Json.compact) ++ ")")
  | .noOtherProperties known, _ =>
      let others :=
        ((value.members?.map (·.keys)).getD []).filter fun name => !known.any (·.admits name)
      faultUnless others.isEmpty
        ("Additional properties are not allowed (" ++
          unexpected (others.map fun name => "'" ++ name ++ "'") ++ ")")
  | .noProperties, _ =>
      match (value.members?.map (·.values)).getD [] with
      | [] => []
      | first :: _ => ["False schema does not allow " ++ first.compact]
  | .noPropertyNames, .object members =>
      faultUnless members.isEmpty ("False schema does not allow " ++ value.compact)
  | _, _ => []

end Check

end Concord.Validation
