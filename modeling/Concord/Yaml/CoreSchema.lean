import Concord.Json.Basic
import Concord.Yaml.Node

namespace Concord.Yaml

/-! What scalars stand for in the core schema, and YAML nodes as JSON values. -/

def isNull (text : String) : Bool := ["null", "Null", "NULL", "~"].contains text

def boolean? (text : String) : Option Bool :=
  if ["true", "True", "TRUE"].contains text then some true
  else if ["false", "False", "FALSE"].contains text then some false
  else none

def digitsIn? (base : Nat) (digits : List Char) : Option Nat :=
  let digit? (c : Char) : Option Nat :=
    (hexValue? c).bind fun d => if d < base then some d else none
  if digits.isEmpty then none
  else digits.foldlM (fun value c => (digit? c).map (value * base + ·)) 0

/-- Whether digits begin with a zero that is not their only one; they are text then. -/
def hasLeadingZero (digits : List Char) : Bool :=
  match digits with
  | '0' :: _ :: _ => digits.all Char.isDigit
  | _ => false

/-- The value of digits, which may be marked as hexadecimal, octal or binary. -/
def natural? (digits : List Char) : Option Nat :=
  match digits with
  | '0' :: 'x' :: marked => digitsIn? 16 marked
  | '0' :: 'o' :: marked => digitsIn? 8 marked
  | '0' :: 'b' :: marked => digitsIn? 2 marked
  | _ => if hasLeadingZero digits then none else digitsIn? 10 digits

/-- The text without a sign, and whether the sign is a minus. -/
def unsigned (text : String) : Bool × List Char :=
  match text.toList with
  | '-' :: rest => (true, rest)
  | '+' :: rest => (false, rest)
  | rest => (false, rest)

def integer? (text : String) : Option Int :=
  let (negative, digits) := unsigned text
  (natural? digits).map fun value => if negative then -(value : Int) else value

/-- A count: a plus may stand in front of it, and a minus not even of zero. -/
def count? (text : String) : Option Nat :=
  match unsigned text with
  | (true, _) => none
  | (false, digits) => natural? digits

inductive RealScalar where
  | finite (value : Real64)
  | infinite
  | notANumber
deriving DecidableEq, Repr

/-- The power of ten behind the digits of a number, if what is left of the text is one. -/
def exponent? (text : List Char) : Option Int :=
  match text with
  | [] => some 0
  | mark :: rest =>
      if mark ≠ 'e' ∧ mark ≠ 'E' then none
      else
        match rest with
        | '-' :: digits => (digitsIn? 10 digits).map fun value => -(value : Int)
        | '+' :: digits => (digitsIn? 10 digits).map Int.ofNat
        | digits => (digitsIn? 10 digits).map Int.ofNat

/-- Digits with at most one point and an exponent; a number beyond the largest one is text. -/
def unsignedReal? (text : List Char) : Option Real64 := do
  let whole := text.takeWhile Char.isDigit
  let behind := text.dropWhile Char.isDigit
  let (fraction, behind) :=
    match behind with
    | '.' :: rest => (rest.takeWhile Char.isDigit, rest.dropWhile Char.isDigit)
    | _ => ([], behind)
  let digits ← digitsIn? 10 (whole ++ fraction)
  let exponent ← exponent? behind
  Real64.ofDecimal digits (exponent - fraction.length)

def isInfinity (text : String) : Bool := [".inf", ".Inf", ".INF"].contains text

def real? (text : String) : Option RealScalar :=
  let (negative, digits) := unsigned text
  if isInfinity (String.ofList digits) then some .infinite
  else if [".nan", ".NaN", ".NAN"].contains text then some .notANumber
  else (unsignedReal? digits).map fun value => .finite (value.withSign negative)

/-- A whole number as JSON. Beyond 64 bits there is none, and beyond 128 bits the text is read as a
real number. -/
def wholeToJson? (value : Int) : Option (Option Json) :=
  if -0x8000000000000000 ≤ value ∧ value < 0x10000000000000000 then
    some (some (.number (.integer value)))
  else if -(powerOfTwo 127 : Int) ≤ value ∧ value < powerOfTwo 128 then some none
  else none

/-- A real number as JSON, which has no infinity. -/
def RealScalar.toJson : RealScalar → Json
  | .finite value => .number (.real value)
  | .infinite | .notANumber => .null

/-- A plain scalar without a tag. -/
def plainToJson? (text : String) : Option Json :=
  if text = "" ∨ isNull text then some .null
  else
    match boolean? text with
    | some value => some (.bool value)
    | none =>
        match (integer? text).bind wholeToJson? with
        | some whole => whole
        | none =>
            let real := if hasLeadingZero (unsigned text).2 then none else real? text
            some ((real.map RealScalar.toJson).getD (.string text))

def isLocal (tag : String) : Bool := tag.startsWith "!"

/-- A scalar with a tag. The tags of the core schema decide how the text is read; it must fit.
A local tag names a type that JSON has no values of. -/
def taggedToJson? (tag text : String) : Option Json :=
  if isLocal tag then none
  else
    match tag with
    | "tag:yaml.org,2002:bool" => (boolean? text).map .bool
    | "tag:yaml.org,2002:int" => ((integer? text).bind wholeToJson?).join
    | "tag:yaml.org,2002:float" =>
        (real? text).map RealScalar.toJson
    | "tag:yaml.org,2002:null" => if isNull text then some .null else none
    | _ => some (.string text)

def scalarToJson? (tag? : Option String) (style : Style) (text : String) : Option Json :=
  match tag? with
  | some tag => taggedToJson? tag text
  | none => if style = .plain then plainToJson? text else some (.string text)

namespace Node

def text? : Node → Option String
  | .scalar _ _ text => some text
  | _ => none

mutual

/-- A node as a JSON value; a key is the text of its scalar. -/
def toJson? : Node → Option Json
  | .scalar tag? style text => scalarToJson? tag? style text
  | .sequence tag? items =>
      if (tag?.map isLocal).getD false then none else (itemsToJson? items).map .array
  | .mapping tag? entries =>
      if (tag?.map isLocal).getD false then none else (entriesToJson? entries).map .object

def itemsToJson? : List Node → Option (List Json)
  | [] => some []
  | item :: rest => do return (← item.toJson?) :: (← itemsToJson? rest)

def entriesToJson? : List (Node × Node) → Option (List (String × Json))
  | [] => some []
  | (key, value) :: rest => do
      let entry := (← key.text?, ← value.toJson?)
      return entry :: (← entriesToJson? rest)

end

end Node

end Concord.Yaml
