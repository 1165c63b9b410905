import Concord.Json.Reader
import Concord.Text.Utf8

namespace Concord

/-! What texts can contain: other documents, as they are or in an encoding. -/

namespace Text.Base64

/-- The six bits that a character stands for. -/
def sextet? (c : Char) : Option Nat :=
  if c.isUpper then some (c.toNat - 'A'.toNat)
  else if c.isLower then some (c.toNat - 'a'.toNat + 26)
  else if c.isDigit then some (c.toNat - '0'.toNat + 52)
  else if c = '+' then some 62
  else if c = '/' then some 63
  else none

/-- The bytes of a text, four characters for every three; at the end, padding stands for what is
missing of the last three, and bits that belong to none must be zero. -/
def decode? : List Char → Option (List UInt8)
  | [] => some []
  | [a, b, '=', '='] => do
      let bits := 64 * (← sextet? a) + (← sextet? b)
      if bits % 16 = 0 then return [UInt8.ofNat (bits / 16)] else none
  | [a, b, c, '='] => do
      let bits := 64 * (64 * (← sextet? a) + (← sextet? b)) + (← sextet? c)
      if bits % 4 = 0 then return [UInt8.ofNat (bits / 1024), UInt8.ofNat (bits / 4)] else none
  | a :: b :: c :: d :: rest => do
      let high := 64 * (← sextet? a) + (← sextet? b)
      let bits := 64 * (64 * high + (← sextet? c)) + (← sextet? d)
      return UInt8.ofNat (bits / 65536) :: UInt8.ofNat (bits / 256) :: UInt8.ofNat bits ::
        (← decode? rest)
  | _ => none

end Text.Base64

namespace Validation.Content

/-- The only type of documents that is looked at. -/
def mediaType : String := "application/json"

/-- The only encoding that is looked at. -/
def encoding : String := "base64"

def isJson (text : String) : Bool :=
  match Json.parse text with
  | .ok _ => true
  | .error _ => false

def isEncoded (text : String) : Bool := (Text.Base64.decode? text.toList).isSome

/-- Why the bytes that a text encodes are no text. -/
def encodedFault? (text : String) : Option Text.Utf8Fault :=
  (Text.Base64.decode? text.toList).bind Text.utf8Fault?

def decoded? (text : String) : Option String := do
  String.fromUTF8? ⟨(← Text.Base64.decode? text.toList).toArray⟩

end Validation.Content

end Concord
