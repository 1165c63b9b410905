namespace Concord.Grammar

/-! Names and numeric addresses of hosts. -/

/-- The stretches of a text between separators, one more than there are separators. -/
def pieces (separator : Char) : List Char → List (List Char)
  | [] => [[]]
  | c :: rest =>
      if c = separator then [] :: pieces separator rest
      else
        match pieces separator rest with
        | [] => [[c]]
        | piece :: later => (c :: piece) :: later

def isHexDigit (c : Char) : Bool :=
  c.isDigit || ('a' ≤ c && c ≤ 'f') || ('A' ≤ c && c ≤ 'F')

/-- A number below 256 without leading zeros. -/
def isOctet (digits : List Char) : Bool :=
  match digits with
  | [] => false
  | first :: rest =>
      digits.all Char.isDigit && digits.length ≤ 3 && (first != '0' || rest.isEmpty) &&
        (digits.foldl (fun value c => 10 * value + (c.toNat - '0'.toNat)) 0) < 256

/-- Four octets with points between them. -/
def isAddress4 (text : List Char) : Bool :=
  let octets := pieces '.' text
  octets.length == 4 && octets.all isOctet

/-- Sixteen bits of an address. -/
def isGroup (digits : List Char) : Bool :=
  digits != [] && digits.length ≤ 4 && digits.all isHexDigit

/-- How many groups a run of them has; the last one of an address may be an address of four
octets, which stands for two groups. -/
def groupCount? (ending : Bool) : List (List Char) → Option Nat
  | [] => some 0
  | [last] =>
      if isGroup last then some 1 else if ending && isAddress4 last then some 2 else none
  | group :: rest => if isGroup group then (groupCount? ending rest).map (· + 1) else none

/-- The groups in a text that may be empty. -/
def groupsIn? (ending : Bool) (text : List Char) : Option Nat :=
  if text.isEmpty then some 0 else groupCount? ending (pieces ':' text)

/-- The texts before and after the first pair of colons. -/
def aroundGap? : List Char → Option (List Char × List Char)
  | ':' :: ':' :: rest => some ([], rest)
  | c :: rest => (aroundGap? rest).map fun (before, after) => (c :: before, after)
  | [] => none

/-- Eight groups, or fewer with one gap that stands for the missing ones. -/
def isAddress6 (text : List Char) : Bool :=
  match aroundGap? text with
  | none => groupsIn? true text == some 8
  | some (before, after) =>
      match groupsIn? false before, groupsIn? true after with
      | some first, some last => first + last ≤ 7
      | _, _ => false

def isLabel (label : List Char) : Bool :=
  label != [] && label.length ≤ 63 && label.all (fun c => c.isAlphanum || c == '-') &&
    label.head? != some '-' && label.getLast? != some '-'

/-- Labels with points between them. -/
def isHostName (text : List Char) : Bool :=
  text.length ≤ 253 && (pieces '.' text).all isLabel

end Concord.Grammar
