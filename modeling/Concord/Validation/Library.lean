import Concord.Validation.Keyword

namespace Concord.Validation

/-! The schemas that references can refer to.

A schema can be found by its own name and by where its document comes from, and every part of a
document by a pointer from there.  Documents beside the schema are found by their names, or by
the last part of a name; any other name belongs to a schema that accepts everything.
-/

/-- Documents by names that were given to them. -/
abbrev Siblings := Table String Json

namespace Siblings

/-- What comes after the last slash. -/
def lastPart (uri : String) : String :=
  String.ofList (uri.toList.reverse.takeWhile (· ≠ '/')).reverse

def retrieve (siblings : Siblings) (uri : String) : Json :=
  match siblings.get? uri with
  | some document => document
  | none => (siblings.get? (lastPart uri)).getD (.object [])

end Siblings

/-- A schema within a document, and the base of the references in it. -/
structure Site where
  base : Grammar.Uri
  members : List (String × Json)

mutual

/-- All schemas in a document. -/
def sites (base : Grammar.Uri) : Json → List Site
  | .object members =>
      let base := baseWithin base members
      ⟨base, members⟩ :: sitesOfMembers base members
  | _ => []

def sitesOfMembers (base : Grammar.Uri) : List (String × Json) → List Site
  | [] => []
  | (keyword, value) :: rest =>
      let found :=
        match Nesting.ofKeyword keyword, value with
        | .one, schema => sites base schema
        | .many, .array schemas | .oneOrMany, .array schemas => sitesOfItems base schemas
        | .oneOrMany, schema => sites base schema
        | .named, .object schemas | .dependent, .object schemas => sitesOfNamed base schemas
        | _, _ => []
      found ++ sitesOfMembers base rest

def sitesOfItems (base : Grammar.Uri) : List Json → List Site
  | [] => []
  | schema :: rest => sites base schema ++ sitesOfItems base rest

def sitesOfNamed (base : Grammar.Uri) : List (String × Json) → List Site
  | [] => []
  | (_, schema) :: rest => sites base schema ++ sitesOfNamed base rest

end

namespace Site

/-- The names under which a schema can be found: its own, or a mark within its document. -/
def names (site : Site) : List String :=
  match textAt? "$id" site.members with
  | none => []
  | some written =>
      if written.startsWith "#" then [site.base.toText ++ written]
      else if (identity? site.members).isSome then [site.base.toText]
      else []

/-- The standard schemas are no documents that would have to be found. -/
def isStandard (written : String) : Bool :=
  written.startsWith "http://json-schema.org/draft-" ||
    written.startsWith "https://json-schema.org/draft/"

/-- What a schema refers to, its own schema among it; no value if that cannot be read. -/
def references? (site : Site) : Option (List Grammar.Uri) :=
  let written := ["$ref", "$schema"].filterMap (textAt? · site.members)
  (written.filter (!isStandard ·)).mapM (absolute? site.base)

end Site

/-- Documents and schemas in them, by name. -/
abbrev Library := Table String Json

namespace Library

def addSites (library : Library) (found : List Site) : Library :=
  found.foldl
    (fun library site =>
      site.names.foldl (fun library name => library.insert name (.object site.members)) library)
    library

/-- The bytes of a text in which some are written with a percent sign. -/
def decodedBytes : List Char → List UInt8
  | '%' :: high :: low :: rest =>
      if Grammar.isHexDigit high ∧ Grammar.isHexDigit low then
        UInt8.ofNat (16 * Grammar.Uri.hexValue high + Grammar.Uri.hexValue low) ::
          decodedBytes rest
      else '%'.toNat.toUInt8 :: decodedBytes (high :: low :: rest)
  | c :: rest => (String.singleton c).toUTF8.toList ++ decodedBytes rest
  | [] => []

def decoded? (text : List Char) : Option String :=
  String.fromUTF8? ⟨(decodedBytes text).toArray⟩

/-- The part of a value that a step leads to; here a position may have leading zeros. -/
def stepInto? (step : String) : Json → Option Json
  | .array items =>
      let digits := if step.startsWith "+" then (step.drop 1).toString else step
      if digits.toList.all Char.isDigit then digits.toNat?.bind (items[·]?) else none
  | value => value.part? step

def walk? (base : Grammar.Uri) (value : Json) : Json.Pointer → Option (Grammar.Uri × Json)
  | [] => some (base, value)
  | step :: rest => do
      let part ← stepInto? step value
      let base :=
        match part with
        | .object members => baseWithin base members
        | _ => base
      walk? base part rest

/-- What a reference leads to, and the base there. -/
def find? (library : Library) (target : Grammar.Uri) : Option (Grammar.Uri × Json) := do
  let document := target.withoutFragment
  match target.fragment?.getD [] with
  | [] => return (document, ← library.get? document.toText)
  | '/' :: rest =>
      let pointer ← Json.Pointer.ofText? (← decoded? ('/' :: rest))
      walk? document (← library.get? document.toText) pointer
  | mark => return (document, ← library.get? (document.toText ++ "#" ++ String.ofList mark))

/-- The standards that a document can claim to follow. -/
def standards : List String :=
  ["http://json-schema.org/draft-04/schema", "http://json-schema.org/draft-06/schema",
    "http://json-schema.org/draft-07/schema", "https://json-schema.org/draft/2019-09/schema",
    "https://json-schema.org/draft/2020-12/schema"]

/-- Whether a document follows a known standard, or claims none. -/
def isReadable (document : Json) : Bool :=
  match (document.get? "$schema").bind Json.string? with
  | none => true
  | some written =>
      standards.contains
        (String.ofList (written.toList.reverse.dropWhile (· = '#')).reverse)

/-- The library with the document of a target in it. -/
def addDocument? (siblings : Siblings) (library : Library) (uri : Grammar.Uri) : Option Library :=
  let name := uri.toText
  if library.contains name then some library
  else
    let document := (siblings.retrieve name).normal
    if isReadable document then
      some (addSites (library.insert name document) (sites uri document))
    else none

/-- Adds all documents that are referred to, those that they refer to, and so on, for as many
references as `limit` says. -/
def gather? (siblings : Siblings) :
    Nat → List Grammar.Uri → List Grammar.Uri → Library → Option Library
  | 0, _, _, library | _, [], _, library => some library
  | limit + 1, target :: pending, seen, library =>
      if seen.contains target then gather? siblings limit pending seen library
      else do
        let library ← addDocument? siblings library target.withoutFragment
        let found :=
          match find? library target with
          | some (base, value) => sites base value
          | none => []
        let further ← found.mapM Site.references?
        gather? siblings limit (further.flatten ++ pending) (target :: seen) library

end Library

end Concord.Validation
