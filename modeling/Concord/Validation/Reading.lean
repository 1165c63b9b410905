import Concord.Validation.Keyword

namespace Concord.Validation

/-! Constraints as schemas write them.

The keywords of a schema are taken in the order of their names.  Most stand for themselves; some
say something about others: `additionalProperties` is about all properties that neither
`properties` nor `patternProperties` speak of, and what these ask is then found where it stands.
A schema with a reference is nothing but the reference.
-/

/-- What stands under a keyword, as far as it could be read. -/
inductive Part where
  | plain (value : Json)
  | one (value : Json) (schema? : Option Constraint)
  | many (schemas? : Option (List Constraint))
  | named (schemas? : Option (List (String × Constraint)))

namespace Part

def named? : Option Part → Option (List (String × Constraint))
  | some (.named schemas?) => schemas?
  | some _ => none
  | none => some []

end Part

namespace Constraint

def numbered (parts : List Constraint) : List Constraint :=
  parts.zipIdx.map fun (part, position) => .under (toString position) part

/-- What the schemas of single properties ask for. -/
def propertyCases (schemas : List (String × Constraint)) : List (NameTest × Constraint) :=
  schemas.map fun (name, schema) => (.exactly name, .under name schema)

def patternCases? (schemas : List (String × Constraint)) :
    Option (List (NameTest × Constraint)) :=
  schemas.mapM fun (written, schema) => do
    return (.matching (← Regex.ofSchemaPattern? written), .under written schema)

/-- One constraint after the other, each for all properties that it is about. -/
def eachCase (keyword : String) (cases : List (NameTest × Constraint)) : Constraint :=
  .under keyword (.all (cases.map fun entry => .properties [entry] accepted))

def within (keyword : String) (cases : List (NameTest × Constraint)) :
    List (NameTest × Constraint) :=
  cases.map fun (test, part) => (test, .under keyword part)

/-- Whether `additionalProperties` speaks of all properties. -/
def takesOver : Option Part → Bool
  | some (.one _ (some (.always true))) | none => false
  | some _ => true

def ofAdditionalProperties? (parts : List (String × Part)) (schema : Constraint) :
    Option Constraint := do
  let properties ← Part.named? (parts.lookup "properties")
  let patterns ← patternCases? (← Part.named? (parts.lookup "patternProperties"))
  let cases := within "properties" (propertyCases properties) ++ within "patternProperties" patterns
  let known := (parts.lookup "properties").isSome || (parts.lookup "patternProperties").isSome
  match schema with
  | .always true => return accepted
  | .always false =>
      if known then
        return .all [.properties cases accepted,
          .under "additionalProperties" (.check (.noOtherProperties (cases.map (·.1))))]
      else return .under "additionalProperties" (.check .noProperties)
  | schema => return .properties cases (.under "additionalProperties" schema)

def ofItems? : Part → Option Constraint
  | .one _ schema? => schema?.map fun schema => .under "items" (.items 0 none schema)
  | .many schemas? => do
      let parts := (← schemas?).zipIdx.map fun (schema, position) =>
        .items position (some 1) (.under (toString position) schema)
      return .under "items" (.all parts)
  | _ => none

/-- Items after those that `items` lists one by one. -/
def ofAdditionalItems? (parts : List (String × Part)) (schema? : Option Constraint) :
    Option Constraint :=
  match parts.lookup "items" with
  | some (.many schemas?) => do
      let count := (← schemas?).length
      match ← schema? with
      | .always false => return .under "additionalItems" (.check (.noFurtherItems count))
      | schema => return .under "additionalItems" (.items count none schema)
  | _ => some accepted

def branch? (keyword : String) : Option Part → Option Constraint
  | some (.one _ schema?) => schema?.map (.under keyword)
  | some _ => none
  | none => some accepted

/-- What the type of a content asks for, which may be written in an encoding. Where either is one
that is not looked at, nothing is asked for. -/
def ofContent (mediaType : Json) (encoding? : Option Part) : Constraint :=
  if mediaType.string? ≠ some Content.mediaType then accepted
  else
    match encoding? with
    | none => .under "contentMediaType" (.check .document)
    | some (.plain (.string encoding)) =>
        if encoding = Content.encoding then
          .all [.under "contentEncoding" (.check .encoded), .unplaced .encodedText,
            .under "contentMediaType" (.check .encodedDocument)]
        else accepted
    | some _ => accepted

/-- What an encoding asks for where no type of the content is given. -/
def ofEncoding (encoding : Json) (mediaType? : Option Part) : Constraint :=
  if mediaType?.isNone ∧ encoding.string? = some Content.encoding then
    .under "contentEncoding" (.check .encoded)
  else accepted

/-- What a keyword asks for among the others of its schema. -/
def ofKeyword? (parts : List (String × Part)) (keyword : String) (part : Part) :
    Option Constraint :=
  match keyword, part with
  | "definitions", _ | "else", _ | "then", _ => some accepted
  | "additionalItems", .one _ schema? => ofAdditionalItems? parts schema?
  | "additionalProperties", .one _ schema? => do ofAdditionalProperties? parts (← schema?)
  | "properties", .named schemas? => do
      let cases := propertyCases (← schemas?)
      return if takesOver (parts.lookup "additionalProperties") then accepted
        else eachCase keyword cases
  | "patternProperties", .named schemas? => do
      let cases ← patternCases? (← schemas?)
      return if takesOver (parts.lookup "additionalProperties") then accepted
        else eachCase keyword cases
  | "propertyNames", .one _ schema? => do
      match ← schema? with
      | .always true => return accepted
      | .always false => return .under keyword (.check .noPropertyNames)
      | schema => return .under keyword (.names schema)
  | "items", part => ofItems? part
  | "contains", .one _ schema? => do return .under keyword (.contains (← schema?))
  | "not", .one value schema? => do return .under keyword (.excludes value.compact (← schema?))
  | "allOf", .many schemas? => do return .under keyword (.all (numbered (← schemas?)))
  | "anyOf", .many schemas? => do return .under keyword (.anyOf (numbered (← schemas?)))
  | "oneOf", .many schemas? => do return .under keyword (.oneOf (numbered (← schemas?)))
  | "dependencies", .named schemas? => do
      return .under keyword (.all ((← schemas?).map fun (name, part) => .dependent name part))
  | "if", .one _ schema? =>
      let branches := [parts.lookup "then", parts.lookup "else"]
      if branches.all Option.isNone then some accepted
      else do
        return .choice (.under keyword (← schema?)) (← branch? "then" (parts.lookup "then"))
          (← branch? "else" (parts.lookup "else"))
  | "contentEncoding", .plain value =>
      some (ofEncoding value (parts.lookup "contentMediaType"))
  | "contentMediaType", .plain value =>
      some (ofContent value (parts.lookup "contentEncoding"))
  | _, .plain value => do
      match ← Check.ofKeyword? keyword value with
      | some test => return .under keyword (.check test)
      | none => return accepted
  | _, _ => none

mutual

/-- The constraint that a schema writes; its objects list every member once, in order. -/
def ofJson? (base : Grammar.Uri) : Json → Option Constraint
  | .bool accepted => some (.always accepted)
  | .object members =>
      let base := baseWithin base members
      match Json.lastValue? "$ref" members with
      | some (.string written) =>
          (absolute? base written).map fun target => .reference target.toText
      | some _ => none
      | none =>
          let parts := partsOf base members
          (parts.mapM fun (keyword, part) => ofKeyword? parts keyword part).map .all
  | _ => none

def partsOf (base : Grammar.Uri) : List (String × Json) → List (String × Part)
  | [] => []
  | (keyword, value) :: rest =>
      let part :=
        match Nesting.ofKeyword keyword, value with
        | .one, schema => .one schema (ofJson? base schema)
        | .many, .array schemas | .oneOrMany, .array schemas => .many (ofItemsJson? base schemas)
        | .oneOrMany, schema => .one schema (ofJson? base schema)
        | .named, .object schemas => .named (ofMembersJson? base schemas)
        | .dependent, .object schemas => .named (ofDependencies? base schemas)
        | .nothing, value => .plain value
        | _, _ => .named none
      (keyword, part) :: partsOf base rest

def ofItemsJson? (base : Grammar.Uri) : List Json → Option (List Constraint)
  | [] => some []
  | schema :: rest => do return (← ofJson? base schema) :: (← ofItemsJson? base rest)

def ofMembersJson? (base : Grammar.Uri) :
    List (String × Json) → Option (List (String × Constraint))
  | [] => some []
  | (name, schema) :: rest => do
      return (name, ← ofJson? base schema) :: (← ofMembersJson? base rest)

/-- A dependency on further names is spoken of where all dependencies stand. -/
def ofDependencies? (base : Grammar.Uri) :
    List (String × Json) → Option (List (String × Constraint))
  | [] => some []
  | (name, value) :: rest => do
      let part ←
        match value with
        | .array needed => (needed.mapM Json.string?).map (.check <| .required ·)
        | schema => (ofJson? base schema).map (.under name)
      return (name, part) :: (← ofDependencies? base rest)

end

end Constraint

end Concord.Validation
