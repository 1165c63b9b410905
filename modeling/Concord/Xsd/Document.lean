import Concord.Xml.Tree

namespace Concord.Xsd

/-! What a comparison and a lint run look at in an XML Schema document: its root, its element
declarations and its complex types, in document order.
-/

def namespaceUri : String := "http://www.w3.org/2001/XMLSchema"

def isNamed (name : Xml.QualifiedName) (localName : String) : Bool :=
  name = ⟨some namespaceUri, localName⟩

structure ElementDeclaration where
  name? : Option String
  type? : Option String
deriving DecidableEq, Repr

/-- What stands before the first colon of the declared type. -/
def ElementDeclaration.typePrefix? (declaration : ElementDeclaration) : Option String :=
  declaration.type?.bind fun type =>
    let before := type.toList.takeWhile (· ≠ ':')
    if before.length < type.length then some (String.ofList before) else none

/-- A complex type, with the element declarations anywhere below it. -/
structure ComplexType where
  name? : Option String
  elements : List ElementDeclaration
deriving DecidableEq, Repr

structure Document where
  root : Xml.QualifiedName
  targetNamespace? : Option String
  complexTypes : List ComplexType
  simpleTypeCount : Nat
  topLevelElements : List ElementDeclaration
  elements : List ElementDeclaration
deriving DecidableEq, Repr

def declaration (element : Xml.Element) : ElementDeclaration :=
  ⟨element.attribute? "name", element.attribute? "type"⟩

def declarations (elements : List Xml.Element) : List ElementDeclaration :=
  (elements.filter fun element => isNamed element.name "element").map declaration

def complexType (element : Xml.Element) : ComplexType :=
  ⟨element.attribute? "name", declarations element.withDescendants⟩

namespace Document

/-- The root is never a complex type, but it may be an element declaration. -/
def ofRoot (root : Xml.Element) : Document where
  root := root.name
  targetNamespace? := root.attribute? "targetNamespace"
  complexTypes :=
    (root.descendants.filter fun element => isNamed element.name "complexType").map complexType
  simpleTypeCount :=
    (root.withDescendants.filter fun element => isNamed element.name "simpleType").length
  topLevelElements := declarations root.children
  elements := declarations root.withDescendants

def namedTypes (document : Document) : List (String × ComplexType) :=
  document.complexTypes.filterMap fun type => type.name?.map fun name => (name, type)

def type? (document : Document) (name : String) : Option ComplexType :=
  (document.namedTypes.find? fun entry => entry.1 = name).map (·.2)

end Document

end Concord.Xsd
