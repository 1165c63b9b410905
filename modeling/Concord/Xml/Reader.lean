import Concord.Xml.Token
import Concord.Xml.Tree

namespace Concord.Xml

/-! Building the element tree from the tags of a document, with every name resolved in the
namespaces declared around it.
-/

def xmlUri : String := "http://www.w3.org/XML/1998/namespace"

def xmlnsUri : String := "http://www.w3.org/2000/xmlns/"

/-- Namespaces by qualifier, the innermost declaration first; the default namespace has the empty
qualifier. -/
abbrev Scope := List (String × String)

namespace Scope

/-- The declarations of an element. A qualifier is declared once, and neither of the two reserved
namespaces can be given another name; of two default namespaces the first counts. -/
def declarations : List WrittenAttribute → Scope → Option Scope
  | [], declared => some declared.reverse
  | ⟨⟨qualifier, localName⟩, value⟩ :: rest, declared =>
      if qualifier = "xmlns" then
        if value = xmlnsUri ∨ ¬ (localName = "xml" ↔ value = xmlUri) ∨
            (declared.lookup localName).isSome then none
        else if value = xmlUri then declarations rest declared
        else declarations rest ((localName, value) :: declared)
      else if localName = "xmlns" then
        if value = xmlUri ∨ value = xmlnsUri then none
        else declarations rest (("", value) :: declared)
      else declarations rest declared

/-- The name of an element: without a qualifier it belongs to the default namespace, if there is
one. -/
def elementName? (scope : Scope) (name : WrittenName) : Option QualifiedName :=
  if name.qualifier = "xmlns" then none
  else
    match scope.lookup name.qualifier with
    | some uri => some ⟨some uri, name.localName⟩
    | none => if name.qualifier = "" then some ⟨none, name.localName⟩ else none

/-- The name of an attribute: without a qualifier it belongs to no namespace. -/
def attributeName? (scope : Scope) (name : WrittenName) : Option QualifiedName :=
  if name.qualifier = "" then some ⟨none, name.localName⟩
  else if name.qualifier = "xml" then some ⟨some xmlUri, name.localName⟩
  else (scope.lookup name.qualifier).map fun uri => ⟨some uri, name.localName⟩

def isDeclaration (written : WrittenAttribute) : Bool :=
  written.name.qualifier = "xmlns" || written.name.localName = "xmlns"

/-- The attributes that declare no namespace; no two may have one name. -/
def attributes? (scope : Scope) (written : List WrittenAttribute) : Option (List Attribute) := do
  let attributes ← (written.filter (!isDeclaration ·)).mapM fun pair =>
    (scope.attributeName? pair.name).map fun name => Attribute.mk name pair.value
  if (attributes.map (·.name)).Nodup then return attributes else none

end Scope

/-- An element whose closing tag is still to come, its last child first. -/
structure OpenElement where
  written : WrittenName
  scope : Scope
  name : QualifiedName
  attributes : List Attribute
  children : List Element

namespace OpenElement

def close (element : OpenElement) : Element :=
  .node element.name element.attributes element.children.reverse

def withChild (element : OpenElement) (child : Element) : OpenElement :=
  { element with children := child :: element.children }

def ofTag? (around : Scope) (written : WrittenName) (attributes : List WrittenAttribute) :
    Option OpenElement := do
  let scope := (← Scope.declarations attributes []) ++ around
  let name ← scope.elementName? written
  let attributes ← scope.attributes? attributes
  return { written, scope, name, attributes, children := [] }

end OpenElement

namespace Element

/-- The root made of the tokens. `around` holds the elements that are open, the innermost first,
and `root` the element that is complete. -/
def build : List Token → List OpenElement → Option Element → Option Element
  | [], [], root => root
  | [], _ :: _, _ => none
  | .characters :: _, [], _ => none
  | .characters :: rest, around, root => build rest around root
  | .closing _ :: _, [], _ => none
  | .closing name :: rest, inner :: outer, root =>
      if name ≠ inner.written then none
      else
        match outer with
        | [] => build rest [] (some inner.close)
        | next :: others => build rest (next.withChild inner.close :: others) root
  | .opening name attributes closed :: rest, around, root =>
      if around.isEmpty && root.isSome then none
      else
        match OpenElement.ofTag? ((around.head?.map (·.scope)).getD []) name attributes with
        | none => none
        | some inner =>
            if !closed then build rest (inner :: around) root
            else
              match around with
              | [] => build rest [] (some inner.close)
              | next :: others => build rest (next.withChild inner.close :: others) root

/-- The root element of a document that is well-formed. -/
def ofText? (document : String) : Option Element := do
  build (← Token.ofText? document) [] none

end Element

end Concord.Xml
