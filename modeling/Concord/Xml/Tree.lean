namespace Concord.Xml

/-! Elements of an XML document, with their names resolved.  Text between elements is not kept. -/

structure QualifiedName where
  uri? : Option String
  localName : String
deriving DecidableEq, Repr

/-- The name with its namespace in braces before it. -/
def QualifiedName.render (name : QualifiedName) : String :=
  match name.uri? with
  | some uri => "\x7b" ++ uri ++ "\x7d" ++ name.localName
  | none => name.localName

structure Attribute where
  name : QualifiedName
  value : String
deriving DecidableEq, Repr

inductive Element where
  | node (name : QualifiedName) (attributes : List Attribute) (children : List Element)

instance : Inhabited Element := ⟨.node ⟨none, ""⟩ [] []⟩

namespace Element

def name : Element → QualifiedName
  | .node name _ _ => name

def attributes : Element → List Attribute
  | .node _ attributes _ => attributes

def children : Element → List Element
  | .node _ _ children => children

/-- The value of an attribute whose name has no namespace. -/
def attribute? (element : Element) (name : String) : Option String :=
  (element.attributes.find? (·.name = ⟨none, name⟩)).map (·.value)

mutual

/-- The element and all below it, in document order. -/
def withDescendants : Element → List Element
  | .node name attributes children =>
      .node name attributes children :: descendantsOf children

def descendantsOf : List Element → List Element
  | [] => []
  | child :: rest => child.withDescendants ++ descendantsOf rest

end

def descendants (element : Element) : List Element := descendantsOf element.children

end Element

end Concord.Xml
