import Concord.Yaml.WrittenNode

namespace Concord.Yaml

/-! The nodes of a document, with every alias replaced by what it stands for. -/

inductive Node where
  | scalar (tag? : Option String) (style : Style) (text : String)
  | sequence (tag? : Option String) (items : List Node)
  | mapping (tag? : Option String) (entries : List (Node × Node))

namespace Node

/-- The node that a written node is, or stands for.  What is counted down is how many aliases may
still be followed; an alias never stands for another one. -/
def follow (anchors : WrittenNode.Anchors) : WrittenNode → StateT Nat Option WrittenNode
  | .alias number => fun
      | 0 => none
      | left + 1 => (anchors.node? number).map fun node => (node, left)
  | node => pure node

/-- A node without aliases, with `depth` levels of collections allowed.  An alias within the node
that it stands for is beyond every depth. -/
def ofWrittenWithin (anchors : WrittenNode.Anchors) :
    Nat → WrittenNode → StateT Nat Option Node
  | depth, written => do
      match depth, ← follow anchors written with
      | _, .alias _ => failure
      | _, .scalar tag? style text => return .scalar tag? style text
      | 0, _ => failure
      | depth + 1, .sequence tag? items =>
          return .sequence tag? (← items.mapM (ofWrittenWithin anchors depth))
      | depth + 1, .mapping tag? entries =>
          return .mapping tag? (← entries.mapM fun (key, value) => do
            let key ← ofWrittenWithin anchors depth key
            return (key, ← ofWrittenWithin anchors depth value))

def depthLimit : Nat := 128

/-- How many aliases may be followed for each count of a node's size. -/
def aliasesPerSize : Nat := 100

def ofWritten? (anchors : WrittenNode.Anchors) (written : WrittenNode) : Option Node :=
  (ofWrittenWithin anchors depthLimit written).run' (aliasesPerSize * written.size)

def ofText? (text : String) : Option Node := do
  let (written, anchors) ← WrittenNode.ofTokens? (← Token.ofText? text)
  ofWritten? anchors written

end Node

end Concord.Yaml
