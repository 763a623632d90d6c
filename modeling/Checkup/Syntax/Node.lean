/-!
# Syntax trees

A `Node` is a piece of a program's text with its kind and its parts.  Nodes that the parser hides
are not in the tree; tokens without a name of their own are, as unnamed nodes whose kind is
their text.  Everything here is stated for any tree, however it was made.
-/

namespace Checkup.Syntax

/-- A place in a text: how many bytes come before it, how many line feeds, and how many bytes
behind the last of these. -/
structure Place where
  byte : Nat
  row : Nat
  column : Nat
deriving BEq, DecidableEq, Inhabited

structure Node where
  kind : String
  /-- Whether the kind is the name of a rule, and not the text of a token. -/
  named : Bool
  start : Place
  stop : Place
  /-- Whether the text here could not be read. -/
  isError : Bool := false
  /-- Whether the node stands for a token that the text lacks. -/
  isMissing : Bool := false
  /-- Whether it has such a node inside, or is one. -/
  hasError : Bool := false
  /-- Its role in the node that it is a part of. -/
  field : Option String := none
  children : List Node
deriving Inhabited

namespace Node

/-- The parts that count: named, and no comments. -/
def parts (n : Node) : List Node := n.children.filter fun c => c.named && c.kind ≠ "comment"

def hasChild (n : Node) (kind : String) : Bool := n.children.any (·.kind = kind)

/-- The part with a role. -/
def childIn? (n : Node) (field : String) : Option Node := n.children.find? (·.field = some field)

mutual

/-- All nodes of a tree, each before its parts, in the order of the text. -/
def preorder : Node → List Node
  | n@⟨_, _, _, _, _, _, _, _, children⟩ => n :: preorderAll children

def preorderAll : List Node → List Node
  | [] => []
  | n :: ns => preorder n ++ preorderAll ns

end

mutual

/-- The nodes without parts, in the order of the text. -/
def leaves : Node → List Node
  | n@⟨_, _, _, _, _, _, _, _, children⟩ => if children.isEmpty then [n] else leavesOf children

def leavesOf : List Node → List Node
  | [] => []
  | n :: ns => leaves n ++ leavesOf ns

end

end Node

end Checkup.Syntax
