import Checkup.Syntax.Node

/-!
# What can be deleted

Names, attributes and items can be deleted, and groups of them; nothing else.
-/

namespace Checkup.Syntax

namespace DeleteTarget

/-- What a target that cannot be deleted is called. -/
inductive Undeletable where
  | functionCall
  | starred
  | literal
  | expression
deriving BEq, DecidableEq, Inhabited

namespace Undeletable

def name : Undeletable → String
  | functionCall => "function call"
  | starred => "starred"
  | literal => "literal"
  | expression => "expression"

def message (u : Undeletable) : String := "cannot delete " ++ u.name

def ofKind (kind : String) : Undeletable :=
  if kind = "call" then functionCall
  else if kind = "list_splat" then starred
  else if ["integer", "float", "string", "concatenated_string", "true", "false", "none"].contains
      kind then literal
  else expression

end Undeletable

def isDeletable (kind : String) : Bool :=
  ["identifier", "keyword_identifier", "attribute", "subscript"].contains kind

def isGroup (kind : String) : Bool :=
  ["tuple", "list", "expression_list", "parenthesized_expression"].contains kind

mutual

/-- The first target in a target that cannot be deleted. -/
def invalid? : Node → Option (Node × Undeletable)
  | n@⟨kind, _, _, _, _, _, _, _, children⟩ =>
    if isDeletable kind then none
    else if isGroup kind then invalidIn? children
    else some (n, .ofKind kind)

/-- The same among the parts that count of a list of nodes. -/
def invalidIn? : List Node → Option (Node × Undeletable)
  | [] => none
  | c :: cs =>
    if c.named && c.kind ≠ "comment" then (invalid? c).or (invalidIn? cs) else invalidIn? cs

end

/-- The first target of a statement that cannot be deleted. -/
def fault? (statement : Node) : Option (Node × Undeletable) := invalidIn? statement.children

end DeleteTarget

end Checkup.Syntax
