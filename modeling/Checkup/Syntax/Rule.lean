import Checkup.Syntax.Rule.Integer
import Checkup.Syntax.Rule.Arguments
import Checkup.Syntax.Rule.DeleteTarget
import Checkup.Syntax.Rule.Block
import Checkup.Syntax.Rule.Indentation

/-!
# Rules beyond the grammar

The grammar also reads older forms of the language, and leaves some restrictions to the compiler.
`Occurrence.issue?` is the rule for one node where it stands; `firstViolation?` is the first issue
of a tree without errors, the rule for indentation included.
-/

namespace Checkup.Syntax

/-- A node where it stands: with the nodes it is inside of, the innermost first, and the node right
before it. -/
structure Occurrence where
  node : Node
  ancestors : List Node := []
  before : Option Node := none
deriving Inhabited

namespace Occurrence

mutual

/-- All nodes of a tree where they stand, each before its parts, in the order of the text. -/
def preorder (ancestors : List Node) (before : Option Node) : Node → List Occurrence
  | n@⟨_, _, _, _, _, _, _, _, children⟩ =>
    { node := n, ancestors, before } :: preorderAll (n :: ancestors) none children

def preorderAll (ancestors : List Node) (before : Option Node) : List Node → List Occurrence
  | [] => []
  | n :: ns => preorder ancestors before n ++ preorderAll ancestors (some n) ns

end

/-- All nodes of a tree where they stand. -/
def all (root : Node) : List Occurrence := preorder [] none root

/-- In a comprehension, what is iterated over must be one expression.  Inside a call, this is a
generator followed by more arguments. -/
def iterableIssue? (text : List Char) (o : Occurrence) : Option Issue :=
  match o.node.children.find? (·.kind = ",") with
  | none => none
  | some comma =>
    let body := match o.ancestors with
      | generator :: call :: _ =>
        if generator.kind = "generator_expression" && call.kind = "call" then
          generator.childIn? "body"
        else none
      | _ => none
    some <| match body with
      | some body => Issue.ofPlace text body.start "Generator expression must be parenthesized"
      | none => Issue.ofPlace text comma.start "invalid syntax"

/-- The issue with a node, if it breaks a rule. -/
def issue? (text : List Char) (o : Occurrence) : Option Issue :=
  let n := o.node
  match n.kind with
  | "print_statement" =>
    if n.hasChild "chevron" then none
    else some (Issue.ofPlace text n.start
      "Missing parentheses in call to 'print'. Did you mean print(...)?")
  | "exec_statement" =>
    some (Issue.ofPlace text n.start
      "Missing parentheses in call to 'exec'. Did you mean exec(...)?")
  | "<>" => some (Issue.ofPlace text n.start "invalid syntax")
  | "string_start" =>
    if (n.text text).contains '`' then some (Issue.ofPlace text n.start "invalid syntax") else none
  | "integer" =>
    (Integer.fault? (n.text text)).map fun fault => Issue.ofPlace text n.start fault.message
  | "block" =>
    if n.parts.isEmpty then some (Block.missingIssue text (Block.headerRow o.before n)) else none
  | "delete_statement" =>
    (DeleteTarget.fault? n).map fun (target, what) =>
      Issue.ofPlace text target.start what.message
  | "argument_list" =>
    (Arguments.fault? n).map fun (argument, fault) =>
      Issue.ofPlace text argument.start fault.message
  | "for_in_clause" => o.iterableIssue? text
  | _ => none

end Occurrence

/-- The issue of the first node that breaks a rule. -/
def firstStructural? (text : List Char) (root : Node) : Option Issue :=
  (Occurrence.all root).findSome? (·.issue? text)

/-- Of the issue that the nodes show and that of the indentation, the one that comes first. -/
def firstViolation? (text : List Char) (root : Node) : Option Issue :=
  match firstStructural? text root, Indentation.issue? text root with
  | some a, some b => some (if b.isBefore a then b else a)
  | a, b => a.or b

end Checkup.Syntax
