import Checkup.Parsing.Parse
import Checkup.Syntax.Node

/-!
# From the parser's trees to syntax trees

`Subtree.toNode` drops hidden nodes in favour of their parts and puts aliases in the place of
names.
-/

namespace Checkup.Parsing

open Grammar Syntax

private def Extent.toPlace (e : Extent) : Place := ⟨e.bytes, e.rows, e.columns⟩

namespace Subtree

/-- The alias and the role of the child at a step of a production. -/
private def stepInfo (table : ParseTable) (shape : Nat) (c : Subtree) (step : Nat) :
    Option Alias × Option String :=
  if c.extra then (none, none)
  else
    let s := table.shapes.getD shape default
    (s.aliases.getD step none, s.fields.getD step none)

/-- Appends the nodes of a subtree that begins, with its blanks, at a place: the node that it shows
as, or those of its parts. -/
private def show' (table : ParseTable) (t : Subtree) (place : Extent) (renamed : Option Alias)
    (field : Option String) (out : Array Node) : Array Node :=
  let start := place + t.padding
  let inherited := if t.visible || renamed.isSome then none else field
  let children (out : Array Node) : Array Node :=
    (t.children.attach.foldl (fun (out, place, step) ⟨c, _⟩ =>
      let (renamed, role) := stepInfo table t.shape c step
      (show' table c place renamed (role.or inherited) out, place + c.total,
        if c.extra then step else step + 1)) (out, place, 0)).1
  let node (kind : String) (named : Bool) : Node :=
    { kind, named, field
      start := start.toPlace
      stop := (start + t.size).toPlace
      isError := t.isError
      isMissing := t.missing
      hasError := 0 < t.cost
      children := (children #[]).toList }
  match renamed with
  | some a => out.push (node a.name a.named)
  | none =>
    if t.visible then out.push (node (infoOf table t.symbol).name t.named) else children out
termination_by t
decreasing_by exact sizeOf_lt_of_mem_children ‹_›

/-- The syntax tree that a finished subtree shows. -/
def toNode (table : ParseTable) (t : Subtree) : Option Node :=
  (show' table t {} none none #[])[0]?

end Subtree

/-- The syntax tree of a text. -/
def tree? (table : ParseTable) (text : String) : Option Node :=
  (parse? table text.toList.toArray).bind (Subtree.toNode table)

end Checkup.Parsing
