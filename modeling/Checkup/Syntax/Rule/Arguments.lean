import Checkup.Syntax.Node

/-!
# The order of arguments in a call

Positional arguments come before keyword arguments, and neither plain arguments nor unpacked
sequences come behind unpacked mappings.
-/

namespace Checkup.Syntax

inductive ArgumentFault where
  | sequenceAfterMapping
  | positionalAfterMapping
  | positionalAfterKeyword
deriving BEq, DecidableEq, Inhabited

namespace ArgumentFault

def message : ArgumentFault → String
  | sequenceAfterMapping => "iterable argument unpacking follows keyword argument unpacking"
  | positionalAfterMapping => "positional argument follows keyword argument unpacking"
  | positionalAfterKeyword => "positional argument follows keyword argument"

end ArgumentFault

namespace Arguments

inductive Kind where
  | keyword
  | mapping
  | sequence
  | positional
deriving BEq, DecidableEq, Inhabited

def kindOf (n : Node) : Kind :=
  if n.kind = "keyword_argument" then .keyword
  else if n.kind = "dictionary_splat" then .mapping
  else if n.kind = "list_splat" then .sequence
  else .positional

/-- The first argument that is out of order, behind arguments among which there were keywords or
mappings. -/
def misplaced? (keyword mapping : Bool) : List Node → Option (Node × ArgumentFault)
  | [] => none
  | a :: rest =>
    match kindOf a with
    | .keyword => misplaced? true mapping rest
    | .mapping => misplaced? keyword true rest
    | .sequence =>
      if mapping then some (a, .sequenceAfterMapping) else misplaced? keyword mapping rest
    | .positional =>
      if mapping then some (a, .positionalAfterMapping)
      else if keyword then some (a, .positionalAfterKeyword)
      else misplaced? keyword mapping rest

/-- The first argument of a call that is out of order. -/
def fault? (arguments : Node) : Option (Node × ArgumentFault) :=
  misplaced? false false arguments.parts

end Arguments

end Checkup.Syntax
