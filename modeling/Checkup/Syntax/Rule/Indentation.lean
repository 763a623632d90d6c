import Checkup.Syntax.Issue

/-!
# Consistent indentation

Indentation is measured twice, with tabs to every eighth column and with tabs as one column, and
both measures have to give the same blocks.  `Levels.step?` takes one line into the open levels;
`Indentation.fault?` runs through the lines on which statements begin.
-/

namespace Checkup.Syntax

inductive IndentationFault where
  | inconsistentTabs
  | unknownLevel
deriving BEq, DecidableEq, Inhabited

namespace IndentationFault

def message : IndentationFault → String
  | inconsistentTabs => "inconsistent use of tabs and spaces in indentation"
  | unknownLevel => "unindent does not match any outer indentation level"

end IndentationFault

namespace Indentation

/-- The width of an indent with tabs to every eighth column, and with tabs as one column. -/
structure Width where
  wide : Nat
  narrow : Nat
deriving BEq, DecidableEq, Inhabited

/-- A tab goes on to the next multiple of this many columns. -/
def tabStop : Nat := 8

/-- Measures on from a width.  A form feed starts the line anew. -/
def measureFrom (w : Width) : List Char → Width
  | ' ' :: cs => measureFrom ⟨w.wide + 1, w.narrow + 1⟩ cs
  | '\t' :: cs => measureFrom ⟨(w.wide / tabStop + 1) * tabStop, w.narrow + 1⟩ cs
  | '\x0c' :: cs => measureFrom ⟨0, 0⟩ cs
  | _ => w

def measure (line : List Char) : Width := measureFrom ⟨0, 0⟩ line

/-- The open levels, the innermost first. -/
abbrev Levels := List Width

namespace Levels

/-- The levels of a text before its first line. -/
def start : Levels := [⟨0, 0⟩]

/-- Closes the levels that are wider, except the outermost. -/
def close (wide : Nat) : Levels → Levels
  | l :: l' :: ls => if wide < l.wide then close wide (l' :: ls) else l :: l' :: ls
  | ls => ls

/-- Takes in the width of a line. -/
def step (levels : Levels) (w : Width) : Except IndentationFault Levels :=
  let top := levels.headD ⟨0, 0⟩
  if w.wide = top.wide then
    if w.narrow = top.narrow then .ok levels else .error .inconsistentTabs
  else if top.wide < w.wide then
    if w.narrow ≤ top.narrow then .error .inconsistentTabs else .ok (w :: levels)
  else
    let levels := levels.close w.wide
    let top := levels.headD ⟨0, 0⟩
    if w.wide ≠ top.wide then .error .unknownLevel
    else if w.narrow = top.narrow then .ok levels else .error .inconsistentTabs

end Levels

/-- What has been seen of a text: the open levels, how deep in brackets and in strings the next
token is, and the row on which the last one ended. -/
structure Progress where
  levels : Levels := Levels.start
  brackets : Nat := 0
  strings : Nat := 0
  lastRow : Option Nat := none
deriving Inhabited

/-- Tokens that say nothing about indentation: comments, empty blocks, and tokens without text. -/
def isIgnored (leaf : Node) : Bool :=
  leaf.kind = "comment" || leaf.kind = "block" || leaf.start.byte = leaf.stop.byte

/-- Whether a token is the first of a line on which a statement begins. -/
def Progress.startsLine (p : Progress) (leaf : Node) : Bool :=
  (match p.lastRow with
    | some row => row < leaf.start.row
    | none => true) && p.brackets = 0 && p.strings = 0

/-- Goes past a token. -/
def Progress.pass (p : Progress) (leaf : Node) : Progress :=
  { p with
    brackets :=
      if ["(", "[", "\x7b"].contains leaf.kind then p.brackets + 1
      else if [")", "]", "\x7d"].contains leaf.kind then p.brackets - 1
      else p.brackets
    strings :=
      if leaf.kind = "string_start" then p.strings + 1
      else if leaf.kind = "string_end" then p.strings - 1
      else p.strings
    lastRow := some leaf.stop.row }

/-- The bytes of a line's indent. -/
def indentBytes (line : List Char) : Nat :=
  Text.byteLength (line.takeWhile fun c => c = ' ' || c = '\t' || c = '\x0c')

/-- The first token on a line that does not fit the levels open there. -/
def faultFrom? (rows : Array (List Char)) (p : Progress) :
    List Node → Option (Nat × Nat × IndentationFault)
  | [] => none
  | leaf :: rest =>
    if isIgnored leaf then faultFrom? rows p rest
    else if p.startsLine leaf then
      let line := rows.getD leaf.start.row []
      match p.levels.step (measure line) with
      | .error fault => some (leaf.start.row, indentBytes line, fault)
      | .ok levels => faultFrom? rows ({ p with levels }.pass leaf) rest
    else faultFrom? rows (p.pass leaf) rest

/-- The first line whose indentation does not fit. -/
def issue? (text : List Char) (root : Node) : Option Issue :=
  (faultFrom? (Text.lines text).toArray {} root.leaves).map fun (row, column, fault) =>
    Issue.atRow text row column fault.message

end Indentation

end Checkup.Syntax
