/-!
# The layout scanner

Line ends, indentation and strings depend on what has been read before, so they are no regular
tokens.  `Layout.scan?` looks for them at a place in the text, given which of them are expected
there and the state that the last such token left: the open indents and the open strings.
-/

namespace Checkup.Program.Layout

/-- How an open string was begun. -/
structure Delimiter where
  quote : Char
  triple : Bool := false
  raw : Bool := false
  bytes : Bool := false
  format : Bool := false
deriving BEq, Inhabited

structure State where
  /-- The widths of the open indents, the innermost first; the outermost, `0`, is not written. -/
  indents : List Nat := []
  /-- The open strings, the innermost first. -/
  delimiters : List Delimiter := []
  /-- Whether the string begun last is a format string that has not ended. -/
  insideFormat : Bool := false
deriving BEq, Inhabited

/-- The widths of indents are kept modulo this number. -/
def widthModulus : Nat := 256

/-- The most open strings that are kept, the outermost first. -/
def maxDelimiters : Nat := 255

/-- The most indents and open strings that are kept together. -/
def maxKept : Nat := 1022

/-- The state as it is kept from one token to the next. -/
def State.kept (st : State) : State :=
  let delimiters := st.delimiters.drop (st.delimiters.length - maxDelimiters)
  let room := maxKept - delimiters.length
  { st with
    delimiters
    indents := (st.indents.drop (st.indents.length - room)).map (· % widthModulus) }

inductive Token where
  | newline
  | indent
  | dedent
  | stringStart
  | stringContent
  | escapedBrace
  | stringEnd
  | comment
  | closeBracket
  | closeParen
  | closeBrace
  | except
deriving BEq, Inhabited

namespace Token

/-- The place of a token in the grammar's list of scanned tokens. -/
def index : Token → Nat
  | newline => 0
  | indent => 1
  | dedent => 2
  | stringStart => 3
  | stringContent => 4
  | escapedBrace => 5
  | stringEnd => 6
  | comment => 7
  | closeBracket => 8
  | closeParen => 9
  | closeBrace => 10
  | except => 11

end Token

/-- The tokens that are expected, as a mask over `Token.index`. -/
structure Valid where
  mask : Nat

def Valid.has (v : Valid) (t : Token) : Bool := v.mask.testBit t.index

/-- Everything is expected at once: the parser is looking for a way out of an error. -/
def Valid.recovering (v : Valid) : Bool := v.has .stringContent && v.has .indent

def Valid.withinBrackets (v : Valid) : Bool :=
  v.has .closeBrace || v.has .closeParen || v.has .closeBracket

/-- A token that was found: from `start` to `stop`, and the state behind it. -/
structure Scanned where
  token : Token
  start : Nat
  stop : Nat
  state : State
deriving Inhabited

/-- How the search inside a string ended: with an answer, or at a place from which the search for
line ends and indentation goes on. -/
private inductive Outcome where
  | done (result : Option Scanned)
  | goOn (place : Nat)

/-- The character at a place; the null character stands for the end of the text. -/
private def at' (text : Array Char) (place : Nat) : Char := text.getD place '\x00'

/-- The place behind a run of escaped characters in a raw string, at the backslash. -/
private def skipRaw (text : Array Char) (quote : Char) (place : Nat) : Nat :=
  let place := place + 1
  let place := if at' text place = quote || at' text place = '\\' then place + 1 else place
  if at' text place = '\r' then
    if at' text (place + 1) = '\n' then place + 2 else place + 1
  else if at' text place = '\n' then place + 1
  else place

/-- Reads the content of a string, or its end if there is no content. -/
private def scanString (text : Array Char) (st : State) (d : Delimiter) (start : Nat) :
    Nat → Nat → Bool → Outcome
  | 0, place, _ => .goOn place
  | fuel + 1, place, hasContent =>
    let c := at' text place
    let content (stop : Nat) : Option Scanned := some ⟨.stringContent, start, stop, st⟩
    let closed : State := { st with delimiters := st.delimiters.drop 1, insideFormat := false }
    if c = '\x00' then .goOn place
    else if (c = '\x7b' || c = '\x7d') && d.format then
      .done (if hasContent then content place else none)
    else if c = '\\' then
      if d.raw then
        scanString text st d start fuel (min (skipRaw text d.quote place) text.size) hasContent
      else
        let next := at' text (place + 1)
        if d.bytes && (next = 'N' || next = 'u' || next = 'U') then
          scanString text st d start fuel (min (place + 3) text.size) true
        else .done (if hasContent then content place else none)
    else if c = d.quote then
      if d.triple then
        if at' text (place + 1) = d.quote && at' text (place + 2) = d.quote then
          if hasContent then .done (content place)
          else .done (some ⟨.stringEnd, start, place + 3, closed⟩)
        else if at' text (place + 1) = d.quote then .done (content (place + 2))
        else .done (content (place + 1))
      else if hasContent then .done (content place)
      else .done (some ⟨.stringEnd, start, place + 1, closed⟩)
    else if c = '\n' && hasContent && !d.triple then .done none
    else scanString text st d start fuel (place + 1) true

/-- What was skipped at the start of a line, or between tokens. -/
private structure Skipped where
  place : Nat
  start : Nat
  endOfLine : Bool := false
  indent : Nat := 0
  /-- The indent of the first comment line. -/
  firstComment : Option Nat := none

/-- The place of the next line end or null character. -/
private def lineEnd (text : Array Char) : Nat → Nat → Nat
  | 0, place => place
  | fuel + 1, place =>
    let c := at' text place
    if c = '\x00' || c = '\n' then place else lineEnd text fuel (place + 1)

/-- Skips blanks, line ends, joined lines and comment lines; `none` if what follows rules out any
layout token. -/
private def skipBlank (text : Array Char) (comments : Bool) : Nat → Skipped → Option Skipped
  | 0, s => some s
  | fuel + 1, s =>
    let on (s : Skipped) (place : Nat) : Option Skipped :=
      skipBlank text comments fuel { s with place, start := place }
    match text[s.place]? with
    | none => some { s with indent := 0, endOfLine := true }
    | some c =>
      if c = '\n' then on { s with endOfLine := true, indent := 0 } (s.place + 1)
      else if c = ' ' then on { s with indent := s.indent + 1 } (s.place + 1)
      else if c = '\r' || c = '\x0c' then on { s with indent := 0 } (s.place + 1)
      else if c = '\t' then on { s with indent := s.indent + 8 } (s.place + 1)
      else if c = '#' && comments then
        if s.endOfLine then
          let stop := lineEnd text (text.size + 1) s.place
          on { s with firstComment := s.firstComment.or (some s.indent), indent := 0 }
            (min (stop + 1) text.size)
        else none
      else if c = '\\' then
        let next := if at' text (s.place + 1) = '\r' then s.place + 2 else s.place + 1
        if next ≥ text.size then on s text.size
        else if at' text next = '\n' then on s (next + 1)
        else none
      else some s

/-- Reads the letters before a quote, and the quote. -/
private def scanStringStart (text : Array Char) (st : State) (start : Nat) :
    Nat → Nat → Delimiter → Option Scanned
  | 0, _, _ => none
  | fuel + 1, place, d =>
    let c := at' text place
    let next := scanStringStart text st start fuel (place + 1)
    let found (d : Delimiter) (stop : Nat) : Option Scanned :=
      some ⟨.stringStart, start, stop,
        { st with delimiters := d :: st.delimiters, insideFormat := d.format }⟩
    if c = 'f' || c = 'F' then next { d with format := true }
    else if c = 'r' || c = 'R' then next { d with raw := true }
    else if c = 'b' || c = 'B' then next { d with bytes := true }
    else if c = 'u' || c = 'U' then next d
    else if c = '`' then found { d with quote := c } (place + 1)
    else if c = '\'' || c = '"' then
      if at' text (place + 1) = c && at' text (place + 2) = c then
        found { d with quote := c, triple := true } (place + 3)
      else found { d with quote := c } (place + 1)
    else none

/-- Looks for line ends, indentation and the start of a string from `place` on, in a token that
began at `start`. -/
private def scanLayout (text : Array Char) (valid : Valid) (st : State) (start place : Nat) :
    Option Scanned :=
  let comments := valid.has .indent || valid.has .dedent || valid.has .newline || valid.has .except
  match skipBlank text comments (text.size + 2) { place, start } with
  | none => none
  | some s =>
    -- Tokens without text end where the skipped part begins.
    let empty (token : Token) (st : State) : Option Scanned :=
      some ⟨token, min s.start place, place, st⟩
    let current := st.indents.headD 0
    let atQuote := at' text s.place = '"' || at' text s.place = '\'' || at' text s.place = '`'
    let dedentAllowed := valid.has .dedent ||
      (!valid.has .newline && !(valid.has .stringStart && atQuote) && !valid.withinBrackets)
    if s.endOfLine && valid.has .indent && current < s.indent then
      empty .indent { st with indents := s.indent :: st.indents }
    else if s.endOfLine && dedentAllowed && s.indent < current && !st.insideFormat &&
        (match s.firstComment with
        | some n => n < current
        | none => true) then
      empty .dedent { st with indents := st.indents.drop 1 }
    else if s.endOfLine && valid.has .newline && !valid.recovering then empty .newline st
    else if s.firstComment.isNone && valid.has .stringStart then
      scanStringStart text st s.start (text.size - s.place + 1) s.place { quote := ' ' }
    else none

/-- The layout token at a place, if one of the expected ones is there, with the state as found. -/
private def scanState? (text : Array Char) (valid : Valid) (st : State) (place : Nat) : Option Scanned :=
  match st.delimiters with
  | [] => scanLayout text valid st place place
  | d :: _ =>
    let c := at' text place
    let brace := c = '\x7b' || c = '\x7d'
    if valid.has .escapedBrace && brace && !valid.recovering && d.format then
      if at' text (place + 1) = c then some ⟨.escapedBrace, place, place + 2, st⟩ else none
    else if valid.has .stringContent && !valid.recovering then
      match scanString text st d place (text.size - place + 1) place false with
      | .done result => result
      | .goOn stop => scanLayout text valid st place stop
    else scanLayout text valid st place place

/-- The layout token at a place, if one of the expected ones is there. -/
def scan? (text : Array Char) (valid : Valid) (st : State) (place : Nat) : Option Scanned :=
  (scanState? text valid st place).map fun r => { r with state := r.state.kept }

end Checkup.Program.Layout
