import Checkup.Proofs.Config.Entries
import Checkup.Proofs.Config.Line
import Checkup.Proofs.Text.Lines

/-!
# Layouts of properties

The same properties can be written in many ways: with blanks around keys and values, comments and
blank lines between them, in any order, and with either line end.

* `Row.parseLine_text`: a line says its entry in whichever way it is written.
* `isKey_isValue_of_gives`: what a line gives is a key and a value that can be written again.
* `parse_layouts_and_back`: all layouts of properties are read as these, and what is read from any
  text is read again from its plain layout.
-/

namespace Checkup.Config

/-! ## What can be written -/

/-- What can be written as a key. -/
structure IsKey (key : List Char) : Prop where
  nonempty : key ≠ []
  trimmed : Text.trim key = key
  no_comment : key.head? ≠ some '#'
  no_separator : '=' ∉ key
  no_feed : '\n' ∉ key

instance (key : List Char) : Decidable (IsKey key) :=
  decidable_of_iff
    (key ≠ [] ∧ Text.trim key = key ∧ key.head? ≠ some '#' ∧ '=' ∉ key ∧ '\n' ∉ key)
    ⟨fun ⟨nonempty, trimmed, no_comment, no_separator, no_feed⟩ =>
        ⟨nonempty, trimmed, no_comment, no_separator, no_feed⟩,
      fun ⟨nonempty, trimmed, no_comment, no_separator, no_feed⟩ =>
        ⟨nonempty, trimmed, no_comment, no_separator, no_feed⟩⟩

/-- What can be written as a value. -/
structure IsValue (value : List Char) : Prop where
  trimmed : Text.trim value = value
  no_feed : '\n' ∉ value

instance (value : List Char) : Decidable (IsValue value) :=
  decidable_of_iff (Text.trim value = value ∧ '\n' ∉ value)
    ⟨fun ⟨trimmed, no_feed⟩ => ⟨trimmed, no_feed⟩, fun ⟨trimmed, no_feed⟩ => ⟨trimmed, no_feed⟩⟩

/-- Properties in the order of their keys, with keys and values that can be written. -/
structure Properties.IsWritable (p : Properties) : Prop where
  ordered : IsOrdered p.entries
  keys : ∀ e ∈ p.entries, IsKey e.1
  values : ∀ e ∈ p.entries, IsValue e.2

instance (p : Properties) : Decidable p.IsWritable :=
  decidable_of_iff
    (Properties.IsOrdered p.entries ∧ (∀ e ∈ p.entries, IsKey e.1) ∧ ∀ e ∈ p.entries, IsValue e.2)
    ⟨fun ⟨ordered, keys, values⟩ => ⟨ordered, keys, values⟩,
      fun ⟨ordered, keys, values⟩ => ⟨ordered, keys, values⟩⟩

/-- Blanks within a line. -/
structure IsGap (cs : List Char) : Prop where
  blanks : Text.IsBlanks cs
  no_feed : '\n' ∉ cs

instance (cs : List Char) : Decidable (IsGap cs) :=
  decidable_of_iff (Text.IsBlanks cs ∧ '\n' ∉ cs)
    ⟨fun ⟨blanks, no_feed⟩ => ⟨blanks, no_feed⟩, fun ⟨blanks, no_feed⟩ => ⟨blanks, no_feed⟩⟩

theorem isGap_nil : IsGap [] := ⟨fun _ mem => (nomatch mem), List.not_mem_nil⟩

/-- A line as it is written, without its end. -/
inductive Row where
  | blank (gap : List Char)
  | comment (indent text : List Char)
  | entry (indent key before behind value trailing : List Char)

namespace Row

def text : Row → List Char
  | blank gap => gap
  | comment indent text => indent ++ '#' :: text
  | entry indent key before behind value trailing =>
    indent ++ key ++ before ++ '=' :: (behind ++ value ++ trailing)

/-- What a line is meant to say. -/
def entry? : Row → Option Properties.Entry
  | entry _ key _ _ value _ => some (key, value)
  | _ => none

/-- All that is free in a line is blank, apart from the text of a comment, and nothing ends the
line. -/
def IsLine : Row → Prop
  | blank gap => IsGap gap
  | comment indent text => IsGap indent ∧ '\n' ∉ text
  | entry indent _ before behind _ trailing =>
    IsGap indent ∧ IsGap before ∧ IsGap behind ∧ IsGap trailing

instance (row : Row) : Decidable row.IsLine :=
  match row with
  | blank _ => inferInstanceAs (Decidable (IsGap _))
  | comment .. => inferInstanceAs (Decidable (_ ∧ _))
  | entry .. => inferInstanceAs (Decidable (_ ∧ _ ∧ _ ∧ _))

/-- The line can be read as it is meant. -/
structure IsReadable (row : Row) : Prop where
  line : row.IsLine
  writable : ∀ e ∈ row.entry?, IsKey e.1 ∧ IsValue e.2

end Row

inductive LineEnd where
  | feed
  | returnFeed

namespace LineEnd

/-- What a line end leaves at the end of the line: the characters before the line feed. -/
def left : LineEnd → List Char
  | feed => []
  | returnFeed => ['\r']

def text (e : LineEnd) : List Char := e.left ++ ['\n']

theorem isGap_left (e : LineEnd) : IsGap e.left := by
  cases e <;> exact ⟨by decide, by decide⟩

end LineEnd

/-- Lines with their ends, and what stands behind the last line end.  A text that ends with a line
end has an empty line there. -/
structure Layout where
  rows : List (Row × LineEnd)
  last : Row

namespace Layout

def text (l : Layout) : List Char :=
  (l.rows.flatMap fun (row, lineEnd) => row.text ++ lineEnd.text) ++ l.last.text

/-- What the lines are meant to say. -/
def said (l : Layout) : List (Option Properties.Entry) :=
  (l.rows.map fun (row, _) => row.entry?) ++ [l.last.entry?]

def entries (l : Layout) : List Properties.Entry := l.said.reduceOption

/-- All lines are lines. -/
structure IsLines (l : Layout) : Prop where
  rows : ∀ row ∈ l.rows, row.1.IsLine
  last : l.last.IsLine

instance (l : Layout) : Decidable l.IsLines :=
  decidable_of_iff ((∀ row ∈ l.rows, row.1.IsLine) ∧ l.last.IsLine)
    ⟨fun ⟨rows, last⟩ => ⟨rows, last⟩, fun ⟨rows, last⟩ => ⟨rows, last⟩⟩

end Layout

/-! ## Reading a line -/

namespace Row

/-- The blanks around a key and a value are free. -/
theorem gives_text {indent key gap behind value trailing : List Char} (isIndent : IsGap indent)
    (isKey : IsKey key) (isGap : IsGap gap) (isBehind : IsGap behind) (isValue : IsValue value)
    (blanks : Text.IsBlanks trailing) :
    Gives (indent ++ key ++ gap ++ '=' :: (behind ++ value ++ trailing)) key value := by
  refine ⟨_, _, rfl, ?_, ?_, ?_, isKey.nonempty, isKey.no_comment⟩
  · simp only [List.mem_append, not_or]
    exact ⟨⟨separator_not_blanks isIndent.blanks, isKey.no_separator⟩,
      separator_not_blanks isGap.blanks⟩
  · rw [Text.trim_append_blanks isGap.blanks, Text.trim_blanks_append isIndent.blanks,
      isKey.trimmed]
  · rw [Text.trim_append_blanks blanks, Text.trim_blanks_append isBehind.blanks, isValue.trimmed]

/-- A line says what it is meant to say, with any blanks at its end. -/
theorem parseLine_text {row : Row} (readable : row.IsReadable) {trailing : List Char}
    (blanks : Text.IsBlanks trailing) :
    Properties.parseLine (row.text ++ trailing) = .ok row.entry? := by
  obtain ⟨line, writable⟩ := readable
  cases row with
  | blank gap =>
      refine parseLine_eq_none_iff.mpr (.inl ?_)
      rw [Text.trim_append_blanks blanks]
      exact Text.trim_of_blanks line.blanks
  | comment indent text =>
      refine parseLine_eq_none_iff.mpr (.inr ?_)
      rw [Text.trim_append_blanks blanks, Row.text, Text.trim_blanks_append line.1.blanks,
        Text.trim_cons (by decide)]
      rfl
  | entry indent key before behind value gap =>
      obtain ⟨isIndent, isBefore, isBehind, isGap⟩ := line
      obtain ⟨isKey, isValue⟩ := writable (key, value) rfl
      have around : Text.IsBlanks (gap ++ trailing) := fun c mem =>
        (List.mem_append.mp mem).elim (isGap.blanks c) (blanks c)
      have gives := gives_text isIndent isKey isBefore isBehind isValue around
      rw [Row.text, List.append_assoc, List.cons_append, List.append_assoc _ gap]
      exact parseLine_of_gives gives

theorem feed_not_mem_text {row : Row} (readable : row.IsReadable) : '\n' ∉ row.text := by
  obtain ⟨line, writable⟩ := readable
  cases row with
  | blank gap => exact IsGap.no_feed line
  | comment indent text =>
      simp only [Row.text, List.mem_append, List.mem_cons, not_or]
      exact ⟨line.1.no_feed, by decide, line.2⟩
  | entry indent key before behind value trailing =>
      obtain ⟨isIndent, isBefore, isBehind, isTrailing⟩ := line
      obtain ⟨isKey, isValue⟩ := writable (key, value) rfl
      simp only [text, List.mem_append, List.mem_cons, not_or]
      exact ⟨⟨⟨isIndent.no_feed, isKey.no_feed⟩, isBefore.no_feed⟩, by decide,
        ⟨isBehind.no_feed, isValue.no_feed⟩, isTrailing.no_feed⟩

end Row

/-! ## What a line can say -/

/-- What a line gives can be written again. -/
theorem isKey_isValue_of_gives {line key value : List Char} (no_feed : '\n' ∉ line)
    (gives : Gives line key value) : IsKey key ∧ IsValue value := by
  rcases gives with ⟨before, behind, rfl, apart, rfl, rfl, some_key, no_comment⟩
  rw [List.mem_append, List.mem_cons, not_or, not_or] at no_feed
  exact ⟨⟨some_key, Text.trim_trim before, no_comment, fun mem => apart (Text.mem_of_mem_trim mem),
      fun mem => no_feed.1 (Text.mem_of_mem_trim mem)⟩,
    ⟨Text.trim_trim behind, fun mem => no_feed.2.2 (Text.mem_of_mem_trim mem)⟩⟩

namespace Properties

/-- What is read from a text can be written. -/
theorem isWritable_of_parse {text : List Char} {p : Properties} (read : parse text = .ok p) :
    p.IsWritable := by
  obtain ⟨said, lines, rfl⟩ := parseLines_eq_ok_iff.mp read
  have each : ∀ e ∈ (empty.addAll said.reduceOption).entries, IsKey e.1 ∧ IsValue e.2 := by
    intro e mem
    rcases mem_addAll mem with none | mem
    · cases none
    · rcases lines.exists_line mem with ⟨line, among, found⟩
      exact isKey_isValue_of_gives (Text.feed_not_mem among) (parseLine_eq_some_iff.mp found)
  exact ⟨addAll_ordered .nil, fun e mem => (each e mem).1, fun e mem => (each e mem).2⟩

end Properties

/-! ## Reading a layout -/

namespace Layout

/-- The lines of a layout say what they are meant to say. -/
theorem say_lines {rows : List (Row × LineEnd)} {last : Row}
    (readable : ∀ row ∈ rows, row.1.IsReadable) (lastReadable : last.IsReadable) :
    Properties.Say (Text.lines (text ⟨rows, last⟩)) (said ⟨rows, last⟩) := by
  induction rows with
  | nil =>
      have one : Text.lines (text ⟨[], last⟩) = [last.text ++ []] := by
        rw [List.append_nil]
        exact Text.lines_of_not_mem (Row.feed_not_mem_text lastReadable)
      rw [one]
      exact .cons (Row.parseLine_text lastReadable isGap_nil.blanks) .nil
  | cons first rows ih =>
      obtain ⟨row, lineEnd⟩ := first
      obtain ⟨here, later⟩ := List.forall_mem_cons.mp readable
      have no_feed : '\n' ∉ row.text ++ lineEnd.left := fun mem =>
        (List.mem_append.mp mem).elim (Row.feed_not_mem_text here) lineEnd.isGap_left.no_feed
      have split : text ⟨(row, lineEnd) :: rows, last⟩ =
          (row.text ++ lineEnd.left) ++ '\n' :: text ⟨rows, last⟩ := by
        simp [text, LineEnd.text]
      rw [split, Text.lines_append_feed no_feed]
      exact .cons (Row.parseLine_text here lineEnd.isGap_left.blanks) (ih later)

/-- An entry that a line is meant to say is one of the entries. -/
theorem mem_entries {l : Layout} {e : Properties.Entry} (mem : some e ∈ l.said) :
    e ∈ l.entries :=
  List.reduceOption_mem_iff.mpr mem

end Layout

namespace Properties

/-- Properties are read from any layout of their entries. -/
theorem parse_layout {p : Properties} (writable : p.IsWritable) {l : Layout} (lines : l.IsLines)
    (same : l.entries.Perm p.entries) : parse l.text = .ok p := by
  have each {e : Entry} (mem : some e ∈ l.said) : IsKey e.1 ∧ IsValue e.2 := by
    have kept := same.mem_iff.mp (Layout.mem_entries mem)
    exact ⟨writable.keys e kept, writable.values e kept⟩
  have readable : ∀ row ∈ l.rows, row.1.IsReadable := fun row mem =>
    ⟨lines.rows row mem, fun e found => each
      (List.mem_append_left _ (List.mem_map.mpr ⟨row, mem, found⟩))⟩
  have lastReadable : l.last.IsReadable :=
    ⟨lines.last, fun e found => each
      (List.mem_append_right _ (List.mem_singleton.mpr (Eq.symm found)))⟩
  exact parseLines_eq_ok_iff.mpr ⟨l.said, Layout.say_lines readable lastReadable,
    (empty_addAll writable.ordered same).symm⟩

/-! ## Writing properties -/

/-- Properties as text, a line for each entry. -/
def render (p : Properties) : List Char :=
  p.entries.flatMap fun (key, value) => key ++ '=' :: value ++ ['\n']

/-- The layout with a line for each entry and nothing else. -/
def plainLayout (p : Properties) : Layout where
  rows := p.entries.map fun (key, value) => (.entry [] key [] [] value [], .feed)
  last := .blank []

theorem plainLayout_isLines (p : Properties) : p.plainLayout.IsLines := by
  refine ⟨?_, isGap_nil⟩
  intro row mem
  rcases List.mem_map.mp mem with ⟨⟨key, value⟩, -, rfl⟩
  exact ⟨isGap_nil, isGap_nil, isGap_nil, isGap_nil⟩

theorem plainLayout_text (p : Properties) : p.plainLayout.text = p.render := by
  simp [plainLayout, Layout.text, render, List.flatMap_map, Row.text, LineEnd.text, LineEnd.left]

theorem plainLayout_entries (p : Properties) : p.plainLayout.entries = p.entries := by
  simp [plainLayout, Layout.entries, Layout.said, Row.entry?, List.reduceOption]

theorem parse_render {p : Properties} (writable : p.IsWritable) : parse p.render = .ok p := by
  have same : p.plainLayout.entries.Perm p.entries := by
    rw [plainLayout_entries]
  rw [← plainLayout_text]
  exact parse_layout writable p.plainLayout_isLines same

/-- Properties are read from every layout of their entries; and what is read from any text can be
written, and is read again from what is written. -/
theorem parse_layouts_and_back :
    (∀ p : Properties, p.IsWritable → ∀ l : Layout, l.IsLines → l.entries.Perm p.entries →
      parse l.text = .ok p) ∧
    ∀ text p, parse text = .ok p → p.IsWritable ∧ parse p.render = .ok p := by
  refine ⟨fun p writable l lines same => parse_layout writable lines same, ?_⟩
  intro text p read
  have writable := isWritable_of_parse read
  exact ⟨writable, parse_render writable⟩

/-- Two properties, the first of them without a value. -/
def emptyAndToken : Properties where
  entries := [("EMPTY".toList, []), ("THE TOKEN".toList, "#abc=def==".toList)]

/-- A layout with other blanks than spaces, with both line ends, and with the keys the other way
round. -/
def untidyLayout : Layout where
  rows := [
    (.comment "\t".toList " keys = values".toList, .returnFeed),
    (.entry "\u00a0".toList "THE TOKEN".toList " ".toList "\u2003".toList "#abc=def==".toList [],
      .returnFeed),
    (.blank "  ".toList, .feed)]
  last := .entry [] "EMPTY".toList "\t".toList [] [] " ".toList

theorem untidyLayout_read :
    emptyAndToken.IsWritable ∧ untidyLayout.IsLines ∧
      untidyLayout.entries.Perm emptyAndToken.entries ∧
      parse untidyLayout.text = .ok emptyAndToken ∧
      parse emptyAndToken.render = .ok emptyAndToken := by
  have writable : emptyAndToken.IsWritable := by decide
  have lines : untidyLayout.IsLines := by decide
  have same : untidyLayout.entries.Perm emptyAndToken.entries := by decide
  have read := parse_layouts_and_back.1 emptyAndToken writable untidyLayout lines same
  exact ⟨writable, lines, same, read, (parse_layouts_and_back.2 _ _ read).2⟩

end Properties

end Checkup.Config
