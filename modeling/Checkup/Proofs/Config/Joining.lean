import Checkup.Proofs.Config.Entries
import Checkup.Proofs.Config.Line
import Checkup.Proofs.Steps
import Checkup.Proofs.Text.Lines

/-!
# Properties in a text that is put together

A text is read as its parts are, one after the other: the first malformed line ends the reading, and
otherwise the values of later parts count.

* `IsFirstFault` and `GivesLast` say of the lines of a text what is reported of them and which value
  a key has; `parse_eq_error_iff`, `exists_parse_iff` and `get?_parse_iff` say that reading finds
  just that.
* `parse_append_and_report` is about a text behind whole lines, and about the fault and the values
  of any text.
-/

namespace Checkup.Config

variable {lines : List (List Char)} {line key value : List Char} {p q : Properties}

/-! ## Faults and values of lines -/

/-- A fault is that of the first malformed line, with its number from one. -/
def IsFirstFault (lines : List (List Char)) (f : PropertiesFault) : Prop :=
  ∃ before line after, lines = before ++ line :: after ∧ f.line = before.length + 1 ∧
    IsMalformed line f.fault ∧ ∀ earlier ∈ before, ∀ fault, ¬ IsMalformed earlier fault

/-- A value is what the last line with a key gives it. -/
def GivesLast (lines : List (List Char)) (key value : List Char) : Prop :=
  ∃ before line after, lines = before ++ line :: after ∧ Gives line key value ∧
    ∀ later ∈ after, ∀ v, ¬ Gives later key v

theorem givesLast_cons_iff :
    GivesLast (line :: lines) key value ↔
      (Gives line key value ∧ ∀ later ∈ lines, ∀ v, ¬ Gives later key v) ∨
        GivesLast lines key value :=
  exists_split_cons

theorem not_isMalformed_of_ok {entry : Option Properties.Entry}
    (said : Properties.parseLine line = .ok entry) (fault : LineFault) :
    ¬ IsMalformed line fault :=
  fun malformed => nomatch said.symm.trans (parseLine_of_isMalformed malformed)

/-- A line gives one key one value. -/
theorem gives_iff {k v : List Char} (here : Gives line k v) :
    Gives line key value ↔ key = k ∧ value = v := by
  rw [← parseLine_eq_some_iff, parseLine_of_gives here, Except.ok.injEq, Option.some.injEq,
    Prod.mk.injEq, eq_comm, @eq_comm _ v]

/-- Values have no blanks around them. -/
theorem GivesLast.trim_value (last : GivesLast lines key value) : Text.trim value = value := by
  obtain ⟨-, -, -, -, ⟨-, behind, -, -, -, rfl, -⟩, -⟩ := last
  exact Text.trim_trim behind

theorem exists_givesLast_iff :
    (∃ value, GivesLast lines key value) ↔ ∃ line ∈ lines, ∃ value, Gives line key value := by
  constructor
  · intro found
    obtain ⟨value, before, line, after, rfl, gives, -⟩ := found
    exact ⟨line, List.mem_append_right _ List.mem_cons_self, value, gives⟩
  · intro found
    induction lines with
    | nil => exact found.elim fun _ found => (List.not_mem_nil found.1).elim
    | cons first lines ih =>
        by_cases later : ∃ line ∈ lines, ∃ value, Gives line key value
        · obtain ⟨value, last⟩ := ih later
          exact ⟨value, givesLast_cons_iff.mpr (.inr last)⟩
        · obtain ⟨line, mem, value, gives⟩ := found
          rcases List.mem_cons.mp mem with rfl | among
          · refine ⟨value, givesLast_cons_iff.mpr (.inl ⟨gives, ?_⟩)⟩
            exact fun other among v gives => later ⟨other, among, v, gives⟩
          · exact (later ⟨line, among, value, gives⟩).elim

namespace Properties

/-! ## The first fault -/

/-- Reading lines fails with the first malformed one. -/
theorem parseLines_eq_error_iff {number : Nat} {f : PropertiesFault} :
    parseLines p number lines = .error f ↔
      ∃ before line after, lines = before ++ line :: after ∧ f.line = number + before.length ∧
        IsMalformed line f.fault ∧ ∀ earlier ∈ before, ∀ fault, ¬ IsMalformed earlier fault := by
  induction lines generalizing p number with
  | nil =>
      refine iff_of_false ?_ not_exists_split_nil
      intro failed
      cases failed
  | cons line lines ih =>
      -- a line that can be read is passed, and the others have numbers that are one less here
      have passed {entry : Option Entry} (said : parseLine line = .ok entry) (p : Properties) :
          parseLines p (number + 1) lines = .error f ↔
            ∃ before l after, line :: lines = before ++ l :: after ∧
              f.line = number + before.length ∧ IsMalformed l f.fault ∧
              ∀ earlier ∈ before, ∀ fault, ¬ IsMalformed earlier fault := by
        have fine := not_isMalformed_of_ok said
        rw [ih, exists_split_cons, or_iff_right fun here => fine _ here.2.1]
        simp only [List.length_cons, List.forall_mem_cons, Nat.add_assoc, Nat.add_comm 1, fine,
          not_false_eq_true, implies_true, true_and]
      rw [parseLines]
      rcases said : parseLine line with fault | _ | entry
      · have malformed := parseLine_eq_error_iff.mp said
        rw [exists_split_cons]
        constructor
        · intro same
          cases same
          exact .inl ⟨rfl, malformed, List.forall_mem_nil _⟩
        · intro found
          rcases found with ⟨here, other, -⟩ | ⟨before, l, after, -, -, -, passed⟩
          · have same : fault = f.fault :=
              Except.error.inj (said.symm.trans (parseLine_of_isMalformed other))
            rw [same, ← Nat.add_zero number]
            exact congrArg Except.error (congrArg (PropertiesFault.mk · f.fault) here.symm)
          · exact (passed line List.mem_cons_self fault malformed).elim
      · exact passed said p
      · exact passed said _

theorem parse_eq_error_iff {text : List Char} {f : PropertiesFault} :
    parse text = .error f ↔ IsFirstFault (Text.lines text) f := by
  simp only [parse, parseLines_eq_error_iff, IsFirstFault, Nat.add_comm 1]

/-- A text can be read exactly if no line of it is malformed. -/
theorem exists_parse_iff {text : List Char} :
    (∃ p, parse text = .ok p) ↔ ∀ line ∈ Text.lines text, ∀ fault, ¬ IsMalformed line fault := by
  constructor
  · intro found
    rcases found with ⟨p, read⟩
    obtain ⟨said, lines, -⟩ := parseLines_eq_ok_iff.mp read
    intro line mem
    obtain ⟨entry, here⟩ := lines.exists_entry mem
    exact not_isMalformed_of_ok here
  · intro fine
    rcases read : parse text with f | p
    · obtain ⟨before, line, after, split, -, malformed, -⟩ := parse_eq_error_iff.mp read
      have mem : line ∈ Text.lines text := split ▸ List.mem_append_right _ List.mem_cons_self
      exact (fine line mem _ malformed).elim
    · exact ⟨p, rfl⟩

/-! ## The values of keys -/

/-- A key has the value that the last line with it gives, or else the one that it had before. -/
theorem get?_of_parseLines {number : Nat} (read : parseLines p number lines = .ok q) :
    q.get? key = some value ↔ GivesLast lines key value ∨
      (p.get? key = some value ∧ ∀ line ∈ lines, ∀ v, ¬ Gives line key v) := by
  induction lines generalizing p number with
  | nil =>
      cases read
      have none : ¬ GivesLast [] key value := not_exists_split_nil
      simp [none]
  | cons line lines ih =>
      rw [parseLines] at read
      rw [givesLast_cons_iff]
      rcases said : parseLine line with fault | _ | ⟨k, v⟩
      · rw [said] at read
        cases read
      · rw [said] at read
        have other (v : List Char) : ¬ Gives line key v := by
          intro gives
          cases said.symm.trans (parseLine_of_gives gives)
        simp only [ih read, other, false_and, false_or, List.forall_mem_cons, not_false_eq_true,
          implies_true, true_and]
      · rw [said] at read
        have here := parseLine_eq_some_iff.mp said
        rw [ih read, get?_insert]
        by_cases same : key = k
        · subst same
          have again : ¬ ∀ l ∈ line :: lines, ∀ w, ¬ Gives l key w := fun none =>
            none line List.mem_cons_self v here
          rw [if_pos rfl, Option.some.injEq, gives_iff here, or_comm, @eq_comm _ v]
          simp only [again, and_false, or_false, true_and]
        · have other (w : List Char) : ¬ Gives line key w := fun gives =>
            same ((gives_iff here).mp gives).1
          rw [if_neg same]
          simp only [other, false_and, false_or, List.forall_mem_cons, not_false_eq_true,
            implies_true, true_and]

/-- A key has the value that the last line with it gives. -/
theorem get?_parse_iff {text : List Char} (read : parse text = .ok p) :
    p.get? key = some value ↔ GivesLast (Text.lines text) key value := by
  have nothing : ¬ empty.get? key = some value := nofun
  rw [get?_of_parseLines read, or_iff_left fun before => nothing before.1]

/-! ## Reading one text behind another -/

/-- The properties with others put in their place where these have the key as well. -/
def override (p q : Properties) : Properties := p.addAll q.entries

theorem get?_override (ordered : IsOrdered q.entries) (k : List Char) :
    (p.override q).get? k = (q.get? k).or (p.get? k) := by
  rw [override, get?_addAll, lookup_reverse ordered.nodup]
  rfl

/-- It makes no difference whether entries are added at once or put together before. -/
theorem addAll_eq_override (ordered : IsOrdered p.entries) (es : List Entry) :
    p.addAll es = p.override (empty.addAll es) := by
  have together : IsOrdered (empty.addAll es).entries := addAll_ordered .nil
  have joined : IsOrdered (p.override (empty.addAll es)).entries := addAll_ordered ordered
  apply ext_get? (addAll_ordered ordered) joined
  intro k
  have none : empty.get? k = none := rfl
  rw [get?_override together, get?_addAll, get?_addAll, none, Option.or_none]

theorem parseLines_append (number : Nat) (above below : List (List Char)) :
    parseLines p number (above ++ below) =
      (parseLines p number above).bind fun q => parseLines q (number + above.length) below := by
  induction above generalizing p number with
  | nil => rfl
  | cons line above ih =>
      have shift : number + (line :: above).length = number + 1 + above.length := by
        rw [List.length_cons]
        omega
      rw [List.cons_append, parseLines, parseLines, shift]
      rcases parseLine line with fault | _ | entry
      · rfl
      · exact ih (number + 1)
      · exact ih (number + 1)

end Properties

/-- The same fault some lines further down. -/
def PropertiesFault.below (f : PropertiesFault) (count : Nat) : PropertiesFault :=
  { f with line := f.line + count }

namespace Properties

/-- Lines below others are read as on their own, but for their numbers and the values above. -/
theorem parseLines_below (ordered : IsOrdered p.entries) (count : Nat) :
    parseLines p (1 + count) lines =
      ((parseLines empty 1 lines).mapError (·.below count)).map p.override := by
  rcases read : parseLines empty 1 lines with f | q
  · obtain ⟨before, line, after, split, number, malformed⟩ := parseLines_eq_error_iff.mp read
    refine parseLines_eq_error_iff.mpr ⟨before, line, after, split, ?_, malformed⟩
    simp only [PropertiesFault.below, number]
    omega
  · obtain ⟨said, each, rfl⟩ := parseLines_eq_ok_iff.mp read
    exact parseLines_eq_ok_iff.mpr ⟨said, each, (addAll_eq_override ordered _).symm⟩

/-- Behind whole lines, a text is read as on its own, but for the numbers of its lines and the
values above. -/
theorem parse_append {a : List Char} (ended : a = [] ∨ a.getLast? = some '\n') (b : List Char) :
    parse (a ++ b) = (parse a).bind fun p =>
      ((parse b).mapError (·.below (a.count '\n'))).map p.override := by
  have alone : parse a = parseLines empty 1 (Text.lines a).dropLast := by
    rw [parse, Text.lines_of_ended ended, parseLines_append, List.dropLast_concat]
    cases parseLines empty 1 (Text.lines a).dropLast <;> rfl
  rw [parse, Text.lines_append_of_ended ended, parseLines_append, ← alone,
    Text.length_dropLast_lines]
  rcases read : parse a with f | p
  · rfl
  · obtain ⟨said, -, rfl⟩ := parseLines_eq_ok_iff.mp read
    exact parseLines_below (addAll_ordered .nil) (a.count '\n')

/-- Behind whole lines, a text is read as on its own: a fault above comes first, a fault below has
its number raised by the lines above, and the values below count.  Of any text, the first malformed
line is reported with its number; if there is none, each key has the value that the last line with
it gives. -/
theorem parse_append_and_report :
    (∀ a b, a = [] ∨ a.getLast? = some '\n' →
      (∀ f, parse a = .error f → parse (a ++ b) = .error f) ∧
      (∀ p f, parse a = .ok p → parse b = .error f →
        parse (a ++ b) = .error { f with line := f.line + a.count '\n' }) ∧
      ∀ p q, parse a = .ok p → parse b = .ok q →
        parse (a ++ b) = .ok (p.override q) ∧
          ∀ key, (p.override q).get? key = (q.get? key).or (p.get? key)) ∧
    ∀ text,
      (∀ f, parse text = .error f ↔ IsFirstFault (Text.lines text) f) ∧
      ((∃ p, parse text = .ok p) ↔ ∀ line ∈ Text.lines text, ∀ fault, ¬ IsMalformed line fault) ∧
      ∀ p, parse text = .ok p → ∀ key value,
        p.get? key = some value ↔ GivesLast (Text.lines text) key value := by
  refine ⟨fun a b ended => ⟨?_, ?_, ?_⟩, fun text => ⟨fun f => parse_eq_error_iff,
    exists_parse_iff, fun p read key value => get?_parse_iff read⟩⟩
  · intro f failed
    rw [parse_append ended, failed]
    rfl
  · intro p f above failed
    rw [parse_append ended, above, failed]
    rfl
  · intro p q above below
    obtain ⟨said, -, rfl⟩ := parseLines_eq_ok_iff.mp below
    refine ⟨?_, get?_override (addAll_ordered .nil)⟩
    rw [parse_append ended, above, below]
    rfl

/-- Two whole lines, with either line end. -/
def wholeLines : List Char := "A=1\r\n# A=0\n".toList

/-- A blank line, another value for the same key, and a line without a value. -/
def valueAndWord : List Char := "\nA = 2\nB".toList

theorem wholeLines_above :
    (wholeLines = [] ∨ wholeLines.getLast? = some '\n') ∧
      parse (wholeLines ++ valueAndWord) =
        .error { line := 5, fault := .noSeparator "B".toList } ∧
      (parse (wholeLines ++ "A = 2".toList)).map (·.get? "A".toList) = .ok (some "2".toList) := by
  have ended : wholeLines = [] ∨ wholeLines.getLast? = some '\n' := by decide
  have above : parse wholeLines = .ok { entries := [("A".toList, "1".toList)] } := by decide
  have word : parse valueAndWord = .error { line := 3, fault := .noSeparator "B".toList } := by
    decide
  have value : parse "A = 2".toList = .ok { entries := [("A".toList, "2".toList)] } := by decide
  refine ⟨ended, (parse_append_and_report.1 _ _ ended).2.1 _ _ above word, ?_⟩
  obtain ⟨joined, values⟩ := (parse_append_and_report.1 _ _ ended).2.2 _ _ above value
  rw [joined, Except.map, values]
  rfl

end Properties

end Checkup.Config
