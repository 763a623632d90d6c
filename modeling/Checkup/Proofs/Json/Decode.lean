import Checkup.Proofs.Json.Skip
import Checkup.Proofs.Lookup

/-!
# Reading values of a kind

What the readers of a kind of values make of a text depends on the value it says alone: not on its
blanks and escapes, nor on members that do not matter.

* `Decodes`: a reader gives what a function of the value gives, or else a fault.  `DecodesFit` says
  it of some values only: for a record it is enough that its field is not there twice
  (`Value.HasFieldOnce`), whatever stands among the members that do not matter.
* `decodesFit_text?`, `decodesFit_list` and `decodesFit_record` say it of the readers, and
  `readWhole_fit` of a whole text; `decodes_text?`, `decodes_list`, `decodes_record` and
  `readWhole_text` are the cases where no name is there twice.
-/

namespace Checkup.Json

/-- A reader makes of each text what a function makes of its value, if the text is shorter than a
bound and there are no two members of one name. -/
def Decodes {α : Type} (bound : Nat) (read : List Char → Reading (α × List Char))
    (d : Value → Option α) : Prop :=
  ∀ v t, IsText (.value v) t → v.HasDistinctNames → t.length < bound → ∀ gap rest, IsGap gap →
    (read (gap ++ (t ++ rest))).toOption = (d v).map (·, rest)

/-- A reader makes of each text of a fit value what a function makes of that value, if the text is
shorter than a bound. -/
def DecodesFit {α : Type} (fit : Value → Prop) (bound : Nat)
    (read : List Char → Reading (α × List Char)) (d : Value → Option α) : Prop :=
  ∀ v t, IsText (.value v) t → fit v → t.length < bound → ∀ gap rest, IsGap gap →
    (read (gap ++ (t ++ rest))).toOption = (d v).map (·, rest)

/-- The elements of a list are fit. -/
def Value.HasElements (fit : Value → Prop) : Value → Prop
  | list vs => ∀ v ∈ vs, fit v
  | _ => True

/-- An object has at most one member of a name, whose value is fit, and so are all elements of a
list. -/
def Value.HasFieldOnce (field : List Char) (fit : Value → Prop) : Value → Prop
  | object ms => (ms.map Prod.fst).count field ≤ 1 ∧ ∀ v, (field, v) ∈ ms → fit v
  | list vs => ∀ v ∈ vs, fit v
  | _ => True

variable {α : Type} {v : Value} {c : Char} {t gap cs rest : List Char} {bound : Nat}
  {fit : Value → Prop}

theorem DecodesFit.decodes {read : List Char → Reading (α × List Char)} {d : Value → Option α}
    (decodes : DecodesFit fit bound read d) (enough : ∀ {v}, v.HasDistinctNames → fit v) :
    Decodes bound read d :=
  fun v t text distinct => decodes v t text (enough distinct)

theorem Value.HasDistinctNames.hasElements (distinct : v.HasDistinctNames) :
    v.HasElements HasDistinctNames := by
  cases v with
  | list vs => exact distinct.elements
  | _ => trivial

theorem Value.HasDistinctNames.hasFieldOnce (distinct : v.HasDistinctNames) (field : List Char) :
    v.HasFieldOnce field HasDistinctNames := by
  cases v with
  | object ms =>
      have names : (ms.map Prod.fst).Nodup := distinct.names
      exact ⟨List.nodup_iff_count.mp names field, fun w mem => distinct.members _ mem⟩
  | list vs => exact distinct.elements
  | _ => trivial

theorem toOption_bind {ε β : Type} (x : Except ε α) (f : α → Except ε β) :
    (x >>= f).toOption = x.toOption.bind fun a => (f a).toOption := by
  cases x <;> rfl

/-! ## Strings -/

/-- The string that a value is, or nothing for null. -/
def Value.text? : Value → Option (Option (List Char))
  | null => some none
  | string s => some (some s)
  | _ => none

theorem readText?_other (blanks : IsGap gap) (solid : isBlank c = false) (notNull : c ≠ 'n')
    (notQuote : c ≠ '"') : (readText? (gap ++ c :: cs)).toOption = none := by
  rw [readText?, skipBlanks_gap_cons blanks solid]
  split
  case h_1 none => cases none
  case h_2 same => exact absurd (List.cons.inj same).1 notNull
  case h_3 same => exact absurd (List.cons.inj same).1 notQuote
  case h_4 => rfl

/-- A number begins as no value of another kind does. -/
theorem number_begins_other (number : IsNumber t) : ∃ c t', t = c :: t' ∧ isBlank c = false ∧
    ∀ {d}, '-' ≠ d → isDigit d = false → c ≠ d := by
  obtain ⟨c, t', rfl, begins⟩ := number_begins number
  refine ⟨c, t', rfl, (Value.Begins.solid (v := .number (c :: t')) begins).1, ?_⟩
  intro d notMinus notDigit
  rcases begins with rfl | digit
  · exact notMinus
  · exact ne_of_isDigit digit notDigit

theorem decodesFit_text? : DecodesFit fit bound readText? Value.text? := by
  intro v t text _ _ gap rest blanks
  cases text with
  | null =>
      rw [readText?, List.cons_append, skipBlanks_gap_cons blanks rfl]
      rfl
  | string string =>
      rw [readText?, List.append_assoc, List.cons_append, skipBlanks_gap_cons blanks rfl]
      simp only [List.singleton_append, readString_text string]
      rfl
  | number number =>
      obtain ⟨c, t', rfl, solid, other⟩ := number_begins_other number
      exact readText?_other blanks solid (other (by decide) rfl) (other (by decide) rfl)
  | _ => exact readText?_other blanks rfl (by decide) (by decide)

theorem decodes_text? : Decodes bound readText? Value.text? := decodesFit_text?

/-! ## Lists -/

theorem nextElement_first (begins : skipBlanks cs = c :: rest) (opens : c ≠ ']') :
    nextElement true cs = .ok (some (skipBlanks cs)) := by
  rw [nextElement, begins]
  dsimp only
  rw [if_neg opens, if_pos rfl]

theorem nextElement_comma (blanks : IsGap gap) (begins : skipBlanks cs = c :: rest)
    (opens : c ≠ ']') :
    nextElement false (gap ++ ',' :: cs) = .ok (some (skipBlanks cs)) := by
  rw [nextElement, skipBlanks_gap_cons blanks rfl]
  dsimp only
  rw [if_neg (by decide), if_neg (by decide), if_neg (by decide), begins]
  dsimp only
  rw [if_neg opens]

theorem nextElement_close (blanks : IsGap gap) (isFirst : Bool) (rest : List Char) :
    nextElement isFirst (gap ++ ']' :: rest) = .ok none := by
  rw [nextElement, skipBlanks_gap_cons blanks rfl]
  rfl

theorem behindBracket_text {bracket : Char} (blanks : IsGap gap)
    (solid : isBlank bracket = false) (rest : List Char) :
    behindBracket bracket (gap ++ bracket :: rest) = rest := by
  rw [behindBracket, skipBlanks_gap_cons blanks solid]
  exact if_pos rfl

variable {element : List Char → Reading (α × List Char)} {d : Value → Option α}

theorem readElements_close (blanks : IsGap gap) (isFirst : Bool) (rest : List Char) :
    readElements element (bound + 1) isFirst (gap ++ ']' :: rest) = .ok ([], rest) := by
  rw [readElements, nextElement_close blanks]
  simp only [bind, Except.bind, behindBracket_text blanks (show isBlank ']' = false from rfl)]

theorem readElements_some {isFirst : Bool} {next : List Char}
    (more : nextElement isFirst cs = .ok (some next)) :
    (readElements element (bound + 1) isFirst cs).toOption =
      (element next).toOption.bind fun (a, rest) =>
        (readElements element bound false rest).toOption.map fun (as, rest) => (a :: as, rest) := by
  rw [readElements, more]
  simp only [bind, Except.bind]
  cases element next with
  | error => rfl
  | ok read =>
      dsimp only [Except.toOption, Option.bind]
      cases readElements element bound false read.2 <;> rfl

/-- A value and what follows, behind the blanks before it. -/
theorem skipBlanks_text (text : IsText (.value v) t) (blanks : IsGap gap) (rest : List Char) :
    skipBlanks (gap ++ (t ++ rest)) = t ++ rest := by
  obtain ⟨c, t', rfl, begins⟩ := text_begins text
  exact skipBlanks_gap_cons blanks begins.solid.1 _

theorem length_pos_of_text (text : IsText (.value v) t) : 0 < t.length := by
  obtain ⟨c, t', rfl, -⟩ := text_begins text
  exact Nat.succ_pos _

/-- The elements of a list are read one after the other, whatever led to the first of them. -/
theorem readElements_text {b : Nat} (decodes : DecodesFit fit bound element d)
    {vs : List Value} :
    ∀ {t cs : List Char} {isFirst : Bool}, IsText (.elements vs) t →
    (∀ v ∈ vs, fit v) → t.length < b → b ≤ bound → ∀ rest,
    nextElement isFirst cs = .ok (some (skipBlanks (t ++ rest))) →
    (readElements element b isFirst cs).toOption = (vs.mapM d).map (·, rest) := by
  induction vs generalizing b with
  | nil => intro t cs isFirst text; cases text
  | cons v vs ih =>
      intro t cs isFirst text fits less le rest more
      obtain ⟨b, rfl⟩ := Nat.exists_eq_add_one_of_ne_zero (Nat.ne_zero_of_lt less)
      obtain ⟨here, later⟩ := List.forall_mem_cons.mp fits
      rw [readElements_some more]
      cases text with
      | @lastElement _ before t behind isBefore text isBehind =>
          have pos := length_pos_of_text text
          simp only [List.length_append, List.length_cons] at less
          obtain ⟨b, rfl⟩ := Nat.exists_eq_add_one_of_ne_zero (show b ≠ 0 by omega)
          have read := decodes v t text here (by omega) [] (behind ++ ']' :: rest) nofun
          rw [List.nil_append] at read
          simp only [List.append_assoc, List.singleton_append, skipBlanks_text text isBefore, read]
          rcases value : d v with _ | a
          · simp [value]
          · simp [value, readElements_close isBehind, Except.toOption]
      | @element _ _ before t behind others isBefore text isBehind isOthers =>
          simp only [List.length_append, List.length_cons] at less
          have read := decodes v t text here (by omega) []
            (behind ++ ',' :: (others ++ rest)) nofun
          rw [List.nil_append] at read
          simp only [List.append_assoc, List.cons_append, skipBlanks_text text isBefore, read]
          obtain ⟨c, cs, begins, opens⟩ := elements_begin isOthers rest
          have next := ih (b := b) isOthers later (by omega) (by omega) rest
            (nextElement_comma isBehind begins opens)
          rcases value : d v with _ | a
          · simp [value]
          · simp only [Option.map_some, Option.bind_some, next]
            cases values : vs.mapM d <;> simp [value, values]

/-- What a function makes of the elements of a list. -/
def Value.elements? (d : Value → Option α) : Value → Option (List α)
  | list vs => vs.mapM d
  | _ => none

theorem readList_other (blanks : IsGap gap) (solid : isBlank c = false) (notBracket : c ≠ '[') :
    (readList bound element (gap ++ c :: cs)).toOption = none := by
  rw [readList, skipBlanks_gap_cons blanks solid]
  split
  case h_1 none => cases none
  case h_2 same => exact absurd (List.cons.inj same).1 notBracket
  case h_3 => rfl

theorem decodesFit_list (decodes : DecodesFit fit bound element d) :
    DecodesFit (Value.HasElements fit) bound (readList bound element) (Value.elements? d) := by
  intro v t text fits less gap rest blanks
  cases text with
  | @emptyList inner isInner =>
      obtain ⟨bound, rfl⟩ := Nat.exists_eq_add_one_of_ne_zero (Nat.ne_zero_of_lt less)
      rw [readList, List.append_assoc, List.cons_append, skipBlanks_gap_cons blanks rfl]
      exact congrArg Except.toOption (readElements_close isInner true rest)
  | @list vs t elements =>
      obtain ⟨c, cs, begins, opens⟩ := elements_begin elements rest
      rw [readList, List.cons_append, skipBlanks_gap_cons blanks rfl]
      exact readElements_text decodes elements fits (Nat.lt_of_succ_lt less) Nat.le.refl rest
        (nextElement_first begins opens)
  | number number =>
      obtain ⟨c, t', rfl, solid, other⟩ := number_begins_other number
      exact readList_other blanks solid (other (by decide) rfl)
  | _ => exact readList_other blanks rfl (by decide)

theorem decodes_list (decodes : Decodes bound element d) :
    Decodes bound (readList bound element) (Value.elements? d) :=
  (decodesFit_list decodes).decodes Value.HasDistinctNames.hasElements

/-! ## Members -/

theorem nextKey_first (begins : skipBlanks cs = '"' :: rest) :
    nextKey true cs = .ok (some rest) := by
  rw [nextKey, begins]
  rfl

theorem nextKey_comma (blanks : IsGap gap) (begins : skipBlanks cs = '"' :: rest) :
    nextKey false (gap ++ ',' :: cs) = .ok (some rest) := by
  rw [nextKey, skipBlanks_gap_cons blanks rfl]
  dsimp only
  rw [if_neg (by decide), if_neg (by decide), if_neg (by decide), begins]
  rfl

theorem nextKey_close (blanks : IsGap gap) (isFirst : Bool) (rest : List Char) :
    nextKey isFirst (gap ++ '\x7d' :: rest) = .ok none := by
  rw [nextKey, skipBlanks_gap_cons blanks rfl]
  rfl

variable {field : String} {value : List Char → Reading (α × List Char)} {kept : Option α}

theorem readMembers_close (blanks : IsGap gap) (isFirst : Bool) (rest : List Char) :
    readMembers field value (bound + 1) isFirst kept (gap ++ '\x7d' :: rest) =
      .ok (kept, rest) := by
  rw [readMembers, nextKey_close blanks]
  simp only [bind, Except.bind, behindBracket_text blanks (show isBlank '\x7d' = false from rfl)]

theorem readMembers_field {isFirst : Bool} {next key name colon : List Char}
    (more : nextKey isFirst cs = .ok (some (key ++ '"' :: (colon ++ ':' :: next))))
    (isKey : IsStringText name key) (isColon : IsGap colon) (same : name = field.toList) :
    (readMembers field value (bound + 1) isFirst none cs).toOption =
      (value next).toOption.bind fun (a, rest) =>
        (readMembers field value bound false (some a) rest).toOption := by
  rw [readMembers, more]
  simp only [bind, Except.bind, readString_text isKey, skipColon_text isColon, if_pos same,
    Option.isSome_none, Bool.false_eq_true, if_false]
  cases value next <;> rfl

theorem readMembers_other {isFirst : Bool} {next key name colon : List Char}
    (more : nextKey isFirst cs = .ok (some (key ++ '"' :: (colon ++ ':' :: next))))
    (isKey : IsStringText name key) (isColon : IsGap colon) (other : name ≠ field.toList)
    (skipped : skipValue bound next = .ok rest) :
    readMembers field value (bound + 1) isFirst kept cs =
      readMembers field value bound false kept rest := by
  rw [readMembers, more]
  simp only [bind, Except.bind, readString_text isKey, skipColon_text isColon, if_neg other,
    skipped]

/-! ## Members one after the other -/

/-- The first of some members and what stands behind it: a bracket, or a comma and the others. -/
theorem members_split {name : List Char} {ms : List (List Char × Value)}
    (text : IsText (.members ((name, v) :: ms)) t) :
    ∃ indent key colon before own behind tail,
      t = indent ++ '"' :: (key ++ '"' ::
        (colon ++ ':' :: (before ++ (own ++ (behind ++ tail))))) ∧
      IsGap indent ∧ IsStringText name key ∧ IsGap colon ∧ IsGap before ∧ IsText (.value v) own ∧
      IsGap behind ∧ (ms = [] ∧ tail = ['\x7d'] ∨
        ∃ others, tail = ',' :: others ∧ IsText (.members ms) others) := by
  cases text with
  | lastMember isIndent isKey isColon isBefore text isBehind =>
      exact ⟨_, _, _, _, _, _, ['\x7d'], by simp, isIndent, isKey, isColon, isBefore, text,
        isBehind, .inl ⟨rfl, rfl⟩⟩
  | @member _ _ _ _ _ _ _ _ _ others isIndent isKey isColon isBefore text isBehind isOthers =>
      exact ⟨_, _, _, _, _, _, ',' :: others, by simp, isIndent, isKey, isColon, isBefore, text,
        isBehind, .inr ⟨others, rfl, isOthers⟩⟩

/-- What is kept behind some members: the one with the name of the field, if it is among them. -/
def keptOf (field : String) (d : Value → Option α) (kept : Option α)
    (ms : List (List Char × Value)) : Option (Option α) :=
  match ms.lookup field.toList with
  | none => some kept
  | some v => (d v).map some

/-- The members of an object are read one after the other, whatever led to the first of them and is
kept from before. -/
theorem readMembers_text {b : Nat} (decodes : DecodesFit fit bound value d)
    {ms : List (List Char × Value)} :
    ∀ {t cs next : List Char} {isFirst : Bool} {kept : Option α}, IsText (.members ms) t →
    (ms.map Prod.fst).count field.toList ≤ 1 → (∀ v, (field.toList, v) ∈ ms → fit v) →
    (kept.isSome → field.toList ∉ ms.map Prod.fst) → t.length < b → b ≤ bound → ∀ rest,
    skipBlanks (t ++ rest) = '"' :: next → nextKey isFirst cs = .ok (some next) →
    (readMembers field value b isFirst kept cs).toOption =
      (keptOf field d kept ms).map (·, rest) := by
  induction ms generalizing b with
  | nil => intro t cs next isFirst kept text; cases text
  | cons m ms ih =>
      obtain ⟨name, v⟩ := m
      intro t cs next isFirst kept text single fits once less le rest begins more
      obtain ⟨b, rfl⟩ := Nat.exists_eq_add_one_of_ne_zero (Nat.ne_zero_of_lt less)
      have later (w : Value) (mem : (field.toList, w) ∈ ms) : fit w :=
        fits w (List.mem_cons_of_mem _ mem)
      rw [List.map_cons, List.count_cons] at single
      obtain ⟨indent, key, colon, before, own, behind, tail, rfl, isIndent, isKey, isColon,
        isBefore, text, isBehind, others⟩ := members_split text
      simp only [List.length_append, List.length_cons] at less
      have pos := length_pos_of_text text
      -- what is read behind this member, whatever is kept of it
      have after (kept : Option α) (once : kept.isSome → field.toList ∉ ms.map Prod.fst) :
          (readMembers field value b false kept (behind ++ (tail ++ rest))).toOption =
            (keptOf field d kept ms).map (·, rest) := by
        rcases others with ⟨rfl, rfl⟩ | ⟨others, rfl, isOthers⟩
        · obtain ⟨b, rfl⟩ := Nat.exists_eq_add_one_of_ne_zero (show b ≠ 0 by omega)
          rw [List.singleton_append, readMembers_close isBehind]
          rfl
        · obtain ⟨next, begins⟩ := members_begin isOthers rest
          simp only [List.length_cons] at less
          exact ih (b := b) isOthers (by omega) later once (by omega) (by omega) rest begins
            (nextKey_comma isBehind begins)
      have next_eq : next = key ++ '"' :: (colon ++ ':' :: (before ++ (own ++ (behind ++
          (tail ++ rest))))) := by
        simp only [List.append_assoc, List.cons_append,
          skipBlanks_gap_cons isIndent (show isBlank '"' = false from rfl)] at begins
        exact (List.cons.inj begins).2.symm
      rw [next_eq] at more
      by_cases same : name = field.toList
      · have unkept : kept = none := by
          cases kept with
          | none => rfl
          | some a => exact absurd (same ▸ List.mem_cons_self) (once rfl)
        have new : field.toList ∉ ms.map Prod.fst := by
          rw [if_pos (beq_iff_eq.mpr same)] at single
          exact List.count_eq_zero.mp (by omega)
        have here : fit v := fits v (same ▸ List.mem_cons_self)
        have read := decodes v own text here (by omega) before (behind ++ (tail ++ rest)) isBefore
        have found : keptOf field d none ((name, v) :: ms) = (d v).map some := by
          rw [keptOf, same, List.lookup_cons_self]
        have missing : ms.lookup field.toList = none :=
          lookup_eq_none_iff.mpr fun w mem => new (List.mem_map.mpr ⟨(_, w), mem, rfl⟩)
        rw [unkept, readMembers_field more isKey isColon same, read, found]
        rcases value : d v with _ | a
        · rfl
        · simp only [Option.map_some, Option.bind_some, after (some a) fun _ => new]
          rw [keptOf, missing]
          rfl
      · have passed : keptOf field d kept ((name, v) :: ms) = keptOf field d kept ms := by
          rw [keptOf, List.lookup_cons, beq_false_of_ne (Ne.symm same), keptOf]
        have stops : Stops (behind ++ (tail ++ rest)) := by
          rcases others with ⟨-, rfl⟩ | ⟨others, rfl, -⟩
          · exact stops_of_separator isBehind (.inr (.inr rfl)) rest
          · exact stops_of_separator isBehind (.inl rfl) (others ++ rest)
        rw [readMembers_other more isKey isColon same
          (skipValue_text text isBefore (by omega) stops), passed]
        exact after kept fun found mem => once found (List.mem_cons_of_mem name mem)

/-! ## Records -/

theorem closeList_text (blanks : IsGap gap) (rest : List Char) :
    closeList (gap ++ ']' :: rest) = .ok rest := by
  rw [closeList, skipBlanks_gap_cons blanks rfl]
  rfl

theorem closeList_comma (blanks : IsGap gap) (cs : List Char) :
    (closeList (gap ++ ',' :: cs)).toOption = none := by
  rw [closeList, skipBlanks_gap_cons blanks rfl]
  split
  case h_1 none => cases none
  case h_2 other => exact absurd (List.cons.inj other).1 (by decide)
  case h_3 => split <;> rfl
  case h_4 => rfl

/-- What a function makes of the field of a record: a member of an object, which may be missing if
there is something in its place, or the one element of a list. -/
def Value.field? (record : Record α) (d : Value → Option α) : Value → Option α
  | object ms =>
    match ms.lookup record.field.toList with
    | none => record.absent
    | some v => d v
  | list [v] => d v
  | _ => none

/-- What a record is read as comes from its field, from what stands in its place, or from the one
element of a list. -/
theorem field?_eq_some_iff {record : Record α} {a : α} (distinct : v.HasDistinctNames) :
    Value.field? record d v = some a ↔
      (∃ ms, v = .object ms ∧ ((∃ w, (record.field.toList, w) ∈ ms ∧ d w = some a) ∨
        (∀ w, (record.field.toList, w) ∉ ms) ∧ record.absent = some a)) ∨
      ∃ w, v = .list [w] ∧ d w = some a := by
  constructor
  · intro read
    cases v with
    | object ms =>
        refine .inl ⟨ms, rfl, ?_⟩
        rcases found : ms.lookup record.field.toList with _ | w
        · rw [Value.field?, found] at read
          exact .inr ⟨lookup_eq_none_iff.mp found, read⟩
        · rw [Value.field?, found] at read
          exact .inl ⟨w, (lookup_eq_some_iff distinct.names).mp found, read⟩
    | list vs =>
        rcases vs with _ | ⟨w, _ | ⟨w', vs⟩⟩
        · cases read
        · exact .inr ⟨w, rfl, read⟩
        · cases read
    | _ => cases read
  · rintro (⟨ms, rfl, ⟨w, mem, read⟩ | ⟨missing, read⟩⟩ | ⟨w, rfl, read⟩)
    · rw [Value.field?, (lookup_eq_some_iff distinct.names).mpr mem]
      exact read
    · rw [Value.field?, lookup_eq_none_iff.mpr missing]
      exact read
    · exact read

theorem readRecord_other (blanks : IsGap gap) (record : Record α) (solid : isBlank c = false)
    (notBracket : c ≠ '[') (notBrace : c ≠ '\x7b') :
    (readRecord bound record value (gap ++ c :: cs)).toOption = none := by
  rw [readRecord, skipBlanks_gap_cons blanks solid]
  split
  case h_1 none => cases none
  case h_2 same => exact absurd (List.cons.inj same).1 notBracket
  case h_3 same => exact absurd (List.cons.inj same).1 notBrace
  case h_4 => rfl

theorem readRecord_list (blanks : IsGap gap) (record : Record α) {next : List Char}
    (more : nextElement true cs = .ok (some next)) :
    (readRecord bound record value (gap ++ '[' :: cs)).toOption =
      (value next).toOption.bind fun (a, rest) => (closeList rest).toOption.map (a, ·) := by
  rw [readRecord, skipBlanks_gap_cons blanks rfl]
  simp only [more, bind, Except.bind]
  cases value next with
  | error => rfl
  | ok read =>
      dsimp only [Except.toOption, Option.bind]
      cases closeList read.2 <;> rfl

theorem readRecord_object (blanks : IsGap gap) (record : Record α) (cs : List Char) :
    (readRecord bound record value (gap ++ '\x7b' :: cs)).toOption =
      (readMembers record.field value bound true none cs).toOption.bind fun (kept, rest) =>
        (kept.or record.absent).map (·, rest) := by
  rw [readRecord, skipBlanks_gap_cons blanks rfl]
  simp only [bind, Except.bind]
  cases readMembers record.field value bound true none cs with
  | error => rfl
  | ok read =>
      dsimp only [Except.toOption, Option.bind]
      cases read.1.or record.absent <;> rfl

theorem keptOf_or_absent (record : Record α) (d : Value → Option α)
    (ms : List (List Char × Value)) :
    ((keptOf record.field d none ms).bind fun kept => kept.or record.absent) =
      Value.field? record d (.object ms) := by
  rw [keptOf, Value.field?]
  cases ms.lookup record.field.toList with
  | none => rfl
  | some v => cases value : d v <;> simp [value]

theorem decodesFit_record (record : Record α) (decodes : DecodesFit fit bound value d) :
    DecodesFit (Value.HasFieldOnce record.field.toList fit) bound
      (readRecord bound record value) (Value.field? record d) := by
  intro v t text fits less gap rest blanks
  cases text with
  | @emptyList inner isInner =>
      have none_left : nextElement true (inner ++ ']' :: rest) = .ok none :=
        nextElement_close isInner true rest
      rw [readRecord, List.append_assoc, List.cons_append, skipBlanks_gap_cons blanks rfl]
      simp only [List.singleton_append, none_left, bind, Except.bind]
      rfl
  | @list vs t elements =>
      obtain ⟨c, cs, begins, opens⟩ := elements_begin elements rest
      rw [List.cons_append, readRecord_list blanks record (nextElement_first begins opens)]
      cases elements with
      | @lastElement v before t behind isBefore text isBehind =>
          simp only [List.length_append, List.length_cons] at less
          have read := decodes v t text (fits v List.mem_cons_self) (by omega) []
            (behind ++ ']' :: rest) nofun
          rw [List.nil_append] at read
          simp only [List.append_assoc, List.singleton_append, skipBlanks_text text isBefore, read]
          cases value : d v <;> simp [value, Value.field?, closeList_text isBehind, Except.toOption]
      | @element v vs before t behind others isBefore text isBehind isOthers =>
          simp only [List.length_append, List.length_cons] at less
          have read := decodes v t text (fits v List.mem_cons_self) (by omega) []
            (behind ++ ',' :: (others ++ rest)) nofun
          have several : Value.field? record d (.list (v :: vs)) = none := by
            cases isOthers <;> rfl
          rw [List.nil_append] at read
          simp only [List.append_assoc, List.cons_append, skipBlanks_text text isBefore, read,
            several]
          cases value : d v <;> simp [closeList_comma isBehind]
  | @emptyObject inner isInner =>
      obtain ⟨bound, rfl⟩ := Nat.exists_eq_add_one_of_ne_zero (Nat.ne_zero_of_lt less)
      rw [List.append_assoc, List.cons_append, readRecord_object blanks record,
        List.singleton_append, readMembers_close isInner]
      cases absent : record.absent <;> simp [Value.field?, absent, Except.toOption]
  | @object ms t members =>
      obtain ⟨next, begins⟩ := members_begin members rest
      have read : (readMembers record.field value bound true none (t ++ rest)).toOption =
          (keptOf record.field d none ms).map (·, rest) :=
        readMembers_text decodes members fits.1 fits.2 (fun found => Bool.noConfusion found)
          (Nat.lt_of_succ_lt less) Nat.le.refl rest begins (nextKey_first begins)
      rw [List.cons_append, readRecord_object blanks record, read, ← keptOf_or_absent]
      cases keptOf record.field d none ms <;> rfl
  | number number =>
      obtain ⟨c, t', rfl, solid, other⟩ := number_begins_other number
      exact readRecord_other blanks record solid (other (by decide) rfl) (other (by decide) rfl)
  | _ => exact readRecord_other blanks record rfl (by decide) (by decide)

theorem decodes_record (record : Record α) (decodes : Decodes bound value d) :
    Decodes bound (readRecord bound record value) (Value.field? record d) :=
  (decodesFit_record record decodes).decodes fun distinct => distinct.hasFieldOnce _

/-! ## Whole texts -/

theorem readWhole_fit {read : List Char → Reading (α × List Char)} {body : List Char}
    (decodes : DecodesFit fit bound read d) (document : IsDocument v body) (fits : fit v)
    (less : body.length < bound) : (readWhole read body).toOption = d v := by
  obtain ⟨before, t, behind, isBefore, text, isBehind, rfl⟩ := document
  simp only [List.length_append] at less
  have result := decodes v t text fits (by omega) before behind isBefore
  have blanks : skipBlanks behind = [] := by
    have behind_nil := skipBlanks_gap isBehind []
    rwa [List.append_nil] at behind_nil
  rw [readWhole, List.append_assoc, toOption_bind, result]
  cases d v with
  | none => rfl
  | some a => simp only [Option.map_some, Option.bind_some, blanks]; rfl

theorem readWhole_text {read : List Char → Reading (α × List Char)} {body : List Char}
    (decodes : Decodes bound read d) (document : IsDocument v body)
    (distinct : v.HasDistinctNames) (less : body.length < bound) :
    (readWhole read body).toOption = d v :=
  readWhole_fit decodes document distinct less

end Checkup.Json
