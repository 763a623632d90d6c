import Mathlib.Data.List.Forall2
import Checkup.Json.Write
import Checkup.Proofs.Json.Grammar

/-!
# What is written is JSON

* `isText_writeString`, `isText_writeList` and `isText_writeObject`: what is written keeps to the
  grammar and says what it is meant to say.
-/

namespace Checkup.Json

theorem hexValue?_digitChar {k : Nat} (less : k < 16) : hexValue? (Nat.digitChar k) = some k := by
  have all : ∀ k : Fin 16, hexValue? (Nat.digitChar k) = some k.val := by decide
  exact all ⟨k, less⟩

/-- A character is written as itself or escaped. -/
theorem writeChar_cases (c : Char) :
    (writeChar c = [c] ∧ ¬ c < ' ' ∧ c ≠ '"' ∧ c ≠ '\\') ∨
      ∃ e, writeChar c = '\\' :: e ∧ IsEscape c e := by
  unfold writeChar
  split
  case h_8 notQuote notSlash _ _ _ _ _ =>
    split
    case isTrue control =>
      have less : c.toNat < 32 := control
      have zero : hexValue? '0' = some 0 := rfl
      have hex := IsHex.of zero zero (hexValue?_digitChar (show c.toNat / 16 < 16 by omega))
        (hexValue?_digitChar (show c.toNat % 16 < 16 by omega))
      have code : (((0 * 16 + 0) * 16 + c.toNat / 16) * 16 + c.toNat % 16) = c.toNat := by omega
      rw [code] at hex
      exact .inr ⟨_, rfl, .unicode hex⟩
    case isFalse visible => exact .inl ⟨rfl, visible, notQuote, notSlash⟩
  all_goals exact .inr ⟨_, rfl, .short rfl⟩

theorem isStringText_written (s : List Char) : IsStringText s (s.flatMap writeChar) := by
  induction s with
  | nil => exact .nil
  | cons c s ih =>
      rw [List.flatMap_cons]
      rcases writeChar_cases c with ⟨plain, visible, notQuote, notSlash⟩ | ⟨e, written, escaped⟩
      · rw [plain]
        exact .plain visible notQuote notSlash ih
      · rw [written]
        exact .escape escaped ih

theorem isText_writeString (s : List Char) : IsText (.value (.string s)) (writeString s) :=
  .string (isStringText_written s)

theorem isGap_nil : IsGap [] := nofun

/-- The text of a value is a document as it is. -/
theorem IsText.isDocument {v : Value} {t : List Char} (text : IsText (.value v) t) :
    IsDocument v t :=
  ⟨[], t, [], isGap_nil, text, isGap_nil, (List.append_nil t).symm⟩

theorem isText_elements {vs : List Value} {ts : List (List Char)}
    (each : List.Forall₂ (fun v t => IsText (.value v) t) vs ts) (some_value : vs ≠ []) :
    IsText (.elements vs) (List.intercalate [','] ts ++ [']']) := by
  induction each with
  | nil => exact absurd rfl some_value
  | @cons v t vs ts here later ih =>
      cases later with
      | nil =>
          have last := IsText.lastElement isGap_nil here isGap_nil
          simpa using last
      | cons next later =>
          have more := IsText.element isGap_nil here isGap_nil (ih (List.cons_ne_nil _ _))
          simpa [List.intercalate] using more

theorem isText_writeList {vs : List Value} {ts : List (List Char)}
    (each : List.Forall₂ (fun v t => IsText (.value v) t) vs ts) :
    IsText (.value (.list vs)) (writeList ts) := by
  cases each with
  | nil => exact .emptyList isGap_nil
  | cons here later =>
      exact .list (isText_elements (.cons here later) (List.cons_ne_nil _ _))

/-- A member and what it is written from: its name and the text of its value. -/
def IsMember (m : List Char × Value) (w : String × List Char) : Prop :=
  m.1 = w.1.toList ∧ IsText (.value m.2) w.2

theorem isMember (name : String) {v : Value} {t : List Char} (text : IsText (.value v) t) :
    IsMember (name.toList, v) (name, t) :=
  ⟨rfl, text⟩

theorem isText_members {ms : List (List Char × Value)} {ws : List (String × List Char)}
    (each : List.Forall₂ IsMember ms ws) (some_member : ms ≠ []) :
    IsText (.members ms) (List.intercalate [',']
      (ws.map fun (key, value) => writeString key.toList ++ ':' :: value) ++ ['\x7d']) := by
  induction each with
  | nil => exact absurd rfl some_member
  | @cons m w ms ws here later ih =>
      obtain ⟨name, v⟩ := m
      obtain ⟨key, value⟩ := w
      obtain ⟨rfl, text⟩ := here
      have isKey := isStringText_written key.toList
      cases later with
      | nil =>
          have last := IsText.lastMember isGap_nil isKey isGap_nil isGap_nil text isGap_nil
          simpa [writeString] using last
      | cons next later =>
          have more := IsText.member isGap_nil isKey isGap_nil isGap_nil text isGap_nil
            (ih (List.cons_ne_nil _ _))
          simpa [List.intercalate, writeString] using more

theorem isText_writeObject {ms : List (List Char × Value)} {ws : List (String × List Char)}
    (each : List.Forall₂ IsMember ms ws) : IsText (.value (.object ms)) (writeObject ws) := by
  cases each with
  | nil => exact .emptyObject isGap_nil
  | cons here later =>
      exact .object (isText_members (.cons here later) (List.cons_ne_nil _ _))

/-- Members with values of any kind. -/
theorem exists_isMember {ws : List (String × List Char)}
    (values : ∀ w ∈ ws, ∃ v, IsText (.value v) w.2) : ∃ ms, List.Forall₂ IsMember ms ws := by
  induction ws with
  | nil => exact ⟨[], .nil⟩
  | cons w ws ih =>
      obtain ⟨⟨v, text⟩, later⟩ := List.forall_mem_cons.mp values
      obtain ⟨ms, members⟩ := ih later
      exact ⟨(w.1.toList, v) :: ms, .cons ⟨rfl, text⟩ members⟩

/-- Members have the names that they are written with. -/
theorem names_of_isMember {ms : List (List Char × Value)} {ws : List (String × List Char)}
    (each : List.Forall₂ IsMember ms ws) :
    ms.map Prod.fst = ws.map fun w => w.1.toList := by
  induction each with
  | nil => rfl
  | cons here _ ih => rw [List.map_cons, List.map_cons, here.1, ih]

/-- An object with one member. -/
theorem isText_writeObject_one (key : String) {v : Value} {t : List Char}
    (text : IsText (.value v) t) :
    IsText (.value (.object [(key.toList, v)])) (writeObject [(key, t)]) :=
  isText_writeObject (.cons (isMember key text) .nil)

end Checkup.Json
