import Checkup.Proofs.Json.Decode
import Checkup.Proofs.Json.Written
import Checkup.Review.Completion

/-!
# The choice that is read

A completion is the content of the first choice of a response.

* `HasContent` and `IsChoice` say what a response has to be, apart from any way of reading it, and
  `WrittenAsObjects` sets aside those that have a list in the place of an object.
* `contents?` is what a response is read as, whatever its text; `completionOf_eq_ok_iff`.
* `completionOf_reads_first_choice`: there is a completion exactly if the first choice has one and
  the later ones are choices.  `numberAsChoice_refused`: that the first choice has one is not
  enough.
-/

namespace Checkup.Review

open Json (Value IsDocument)

/-! ## Responses -/

/-- The first choice of a response has a content, and these are its later choices. -/
def HasContent (response : Value) (s : List Char) (later : List Value) : Prop :=
  ∃ ms first m, response = .object ms ∧ ("choices".toList, .list (.object first :: later)) ∈ ms ∧
    ("message".toList, .object m) ∈ first ∧ ("content".toList, .string s) ∈ m

/-- The content of a message: a string or null. -/
inductive IsContent : Value → Prop
  | null : IsContent .null
  | string (s : List Char) : IsContent (.string s)

/-- A message: an object whose content is one if there is any, or a list of a content alone. -/
inductive IsMessage : Value → Prop
  | object {m : List (List Char × Value)} :
    (∀ v, ("content".toList, v) ∈ m → IsContent v) → IsMessage (.object m)
  | list {v : Value} : IsContent v → IsMessage (.list [v])

/-- A choice: an object with a message, or a list of a message alone. -/
inductive IsChoice : Value → Prop
  | object {c : List (List Char × Value)} {v : Value} :
    ("message".toList, v) ∈ c → IsMessage v → IsChoice (.object c)
  | list {v : Value} : IsMessage v → IsChoice (.list [v])

/-- Neither the response nor its first choice nor the message of that is a list. -/
structure WrittenAsObjects (response : Value) : Prop where
  whole : ∀ vs, response ≠ .list vs
  choice : ∀ ms vs later, response = .object ms →
    ("choices".toList, .list (.list vs :: later)) ∉ ms
  message : ∀ ms first later vs, response = .object ms →
    ("choices".toList, .list (.object first :: later)) ∈ ms → ("message".toList, .list vs) ∉ first

/-! ## What a response is read as -/

/-- The content of a message, or nothing. -/
def message? : Value → Option (Option (List Char)) := Value.field? messageRecord Value.text?

/-- The content of the message of a choice, or nothing. -/
def choice? : Value → Option (Option (List Char)) := Value.field? choiceRecord message?

/-- The contents of the messages of the choices of a response. -/
def contents? : Value → Option (List (Option (List Char))) :=
  Value.field? responseRecord (Value.elements? choice?)

theorem decodes_response (bound : Nat) : Json.Decodes bound (readResponse bound) contents? := by
  have decodes_choice : Json.Decodes bound (readChoice bound) choice? :=
    Json.decodes_record choiceRecord (Json.decodes_record messageRecord Json.decodes_text?)
  exact Json.decodes_record responseRecord (Json.decodes_list decodes_choice)

/-- A completion is the first of the contents in a response, as far as these depend on its value. -/
theorem completionOf_of_fit {fit : Value → Prop} {v : Value} {body s : List Char}
    (decodes : ∀ bound, Json.DecodesFit fit bound (readResponse bound) contents?)
    (document : IsDocument v body) (fits : fit v) :
    completionOf body = .ok s ↔ ∃ later, contents? v = some (some s :: later) := by
  have read : (contentsOf body).toOption = contents? v :=
    Json.readWhole_fit (decodes _) document fits (Nat.lt_succ_self _)
  rw [completionOf, ← read]
  rcases contentsOf body with fault | _ | ⟨_ | content, later⟩ <;> simp [Except.toOption]

theorem completionOf_eq_ok_iff {v : Value} {body s : List Char} (document : IsDocument v body)
    (distinct : v.HasDistinctNames) :
    completionOf body = .ok s ↔ ∃ later, contents? v = some (some s :: later) :=
  completionOf_of_fit decodes_response document distinct

/-- Without a completion, the body is said to be none. -/
theorem completionOf_ok_or_decode (body : List Char) :
    (∃ s, completionOf body = .ok s) ∨ ∃ detail, completionOf body = .error (.decode detail) := by
  unfold completionOf
  rcases contentsOf body with fault | _ | ⟨_ | content, later⟩
  · exact .inr ⟨_, rfl⟩
  · exact .inr ⟨_, rfl⟩
  · exact .inr ⟨_, rfl⟩
  · exact .inl ⟨content, rfl⟩

/-! ## What the parts of a response are read as -/

theorem text?_isSome_iff (v : Value) : v.text?.isSome ↔ IsContent v := by
  constructor
  · intro read
    cases v with
    | null => exact .null
    | string s => exact .string s
    | _ => cases read
  · intro content
    cases content <;> rfl

theorem message?_isSome_iff {v : Value} (distinct : v.HasDistinctNames) :
    (message? v).isSome ↔ IsMessage v := by
  rw [Option.isSome_iff_exists]
  constructor
  · rintro ⟨content, read⟩
    rcases (Json.field?_eq_some_iff distinct).mp read with ⟨m, rfl, found⟩ | ⟨w, rfl, read⟩
    · refine .object fun v mem => ?_
      rcases found with ⟨w, among, read⟩ | ⟨missing, -⟩
      · rw [eq_of_mem_of_mem distinct.names mem among]
        exact (text?_isSome_iff w).mp (Option.isSome_of_eq_some read)
      · exact (missing v mem).elim
    · exact .list ((text?_isSome_iff w).mp (Option.isSome_of_eq_some read))
  · intro message
    cases message with
    | @object m contents =>
        by_cases among : ∃ v, ("content".toList, v) ∈ m
        · obtain ⟨v, mem⟩ := among
          obtain ⟨content, read⟩ :=
            Option.isSome_iff_exists.mp ((text?_isSome_iff v).mpr (contents v mem))
          exact ⟨content, (Json.field?_eq_some_iff distinct).mpr
            (.inl ⟨m, rfl, .inl ⟨v, mem, read⟩⟩)⟩
        · exact ⟨none, (Json.field?_eq_some_iff distinct).mpr
            (.inl ⟨m, rfl, .inr ⟨not_exists.mp among, rfl⟩⟩)⟩
    | @list v content =>
        obtain ⟨content, read⟩ := Option.isSome_iff_exists.mp ((text?_isSome_iff v).mpr content)
        exact ⟨content, (Json.field?_eq_some_iff distinct).mpr (.inr ⟨v, rfl, read⟩)⟩

theorem choice?_isSome_iff {v : Value} (distinct : v.HasDistinctNames) :
    (choice? v).isSome ↔ IsChoice v := by
  rw [Option.isSome_iff_exists]
  constructor
  · rintro ⟨content, read⟩
    rcases (Json.field?_eq_some_iff distinct).mp read with
      ⟨c, rfl, ⟨w, among, read⟩ | ⟨-, absent⟩⟩ | ⟨w, rfl, read⟩
    · exact .object among ((message?_isSome_iff (distinct.members _ among)).mp
        (Option.isSome_of_eq_some read))
    · cases absent
    · exact .list ((message?_isSome_iff (distinct.elements w List.mem_cons_self)).mp
        (Option.isSome_of_eq_some read))
  · intro choice
    cases choice with
    | @object c v mem message =>
        obtain ⟨content, read⟩ := Option.isSome_iff_exists.mp
          ((message?_isSome_iff (distinct.members _ mem)).mpr message)
        exact ⟨content, (Json.field?_eq_some_iff distinct).mpr
          (.inl ⟨c, rfl, .inl ⟨v, mem, read⟩⟩)⟩
    | @list v message =>
        obtain ⟨content, read⟩ := Option.isSome_iff_exists.mp
          ((message?_isSome_iff (distinct.elements v List.mem_cons_self)).mpr message)
        exact ⟨content, (Json.field?_eq_some_iff distinct).mpr (.inr ⟨v, rfl, read⟩)⟩

theorem mapM_isSome_iff {α β : Type} {f : α → Option β} {as : List α} :
    (as.mapM f).isSome ↔ ∀ a ∈ as, (f a).isSome := by
  induction as with
  | nil => simp
  | cons a as ih =>
      rw [List.forall_mem_cons, ← ih, List.mapM_cons]
      cases f a <;> cases as.mapM f <;> simp

theorem elements?_eq_cons_iff {α : Type} {d : Value → Option α} {v : Value} {a : α}
    {as : List α} :
    v.elements? d = some (a :: as) ↔
      ∃ first later, v = .list (first :: later) ∧ d first = some a ∧ later.mapM d = some as := by
  constructor
  · intro read
    cases v with
    | list vs =>
        rcases vs with _ | ⟨first, later⟩
        · cases read
        · rw [Value.elements?, List.mapM_cons] at read
          obtain ⟨b, here, read⟩ := Option.bind_eq_some_iff.mp read
          obtain ⟨bs, others, same⟩ := Option.bind_eq_some_iff.mp read
          obtain ⟨rfl, rfl⟩ := List.cons.inj (Option.some.inj same)
          exact ⟨first, later, rfl, here, others⟩
    | _ => cases read
  · rintro ⟨first, later, rfl, here, others⟩
    rw [Value.elements?, List.mapM_cons, here, others]
    rfl

/-! ## The first choice -/

/-- A message that is no list has a content exactly if that is one of its members. -/
theorem message?_eq_some_iff {v : Value} {s : List Char} (distinct : v.HasDistinctNames)
    (noList : ∀ vs, v ≠ .list vs) :
    message? v = some (some s) ↔ ∃ m, v = .object m ∧ ("content".toList, .string s) ∈ m := by
  rw [message?, Json.field?_eq_some_iff distinct]
  constructor
  · rintro (⟨m, rfl, ⟨w, mem, read⟩ | ⟨-, absent⟩⟩ | ⟨w, rfl, -⟩)
    · have same : w = .string s := by
        cases w with
        | string t => rw [Option.some.inj (Option.some.inj read)]
        | null => cases read
        | _ => cases read
      exact ⟨m, rfl, same ▸ mem⟩
    · cases absent
    · exact (noList [w] rfl).elim
  · rintro ⟨m, rfl, mem⟩
    exact .inl ⟨m, rfl, .inl ⟨.string s, mem, rfl⟩⟩

theorem choice?_eq_some_iff {v : Value} {s : List Char} (distinct : v.HasDistinctNames)
    (noList : ∀ vs, v ≠ .list vs)
    (noMessageList : ∀ c vs, v = .object c → ("message".toList, .list vs) ∉ c) :
    choice? v = some (some s) ↔ ∃ c m, v = .object c ∧ ("message".toList, .object m) ∈ c ∧
      ("content".toList, .string s) ∈ m := by
  rw [choice?, Json.field?_eq_some_iff distinct]
  constructor
  · rintro (⟨c, rfl, ⟨w, mem, read⟩ | ⟨-, absent⟩⟩ | ⟨w, rfl, -⟩)
    · obtain ⟨m, rfl, content⟩ := (message?_eq_some_iff (distinct.members _ mem)
        fun vs same => noMessageList c vs rfl (same ▸ mem)).mp read
      exact ⟨c, m, rfl, mem, content⟩
    · cases absent
    · exact (noList [w] rfl).elim
  · rintro ⟨c, m, rfl, mem, content⟩
    exact .inl ⟨c, rfl, .inl ⟨.object m, mem,
      (message?_eq_some_iff (distinct.members _ mem) nofun).mpr ⟨m, rfl, content⟩⟩⟩

/-- What a response is read as begins with the content of its first choice. -/
theorem contents?_eq_cons_iff {v : Value} {s : List Char} (distinct : v.HasDistinctNames)
    (objects : WrittenAsObjects v) :
    (∃ others, contents? v = some (some s :: others)) ↔
      ∃ later, HasContent v s later ∧ ∀ c ∈ later, IsChoice c := by
  constructor
  · rintro ⟨others, read⟩
    rcases (Json.field?_eq_some_iff distinct).mp read with
      ⟨ms, rfl, ⟨w, mem, read⟩ | ⟨-, absent⟩⟩ | ⟨w, rfl, -⟩
    · obtain ⟨first, later, rfl, here, behind⟩ := elements?_eq_cons_iff.mp read
      have each := (distinct.members _ mem).elements
      have firstNoList : ∀ vs, first ≠ .list vs := fun vs same =>
        objects.choice ms vs later rfl (same ▸ mem)
      obtain ⟨c, m, rfl, message, content⟩ :=
        (choice?_eq_some_iff (each first List.mem_cons_self) firstNoList fun c vs same =>
          objects.message ms c later vs rfl (same ▸ mem)).mp here
      refine ⟨later, ⟨ms, c, m, rfl, mem, message, content⟩, fun c among => ?_⟩
      have isSome := mapM_isSome_iff.mp (Option.isSome_of_eq_some behind) c among
      exact (choice?_isSome_iff (each c (List.mem_cons_of_mem _ among))).mp isSome
    · cases absent
    · exact (objects.whole [w] rfl).elim
  · rintro ⟨later, ⟨ms, c, m, rfl, mem, message, content⟩, choices⟩
    have each := (distinct.members _ mem).elements
    have here : choice? (.object c) = some (some s) :=
      (choice?_eq_some_iff (each _ List.mem_cons_self) nofun fun c' vs same among => by
        cases same
        exact objects.message ms c later vs rfl mem among).mpr ⟨c, m, rfl, message, content⟩
    obtain ⟨others, behind⟩ := Option.isSome_iff_exists.mp (mapM_isSome_iff.mpr fun c among =>
      (choice?_isSome_iff (each c (List.mem_cons_of_mem _ among))).mpr (choices c among))
    exact ⟨others, (Json.field?_eq_some_iff distinct).mpr (.inl ⟨ms, rfl, .inl ⟨_, mem,
      elements?_eq_cons_iff.mpr ⟨_, later, rfl, here, behind⟩⟩⟩)⟩

/-- A response whose parts are objects has a completion exactly if its first choice has a content
and its later choices are choices, and the completion is that content.  Any other body is said to be
none. -/
theorem completionOf_reads_first_choice {v : Value} {body : List Char}
    (document : IsDocument v body) (distinct : v.HasDistinctNames)
    (objects : WrittenAsObjects v) :
    (∀ s, completionOf body = .ok s ↔ ∃ later, HasContent v s later ∧ ∀ c ∈ later, IsChoice c) ∧
      ((¬ ∃ s later, HasContent v s later ∧ ∀ c ∈ later, IsChoice c) →
        ∃ detail, completionOf body = .error (.decode detail)) := by
  have reads (s : List Char) : completionOf body = .ok s ↔
      ∃ later, HasContent v s later ∧ ∀ c ∈ later, IsChoice c := by
    rw [completionOf_eq_ok_iff document distinct, contents?_eq_cons_iff distinct objects]
  refine ⟨reads, fun nowhere => ?_⟩
  rcases completionOf_ok_or_decode body with ⟨s, found⟩ | refused
  · exact (nowhere ⟨s, (reads s).mp found⟩).elim
  · exact refused

/-! ## A response with two choices -/

/-- A response whose first choice has a content. -/
def twoChoices (second : Value) : Value :=
  .object [("choices".toList, .list [
    .object [("message".toList, .object [("content".toList, .string ['a'])])], second])]

/-- How it is written, if the second choice is written in some way. -/
def twoChoicesText (second : List Char) : List Char :=
  Json.writeObject [("choices", Json.writeList [
    Json.writeObject [("message", Json.writeObject [("content", Json.writeString ['a'])])],
    second])]

section TwoChoices

open Json (IsText isText_writeObject_one isText_writeList isText_writeString)

variable {second : Value} {t : List Char}

theorem twoChoices_document (text : IsText (.value second) t) :
    IsDocument (twoChoices second) (twoChoicesText t) := by
  have content := isText_writeObject_one "content" (isText_writeString ['a'])
  have choice := isText_writeObject_one "message" content
  have choices := isText_writeList (.cons choice (.cons text .nil))
  have response := isText_writeObject_one "choices" choices
  exact response.isDocument

theorem twoChoices_distinct (distinct : second.HasDistinctNames) :
    (twoChoices second).HasDistinctNames := by
  have one {name : List Char} {v : Value} (inner : v.HasDistinctNames) :
      (Value.object [(name, v)]).HasDistinctNames :=
    .object (List.pairwise_singleton _ _) (List.forall_mem_singleton.mpr inner)
  exact one (.list (List.forall_mem_cons.mpr ⟨one (one (.string ['a'])),
    List.forall_mem_singleton.mpr distinct⟩))

theorem twoChoices_hasContent : HasContent (twoChoices second) ['a'] [second] :=
  ⟨_, _, _, rfl, List.mem_cons_self, List.mem_cons_self, List.mem_cons_self⟩

theorem twoChoices_objects : WrittenAsObjects (twoChoices second) where
  whole := nofun
  choice := by
    intro ms vs later same mem
    cases same
    cases List.mem_singleton.mp mem
  message := by
    intro ms first later vs same mem list
    cases same
    cases List.mem_singleton.mp mem
    cases List.mem_singleton.mp list

end TwoChoices

/-- The second choice has a message without a content, which is as good as one that has it. -/
theorem emptyMessage_read :
    completionOf (twoChoicesText (Json.writeObject [("message", Json.writeObject [])])) =
      .ok ['a'] := by
  have text := Json.isText_writeObject_one "message" (Json.isText_writeObject .nil)
  have distinct : (Value.object [("message".toList, .object [])]).HasDistinctNames :=
    .object (List.pairwise_singleton _ _) (List.forall_mem_singleton.mpr (.object .nil nofun))
  have isChoice : IsChoice (.object [("message".toList, .object [])]) :=
    .object List.mem_cons_self (.object nofun)
  exact ((completionOf_reads_first_choice (twoChoices_document text)
    (twoChoices_distinct distinct) twoChoices_objects).1 ['a']).mpr
      ⟨_, twoChoices_hasContent, List.forall_mem_singleton.mpr isChoice⟩

/-- With a number in the place of the second choice, the first one is not read, although it has a
content. -/
theorem numberAsChoice_refused :
    IsDocument (twoChoices (.number ['0'])) (twoChoicesText ['0']) ∧
      (twoChoices (.number ['0'])).HasDistinctNames ∧
      WrittenAsObjects (twoChoices (.number ['0'])) ∧
      HasContent (twoChoices (.number ['0'])) ['a'] [.number ['0']] ∧
      completionOf (twoChoicesText ['0']) = .error
        (.decode "invalid type: integer `0`, expected struct Choice at line 1 column 41") := by
  have number : Json.IsNumber ['0'] := .of (.inl rfl) .zero .none .none
  exact ⟨twoChoices_document (.number number), twoChoices_distinct (.number _),
    twoChoices_objects, twoChoices_hasContent, rfl⟩

end Checkup.Review
