import Checkup.Proofs.Review.FirstChoice
import Checkup.Review.Conversation

/-!
# Messages read back

A response that holds the text of a message, as it is written for requests, is read as the content
of that message: what escapes are written for a content is undone when it is read.

* `IsExtended`: members in any order, among others that do not matter.
* `RepeatsMessage`: the text of a choice with a message.
* `written_message_read_back` is for responses with any number of choices, whatever else stands in
  the response, its choices and their messages.
-/

namespace Checkup.Json

/-! ## An object with one member that matters -/

section Among

variable {α : Type} {field : List Char} {v : Value} {before after : List (List Char × Value)}
  {fit : Value → Prop}

theorem count_among (others : ∀ m ∈ before ++ after, m.1 ≠ field) :
    ((before ++ (field, v) :: after).map Prod.fst).count field = 1 := by
  obtain ⟨ahead, behind⟩ := List.forall_mem_append.mp others
  have none_ahead : (before.map Prod.fst).count field = 0 :=
    List.count_eq_zero.mpr fun mem => by
      obtain ⟨m, among, same⟩ := List.mem_map.mp mem
      exact ahead m among same
  have none_behind : (after.map Prod.fst).count field = 0 :=
    List.count_eq_zero.mpr fun mem => by
      obtain ⟨m, among, same⟩ := List.mem_map.mp mem
      exact behind m among same
  rw [List.map_append, List.map_cons, List.count_append, List.count_cons_self, none_ahead,
    none_behind]

theorem hasFieldOnce_among (others : ∀ m ∈ before ++ after, m.1 ≠ field) (fits : fit v) :
    (Value.object (before ++ (field, v) :: after)).HasFieldOnce field fit := by
  refine ⟨(count_among others).le, fun w mem => ?_⟩
  rcases List.mem_append.mp mem with ahead | behind
  · exact absurd rfl (others _ (List.mem_append_left after ahead))
  rcases List.mem_cons.mp behind with here | behind
  · rw [(Prod.mk.inj here).2]
    exact fits
  · exact absurd rfl (others _ (List.mem_append_right before behind))

theorem field?_among (record : Record α) (d : Value → Option α)
    (others : ∀ m ∈ before ++ after, m.1 ≠ record.field.toList) :
    Value.field? record d (.object (before ++ (record.field.toList, v) :: after)) = d v := by
  have absent : before.lookup record.field.toList = none :=
    lookup_eq_none_iff.mpr fun w mem => others _ (List.mem_append_left after mem) rfl
  rw [Value.field?, List.lookup_append, absent, List.lookup_cons_self]
  rfl

end Among

/-- Members in any order: the given ones, and others of any kind, none of which has the name of the
field that matters. -/
def IsExtended (field : String) (own all : List (String × List Char)) : Prop :=
  ∃ unknown, all.Perm (own ++ unknown) ∧
    ∀ m ∈ unknown, m.1 ≠ field ∧ ∃ v, IsText (.value v) m.2

/-- An object whose members are written in any order, with the one that matters among them. -/
theorem exists_object {field : String} {v : Value} {t : List Char}
    {others all : List (String × List Char)} (mixed : all.Perm ((field, t) :: others))
    (text : IsText (.value v) t)
    (values : ∀ m ∈ others, m.1 ≠ field ∧ ∃ v, IsText (.value v) m.2) :
    ∃ before after, IsText (.value (.object (before ++ (field.toList, v) :: after)))
        (writeObject all) ∧
      ∀ m ∈ before ++ after, m.1 ≠ field.toList := by
  have among : (field, t) ∈ all := mixed.mem_iff.mpr List.mem_cons_self
  obtain ⟨ahead, behind, rfl⟩ := List.append_of_mem among
  have rest : (ahead ++ behind).Perm others :=
    (List.perm_middle.symm.trans mixed).cons_inv
  have each (m) (mem : m ∈ ahead ++ behind) := values m (rest.mem_iff.mp mem)
  obtain ⟨before, isBefore⟩ := exists_isMember fun m mem =>
    (each m (List.mem_append_left behind mem)).2
  obtain ⟨after, isAfter⟩ := exists_isMember fun m mem =>
    (each m (List.mem_append_right ahead mem)).2
  have members : List.Forall₂ IsMember (before ++ (field.toList, v) :: after)
      (ahead ++ (field, t) :: behind) :=
    List.rel_append isBefore (.cons ⟨rfl, text⟩ isAfter)
  refine ⟨before, after, isText_writeObject members, fun m mem same => ?_⟩
  have named : m.1 ∈ (ahead ++ behind).map fun w => w.1.toList := by
    rw [← names_of_isMember (List.rel_append isBefore isAfter)]
    exact List.mem_map_of_mem mem
  obtain ⟨w, among, name⟩ := List.mem_map.mp named
  exact (each w among).1 (String.toList_injective (name.trans same))

end Checkup.Json

namespace Checkup.Review

open Json (Value IsText IsExtended)

/-! ## Messages as they are written -/

/-- The members of a message with the texts of their values. -/
def Message.members (m : Message) : List (String × List Char) :=
  [("role", Json.writeString m.role.name.toList), ("content", Json.writeString m.content)]

theorem Message.render_eq (m : Message) : m.render = Json.writeObject m.members := rfl

/-- The text of a choice with a message of a content.  The members of both are in any order and
among others. -/
inductive RepeatsMessage (s : List Char) : List Char → Prop
  | of {message choice : List (String × List Char)} :
    IsExtended "content" (Message.members { content := s }) message →
    IsExtended "message" [("message", Json.writeObject message)] choice →
    RepeatsMessage s (Json.writeObject choice)

/-! ## What a response says -/

/-- A message has one content at most. -/
def HasOneContent : Value → Prop := Value.HasFieldOnce "content".toList fun _ => True

/-- A choice has one message at most, which has one content at most. -/
def HasOneMessage : Value → Prop := Value.HasFieldOnce "message".toList HasOneContent

/-- A response has its choices once, and each of them one message at most. -/
def HasChoicesOnce : Value → Prop :=
  Value.HasFieldOnce "choices".toList (Value.HasElements HasOneMessage)

theorem decodesFit_response (bound : Nat) :
    Json.DecodesFit HasChoicesOnce bound (readResponse bound) contents? := by
  have decodes_choice : Json.DecodesFit HasOneMessage bound (readChoice bound) choice? :=
    Json.decodesFit_record choiceRecord
      (Json.decodesFit_record messageRecord Json.decodesFit_text?)
  exact Json.decodesFit_record responseRecord (Json.decodesFit_list decodes_choice)

variable {s : List Char}

theorem exists_message {message : List (String × List Char)}
    (extended : IsExtended "content" (Message.members { content := s }) message) :
    ∃ v, IsText (.value v) (Json.writeObject message) ∧ HasOneContent v ∧
      message? v = some (some s) := by
  obtain ⟨unknown, mixed, values⟩ := extended
  have mixed' : message.Perm (("content", Json.writeString s) ::
      ("role", Json.writeString Role.user.name.toList) :: unknown) :=
    mixed.trans (.swap _ _ _)
  have role : ("role" : String) ≠ "content" ∧ ∃ v, IsText (.value v)
      (Json.writeString Role.user.name.toList) :=
    ⟨by decide, _, Json.isText_writeString _⟩
  obtain ⟨before, after, text, others⟩ := Json.exists_object mixed' (Json.isText_writeString s)
    (List.forall_mem_cons.mpr ⟨role, values⟩)
  exact ⟨_, text, Json.hasFieldOnce_among others trivial,
    Json.field?_among messageRecord Value.text? others⟩

theorem exists_choice {t : List Char} (repeats : RepeatsMessage s t) :
    ∃ v, IsText (.value v) t ∧ HasOneMessage v ∧ choice? v = some (some s) := by
  cases repeats with
  | @of message choice extended extended' =>
      obtain ⟨m, text, once, content⟩ := exists_message extended
      obtain ⟨unknown, mixed, values⟩ := extended'
      obtain ⟨before, after, text', others⟩ := Json.exists_object mixed text values
      have read : choice? (.object (before ++ ("message".toList, m) :: after)) = message? m :=
        Json.field?_among choiceRecord message? others
      exact ⟨_, text', Json.hasFieldOnce_among others once, read.trans content⟩

theorem exists_choices {contents : List (List Char)} {choices : List (List Char)}
    (each : List.Forall₂ RepeatsMessage contents choices) :
    ∃ vs, List.Forall₂ (fun v t => IsText (.value v) t) vs choices ∧
      (∀ v ∈ vs, HasOneMessage v) ∧ vs.mapM choice? = some (contents.map some) := by
  induction each with
  | nil => exact ⟨[], .nil, nofun, rfl⟩
  | cons here _ ih =>
      obtain ⟨v, text, once, read⟩ := exists_choice here
      obtain ⟨vs, texts, onces, reads⟩ := ih
      refine ⟨v :: vs, .cons text texts, List.forall_mem_cons.mpr ⟨once, onces⟩, ?_⟩
      rw [List.mapM_cons, read, reads]
      rfl

/-- The content of the message in the first choice is read as it was before it was written. -/
theorem completionOf_repeated {further choices : List (List Char)}
    {root : List (String × List Char)}
    (each : List.Forall₂ RepeatsMessage (s :: further) choices)
    (extended : IsExtended "choices" [("choices", Json.writeList choices)] root) :
    completionOf (Json.writeObject root) = .ok s := by
  obtain ⟨vs, texts, onces, reads⟩ := exists_choices each
  obtain ⟨unknown, mixed, values⟩ := extended
  obtain ⟨before, after, text, others⟩ :=
    Json.exists_object mixed (Json.isText_writeList texts) values
  have elements : Value.HasElements HasOneMessage (.list vs) := onces
  have once : HasChoicesOnce (.object (before ++ ("choices".toList, .list vs) :: after)) :=
    Json.hasFieldOnce_among others elements
  have read : contents? (.object (before ++ ("choices".toList, .list vs) :: after)) =
      vs.mapM choice? :=
    Json.field?_among responseRecord (Value.elements? choice?) others
  apply (completionOf_of_fit decodesFit_response text.isDocument once).mpr
  exact ⟨further.map some, read.trans reads⟩

/-! ## The text that comes back -/

theorem isExtended_self (field : String) (own : List (String × List Char)) :
    IsExtended field own own :=
  ⟨[], by rw [List.append_nil], nofun⟩

/-- A response with the texts of messages in its choices is read as the content of the first of
them, character for character.  It makes no difference what other members the response, its choices
and their messages have, and in what order. -/
theorem written_message_read_back (s : List Char) (further : List (List Char)) :
    completionOf (Json.writeObject [("choices", Json.writeList ((s :: further).map fun content =>
        Json.writeObject [("message", Message.render { content })]))]) = .ok s ∧
      ∀ choices root, List.Forall₂ RepeatsMessage (s :: further) choices →
        IsExtended "choices" [("choices", Json.writeList choices)] root →
        completionOf (Json.writeObject root) = .ok s := by
  refine ⟨?_, fun choices root each extended => completionOf_repeated each extended⟩
  have each : List.Forall₂ RepeatsMessage (s :: further) ((s :: further).map fun content =>
      Json.writeObject [("message", Message.render { content })]) := by
    simp only [Message.render_eq]
    rw [List.forall₂_map_right_iff, List.forall₂_same]
    exact fun content _ => .of (isExtended_self _ _) (isExtended_self _ _)
  exact completionOf_repeated each (isExtended_self _ _)

/-- A content with characters of each kind: escaped in short, by number, and not at all. -/
def unusual : List Char := ['"', '\\', '\n', '\x01', '\x7f', '\u2028', '😀']

/-- A message with its content in front and a refusal, in a choice with a number, in a response
with a count that has two members of one name. -/
theorem unusual_read_back :
    completionOf (Json.writeObject [
      ("usage", Json.writeObject [("tokens", ['0']), ("tokens", ['0'])]),
      ("choices", Json.writeList [Json.writeObject [
        ("index", ['0']),
        ("message", Json.writeObject [
          ("content", Json.writeString unusual),
          ("refusal", ['n', 'u', 'l', 'l']),
          ("role", Json.writeString "user".toList)])]])]) = .ok unusual := by
  have zero : IsText (.value (.number ['0'])) ['0'] := .number (.of (.inl rfl) .zero .none .none)
  have usage := Json.isText_writeObject (.cons (Json.isMember "tokens" zero)
    (.cons (Json.isMember "tokens" zero) .nil))
  have message : IsExtended "content" (Message.members { content := unusual })
      [("content", Json.writeString unusual), ("refusal", ['n', 'u', 'l', 'l']),
        ("role", Json.writeString "user".toList)] :=
    ⟨[("refusal", ['n', 'u', 'l', 'l'])], .trans (.cons _ (.swap _ _ _)) (.swap _ _ _),
      List.forall_mem_singleton.mpr ⟨by decide, _, .null⟩⟩
  apply (written_message_read_back unusual []).2 _ _ (.cons (.of message ?choice) .nil)
  · exact ⟨[("usage", _)], .swap _ _ _, List.forall_mem_singleton.mpr ⟨by decide, _, usage⟩⟩
  · exact ⟨[("index", ['0'])], .swap _ _ _, List.forall_mem_singleton.mpr ⟨by decide, _, zero⟩⟩

end Checkup.Review
