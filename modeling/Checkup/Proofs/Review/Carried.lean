import Mathlib.Data.List.Infix
import Checkup.Proofs.Json.Printable
import Checkup.Proofs.Review.FirstChoice
import Checkup.Review.Client
import Checkup.Review.Prompt

/-!
# What a request carries

The body of a request holds the model and the program under review without loss: both can be read
back from it, so that no two programs are asked about in the same words.

* `Conversation.isText_render` and `Conversation.hasNoControls_render`: a conversation is written
  as JSON, in one line.
* `readModel_render` and `readContents_render`: what is read back from it.
* `programIn?_eq_some_iff`: a prompt is for one program only.
* `request_carries_program` puts them together for the body of a request.
-/

namespace Checkup.Review

open Json (Value IsText Reading HasNoControls)

/-! ## The text of a conversation -/

/-- What the text of a message says. -/
def Message.value (m : Message) : Value :=
  .object [("role".toList, .string m.role.name.toList), ("content".toList, .string m.content)]

theorem Message.isText_render (m : Message) : IsText (.value m.value) m.render :=
  Json.isText_writeObject (.cons (Json.isMember "role" (Json.isText_writeString _))
    (.cons (Json.isMember "content" (Json.isText_writeString _)) .nil))

theorem Message.hasNoControls_render (m : Message) : HasNoControls m.render := by
  apply Json.hasNoControls_writeObject
  simp only [List.forall_mem_cons]
  exact ⟨Json.hasNoControls_writeString _, Json.hasNoControls_writeString _, nofun⟩

theorem Message.hasDistinctNames (m : Message) : m.value.HasDistinctNames := by
  have names : ["role".toList, "content".toList].Nodup := by decide
  refine .object names ?_
  simp only [List.forall_mem_cons]
  exact ⟨.string _, .string _, nofun⟩

namespace Conversation

variable (c : Conversation)

/-- What the text of a conversation says. -/
def value : Value :=
  .object [("model".toList, .string c.model),
    ("messages".toList, .list (c.messages.map Message.value)),
    ("temperature".toList, .ofFloat c.temperature)]

theorem isText_render : IsText (.value c.value) c.render := by
  have messages : List.Forall₂ (fun v t => IsText (.value v) t)
      (c.messages.map Message.value) (c.messages.map Message.render) := by
    rw [List.forall₂_map_left_iff, List.forall₂_map_right_iff, List.forall₂_same]
    exact fun m _ => m.isText_render
  exact Json.isText_writeObject (.cons (Json.isMember "model" (Json.isText_writeString _))
    (.cons (Json.isMember "messages" (Json.isText_writeList messages))
      (.cons (Json.isMember "temperature" (Json.isText_writeNumber _)) .nil)))

theorem hasNoControls_render : HasNoControls c.render := by
  have messages : ∀ t ∈ c.messages.map Message.render, HasNoControls t := by
    intro t mem
    obtain ⟨m, -, rfl⟩ := List.mem_map.mp mem
    exact m.hasNoControls_render
  apply Json.hasNoControls_writeObject
  simp only [List.forall_mem_cons]
  exact ⟨Json.hasNoControls_writeString _, Json.hasNoControls_writeList messages,
    Json.hasNoControls_writeNumber _, nofun⟩

theorem hasDistinctNames : c.value.HasDistinctNames := by
  have messages : ∀ v ∈ c.messages.map Message.value, v.HasDistinctNames := by
    intro v mem
    obtain ⟨m, -, rfl⟩ := List.mem_map.mp mem
    exact m.hasDistinctNames
  have temperature : (Value.ofFloat c.temperature).HasDistinctNames := by
    unfold Value.ofFloat
    split
    · exact .number _
    · exact .null
  have names : ["model".toList, "messages".toList, "temperature".toList].Nodup := by decide
  refine .object names ?_
  simp only [List.forall_mem_cons]
  exact ⟨.string _, .list messages, temperature, nofun⟩

end Conversation

/-! ## A conversation read back -/

/-- A conversation, of which only the model matters. -/
def modelRecord : Json.Record (Option (List Char)) :=
  { name := "struct CompletionRequest", field := "model" }

/-- A conversation, of which only the messages matter. -/
def messagesRecord : Json.Record (List (Option (List Char))) :=
  { name := "struct CompletionRequest", field := "messages" }

/-- Reads the model of a conversation. -/
def readModel (text : List Char) : Reading (Option (List Char)) :=
  Json.readWhole (Json.readRecord (text.length + 1) modelRecord Json.readText?) text

/-- Reads the contents of the messages of a conversation. -/
def readContents (text : List Char) : Reading (List (Option (List Char))) :=
  let bound := text.length + 1
  Json.readWhole (Json.readRecord bound messagesRecord
    (Json.readList bound (Json.readRecord bound messageRecord Json.readText?))) text

theorem eq_ok_of_toOption {ε α : Type} {x : Except ε α} {a : α} (some_a : x.toOption = some a) :
    x = .ok a := by
  cases x with
  | error => cases some_a
  | ok b => rw [Option.some.inj some_a]

theorem readModel_render (c : Conversation) : readModel c.render = .ok (some c.model) :=
  eq_ok_of_toOption (Json.readWhole_text (Json.decodes_record modelRecord Json.decodes_text?)
    c.isText_render.isDocument c.hasDistinctNames (Nat.lt_succ_self _))

theorem readContents_render (c : Conversation) :
    readContents c.render = .ok (c.messages.map fun m => some m.content) := by
  have contents : (c.messages.map Message.value).mapM message? =
      some (c.messages.map fun m => some m.content) := by
    induction c.messages with
    | nil => rfl
    | cons m messages ih =>
        rw [List.map_cons, List.mapM_cons, ih]
        rfl
  have text : Json.Decodes (c.render.length + 1) Json.readText? Value.text? := Json.decodes_text?
  have decodes := Json.decodes_record messagesRecord
    (Json.decodes_list (Json.decodes_record messageRecord text))
  exact eq_ok_of_toOption ((Json.readWhole_text decodes c.isText_render.isDocument c.hasDistinctNames
    (Nat.lt_succ_self _)).trans contents)

/-! ## The program in a prompt -/

/-- The program that a prompt asks about. -/
def programIn? (prompt : List Char) : Option (List Char) :=
  (prompt.dropPrefix? promptOpening.toList).bind fun rest =>
    rest.dropSuffix? promptClosing.toList

theorem dropWrapper_eq_some_iff {opening closing prompt code : List Char} :
    ((prompt.dropPrefix? opening).bind fun rest => rest.dropSuffix? closing) = some code ↔
      prompt = opening ++ code ++ closing := by
  simp only [Option.bind_eq_some_iff, List.dropPrefix?_eq_some_iff, List.dropSuffix?_eq_some_iff,
    beq_iff_eq]
  constructor
  · rintro ⟨rest, ⟨opening, rfl, rfl⟩, closing, rfl, rfl⟩
    rw [List.append_assoc]
  · rintro rfl
    exact ⟨code ++ closing, ⟨opening, List.append_assoc _ _ _, rfl⟩, closing, rfl, rfl⟩

/-- A prompt asks about one program only, whatever that has of the prompt in it. -/
theorem programIn?_eq_some_iff {prompt code : List Char} :
    programIn? prompt = some code ↔ prompt = promptFor code :=
  dropWrapper_eq_some_iff

/-! ## The body of a request -/

theorem readContents_prompt (client : Client) (prompt : List Char) :
    readContents (client.conversation prompt).render = .ok [some prompt] :=
  readContents_render (client.conversation prompt)

/-- The body of a request tells the model and the program: requests with one body have both in
common.  It is the JSON text of an object with the model, one message of the user, which is the
prompt for the program, and the temperature, has no control characters in it, and the program can
be read back from it. -/
theorem request_carries_program :
    (∀ (client other : Client) (code code' : List Char),
      (client.conversation (promptFor code)).render =
          (other.conversation (promptFor code')).render →
        client.model = other.model ∧ code = code') ∧
      ∀ (client : Client) (code : List Char),
        let text := (client.conversation (promptFor code)).render
        IsText (.value (.object [("model".toList, .string client.model),
          ("messages".toList, .list [.object [("role".toList, .string "user".toList),
            ("content".toList, .string (promptFor code))]]),
          ("temperature".toList, .ofFloat client.temperature)])) text ∧
        HasNoControls text ∧
        readModel text = .ok (some client.model) ∧
        readContents text = .ok [some (promptFor code)] ∧
        programIn? (promptFor code) = some code := by
  constructor
  · intro client other code code' same
    have models := readModel_render (client.conversation (promptFor code))
    rw [same, readModel_render] at models
    have prompts := readContents_prompt client (promptFor code)
    rw [same, readContents_prompt] at prompts
    have sameModel : other.model = client.model := Option.some.inj (Except.ok.inj models)
    have samePrompt : promptFor code' = promptFor code :=
      Option.some.inj (List.cons.inj (Except.ok.inj prompts)).1
    have program : programIn? (promptFor code) = some code := programIn?_eq_some_iff.mpr rfl
    have sameProgram : some code' = some code :=
      (programIn?_eq_some_iff.mpr samePrompt.symm).symm.trans program
    exact ⟨sameModel.symm, Option.some.inj sameProgram.symm⟩
  · intro client code text
    let conversation := client.conversation (promptFor code)
    exact ⟨conversation.isText_render, conversation.hasNoControls_render,
      readModel_render conversation, readContents_prompt client _,
      programIn?_eq_some_iff.mpr rfl⟩

/-- A program that has the end of a prompt in it is read back from the body of its request as it is.
A client with another key sends the same body, and the program with that end once more another
one. -/
theorem fences_carried :
    let code := "x = \"\"\"\n```\n\"\"\"\\\n".toList
    let client : Client := { key := ['a'], url := [], model := ['m'], temperature := 0.7 }
    let other : Client := { client with key := ['b'] }
    let text := (client.conversation (promptFor code)).render
    text = (other.conversation (promptFor code)).render ∧ client.model = other.model ∧
      text ≠ (client.conversation (promptFor (code ++ promptClosing.toList))).render ∧
      HasNoControls text ∧ readModel text = .ok (some ['m']) ∧
      ∃ prompt, readContents text = .ok [some prompt] ∧ programIn? prompt = some code := by
  intro code client other text
  have same : text = (other.conversation (promptFor code)).render := rfl
  obtain ⟨sameModel, -⟩ := request_carries_program.1 client other code code same
  obtain ⟨-, visible, model, contents, program⟩ := request_carries_program.2 client code
  refine ⟨same, sameModel, fun longer => ?_, visible, model, promptFor code, contents, program⟩
  have sameProgram := (request_carries_program.1 client client code _ longer).2
  exact absurd sameProgram (by decide)

end Checkup.Review
