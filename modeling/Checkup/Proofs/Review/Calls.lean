import Checkup.Proofs.Review.FirstChoice
import Checkup.Proofs.Web.Uri
import Checkup.Review.Client

/-!
# How calls end

A call for a completion ends in one way only, and what decides is looked at in a fixed order:
whether there is a request to send, whether the head of a response comes, whether its body is whole,
its status, and at last what the body says.

* `Web.Behaviour` is what a host does with a request, and `Behaviour.arrival` what arrives of it.
* `Client.CanSend`: the address and the key make a request; `Client.request_eq_ok` and
  `Client.request_eq_error`.
* `Client.Ends` says how a call ends by what arrives: `Client.resultOf_ends`, and one lemma for each
  class of results.
* `complete_classified` puts them together.  `noContent_whole_braces_unsent`: not every body that is
  shorter than declared is incomplete, since there are responses that have none, and not every
  address of the web makes a request.
-/

namespace Checkup.Web

/-- What a host does with a request. -/
inductive Behaviour where
  /-- It does not take it. -/
  | refuses
  /-- It takes it, but no response begins, or none in time. -/
  | keepsSilent
  /-- It sends the head of a response and the bytes of a body, so many less than the head
  declares. -/
  | answers (status : Nat) (body : List UInt8) (missing : Nat)

/-- What arrives of a response. -/
inductive Arrival where
  /-- No head, or only those that announce another response. -/
  | nothing
  /-- A head, and less of the body than it declares. -/
  | cutOff
  | whole (status : Nat) (body : List UInt8)

namespace Behaviour

def reply : Behaviour → Reply
  | refuses => .refused
  | keepsSilent => .unanswered
  | answers status body missing => .ofWire status body missing

/-- A status below 200 announces another response, except that 101 ends the exchange.  Responses
with this status, 204 and 304 have no body, whatever their heads declare. -/
def arrival : Behaviour → Arrival
  | refuses => .nothing
  | keepsSilent => .nothing
  | answers status body missing =>
    if status = 101 ∨ status = 204 ∨ status = 304 then .whole status []
    else if status < 200 ∨ 999 < status then .nothing
    else if missing = 0 then .whole status body
    else .cutOff

end Behaviour

end Checkup.Web

namespace Checkup.Review

open Web (Behaviour Arrival)

namespace Client

/-! ## Requests -/

/-- The address and the key of a client make a request. -/
def CanSend (c : Client) (names : Web.Names) : Prop :=
  Web.IsSendableAddress names c.url ∧ ∀ ch ∈ c.key, ¬ Web.IsForbiddenInHeader ch

/-- The request for a prompt.  The credentials in an address are a header of it. -/
def posted (c : Client) (names : Web.Names) (prompt : List Char) : Web.Request where
  target := ((Web.Url.parse? names c.url).map Web.Url.target).getD []
  basic := ((Web.Url.parse? names c.url).bind Web.Url.credentials?).map fun (user, password) =>
    Web.basicAuthorization user password
  authorization := c.authorization
  body := (c.conversation prompt).render

variable {c : Client} {names : Web.Names} (prompt : List Char)

theorem isHeaderValue_authorization :
    Web.isHeaderValue c.authorization = true ↔ ∀ ch ∈ c.key, ¬ Web.IsForbiddenInHeader ch := by
  have scheme : ∀ ch ∈ "Bearer ".toList, ¬ Web.IsForbiddenInHeader ch :=
    Web.isHeaderValue_iff.mp (by decide)
  have parts : Web.isHeaderValue c.authorization = true ↔
      (∀ ch ∈ "Bearer ".toList, ¬ Web.IsForbiddenInHeader ch) ∧
        ∀ ch ∈ c.key, ¬ Web.IsForbiddenInHeader ch :=
    Web.isHeaderValue_iff.trans List.forall_mem_append
  exact parts.trans (and_iff_right scheme)

theorem isWeb_iff {url : Web.Url} : isWeb url = true ↔ url.HasWebScheme := by
  rw [isWeb, Bool.or_eq_true, decide_eq_true_eq, decide_eq_true_eq, Web.Url.HasWebScheme]

/-- The checks for a host and for a scheme say the same of an address without its credentials. -/
theorem checks_withoutCredentials (url : Web.Url) :
    url.withoutCredentials.namedHost? = url.namedHost? ∧
      (isWeb url.withoutCredentials = true ↔ url.HasWebScheme) := by
  rw [Web.Url.namedHost?, Web.Url.withoutCredentials_host, isWeb_iff, Web.Url.HasWebScheme,
    Web.Url.withoutCredentials_scheme]
  exact ⟨rfl, Iff.rfl⟩

theorem request_eq_ok (canSend : c.CanSend names) :
    ∃ url, c.request names prompt = .ok (url, c.posted names prompt) := by
  obtain ⟨⟨url, parsed, sendable⟩, key⟩ := canSend
  have ofWeb := Web.Url.isOfWeb_of_parse? parsed sendable.web
  obtain ⟨sameHost, web⟩ := checks_withoutCredentials url
  -- the check for a host never fails for an address of the web
  have named : url.withoutCredentials.namedHost?.isNone = false := by
    rw [sameHost, ← Option.not_isSome, ofWeb.namedHost?_isSome]
    rfl
  have valid := (Web.Url.isSendable_iff ofWeb sendable.web).mp sendable
  refine ⟨url.withoutCredentials, ?_⟩
  simp only [request, posted, parsed, named, isHeaderValue_authorization.mpr key,
    web.mpr sendable.web, valid, Web.Url.withoutCredentials_target, Bool.false_eq_true,
    Bool.not_true, if_false, Option.map_some, Option.getD_some, Option.bind_some]

theorem request_eq_error (cannot : ¬ c.CanSend names) :
    ∃ detail, c.request names prompt = .error (.unexpected detail) := by
  unfold request
  split
  case h_1 => exact ⟨_, rfl⟩
  case h_2 url parsed =>
    dsimp only
    split
    · exact ⟨_, rfl⟩
    split
    · exact ⟨_, rfl⟩
    case isFalse isValue =>
      split
      · exact ⟨_, rfl⟩
      case isFalse isWeb =>
        split
        · exact ⟨_, rfl⟩
        case isFalse isValid =>
          rw [Bool.not_eq_true, Bool.not_eq_false'] at isValue isWeb isValid
          have web := (checks_withoutCredentials url).2.mp isWeb
          have ofWeb := Web.Url.isOfWeb_of_parse? parsed web
          exact absurd ⟨⟨url, parsed, (Web.Url.isSendable_iff ofWeb web).mpr isValid⟩,
            isHeaderValue_authorization.mp isValue⟩ cannot

/-! ## Responses -/

/-- How a call to an address ends by what arrives of the response. -/
inductive Ends (url : Web.Url) : Arrival → Except CompletionFault (List Char) → Prop
  | notSent : Ends url .nothing (.error (.transport ("error sending request" ++ forUrl url)))
  | cutOff : Ends url .cutOff
    (.error (.transport "failed to read response: error decoding response body"))
  | turnedDown {status : Nat} {body : List UInt8} : status ≠ 200 →
    Ends url (.whole status body) (.error (.status status (Text.Utf8.decodeLossy body)))
  | completed {body : List UInt8} {s : List Char} :
    completionOf (Text.Utf8.decodeLossy body) = .ok s → Ends url (.whole 200 body) (.ok s)
  | unreadable {body : List UInt8} {detail : String} :
    completionOf (Text.Utf8.decodeLossy body) = .error (.decode detail) →
    Ends url (.whole 200 body) (.error (.decode detail))

theorem ends_whole (url : Web.Url) (status : Nat) (body : List UInt8) :
    Ends url (.whole status body) (resultOf url (.response status body true)) := by
  unfold resultOf
  dsimp only
  rw [if_neg (by decide)]
  by_cases good : status = 200
  · rw [if_neg (not_not_intro good), good]
    rcases completionOf_ok_or_decode (Text.Utf8.decodeLossy body) with ⟨s, read⟩ | ⟨detail, read⟩
    · rw [read]
      exact .completed read
    · rw [read]
      exact .unreadable read
  · rw [if_pos good]
    exact .turnedDown good

theorem resultOf_ends (url : Web.Url) (behaviour : Behaviour) :
    Ends url behaviour.arrival (resultOf url behaviour.reply) := by
  cases behaviour with
  | refuses => exact .notSent
  | keepsSilent => exact .notSent
  | answers status body missing =>
      have noBody : Web.Reply.hasNoBody status = true ↔
          status = 101 ∨ status = 204 ∨ status = 304 := by
        simp only [Web.Reply.hasNoBody, Bool.or_eq_true, decide_eq_true_eq, or_assoc]
      have noResponse : (decide (status < 200) || decide (999 < status)) = true ↔
          status < 200 ∨ 999 < status := by
        simp only [Bool.or_eq_true, decide_eq_true_eq]
      simp only [Behaviour.reply, Behaviour.arrival, Web.Reply.ofWire, noBody, noResponse]
      split
      · exact ends_whole url status []
      split
      · exact .notSent
      split
      case isTrue whole =>
        rw [decide_eq_true whole]
        exact ends_whole url status body
      case isFalse part =>
        rw [decide_eq_false part]
        exact .cutOff

/-! ## Classes of results -/

section Classes

variable {url : Web.Url} {arrives : Arrival} {result : Except CompletionFault (List Char)}

/-- The two ways in which a response can fail to arrive are told apart. -/
theorem sending_ne_reading (place : String) : ("error sending request" ++ place : String) ≠
    "failed to read response: error decoding response body" := by
  intro same
  have first := congrArg (fun s : String => s.toList.head?) same
  rw [String.toList_append] at first
  have letters : some 'e' = some 'f' := first
  cases letters

theorem Ends.ne_unexpected (ends : Ends url arrives result) (detail : String) :
    result ≠ .error (.unexpected detail) := by
  cases ends <;> nofun

theorem Ends.notSent_iff (ends : Ends url arrives result) :
    (∃ place, result = .error (.transport ("error sending request" ++ place))) ↔
      arrives = .nothing := by
  cases ends with
  | notSent => exact ⟨fun _ => rfl, fun _ => ⟨_, rfl⟩⟩
  | cutOff =>
      refine ⟨fun ⟨place, same⟩ => ?_, nofun⟩
      exact absurd (CompletionFault.transport.inj (Except.error.inj same)).symm
        (sending_ne_reading place)
  | turnedDown => exact ⟨nofun, nofun⟩
  | completed => exact ⟨nofun, nofun⟩
  | unreadable => exact ⟨nofun, nofun⟩

theorem Ends.cutOff_iff (ends : Ends url arrives result) :
    result = .error (.transport "failed to read response: error decoding response body") ↔
      arrives = .cutOff := by
  cases ends with
  | notSent =>
      refine ⟨fun same => ?_, nofun⟩
      exact absurd (CompletionFault.transport.inj (Except.error.inj same))
        (sending_ne_reading (forUrl url))
  | cutOff => exact ⟨fun _ => rfl, fun _ => rfl⟩
  | turnedDown => exact ⟨nofun, nofun⟩
  | completed => exact ⟨nofun, nofun⟩
  | unreadable => exact ⟨nofun, nofun⟩

theorem Ends.transport_iff (ends : Ends url arrives result) :
    (∃ detail, result = .error (.transport detail)) ↔ arrives = .nothing ∨ arrives = .cutOff := by
  cases ends with
  | notSent => exact ⟨fun _ => .inl rfl, fun _ => ⟨_, rfl⟩⟩
  | cutOff => exact ⟨fun _ => .inr rfl, fun _ => ⟨_, rfl⟩⟩
  | turnedDown => exact ⟨nofun, nofun⟩
  | completed => exact ⟨nofun, nofun⟩
  | unreadable => exact ⟨nofun, nofun⟩

theorem Ends.status_iff (ends : Ends url arrives result) (status : Nat) (text : List Char) :
    result = .error (.status status text) ↔
      ∃ body, arrives = .whole status body ∧ status ≠ 200 ∧
        text = Text.Utf8.decodeLossy body := by
  constructor
  · rintro rfl
    cases ends with
    | turnedDown bad => exact ⟨_, rfl, bad, rfl⟩
  · rintro ⟨body, rfl, bad, rfl⟩
    cases ends with
    | turnedDown => rfl
    | completed => exact absurd rfl bad
    | unreadable => exact absurd rfl bad

theorem Ends.ok_iff (ends : Ends url arrives result) (s : List Char) :
    result = .ok s ↔
      ∃ body, arrives = .whole 200 body ∧ completionOf (Text.Utf8.decodeLossy body) = .ok s := by
  constructor
  · rintro rfl
    cases ends with
    | completed read => exact ⟨_, rfl, read⟩
  · rintro ⟨body, rfl, read⟩
    cases ends with
    | turnedDown bad => exact absurd rfl bad
    | completed read' => exact read'.symm.trans read
    | unreadable read' => exact read'.symm.trans read

theorem Ends.decode_iff (ends : Ends url arrives result) (detail : String) :
    result = .error (.decode detail) ↔
      ∃ body, arrives = .whole 200 body ∧
        completionOf (Text.Utf8.decodeLossy body) = .error (.decode detail) := by
  constructor
  · rintro rfl
    cases ends with
    | unreadable read => exact ⟨_, rfl, read⟩
  · rintro ⟨body, rfl, read⟩
    cases ends with
    | turnedDown bad => exact absurd rfl bad
    | completed read' => exact read'.symm.trans read
    | unreadable read' => exact read'.symm.trans read

end Classes

/-! ## Calls -/

theorem complete_ends (canSend : c.CanSend names) (host : Web.Request → Behaviour) :
    ∃ url, Ends url (host (c.posted names prompt)).arrival
      (c.complete (fun request => (host request).reply) prompt names).result := by
  obtain ⟨url, request⟩ := c.request_eq_ok prompt canSend
  refine ⟨url, ?_⟩
  rw [complete, request]
  exact resultOf_ends url _

theorem complete_unsendable (cannot : ¬ c.CanSend names) (endpoint : Web.Endpoint) :
    (∃ detail, (c.complete endpoint prompt names).result = .error (.unexpected detail)) ∧
      (c.complete endpoint prompt names).sent = none := by
  obtain ⟨detail, request⟩ := c.request_eq_error prompt cannot
  rw [complete, request]
  exact ⟨⟨detail, rfl⟩, rfl⟩

theorem reply_eq_refused_iff (behaviour : Behaviour) :
    behaviour.reply = .refused ↔ behaviour = .refuses := by
  cases behaviour with
  | refuses => exact ⟨fun _ => rfl, fun _ => rfl⟩
  | keepsSilent => exact ⟨nofun, nofun⟩
  | answers status body missing =>
      refine ⟨fun refused => ?_, nofun⟩
      simp only [Behaviour.reply, Web.Reply.ofWire] at refused
      split at refused
      · cases refused
      split at refused
      · cases refused
      · cases refused

/-- A call sends one request or none. -/
theorem complete_sent_iff (host : Web.Request → Behaviour) (request : Web.Request) :
    (c.complete (fun request => (host request).reply) prompt names).sent = some request ↔
      c.CanSend names ∧ request = c.posted names prompt ∧ host request ≠ .refuses := by
  by_cases canSend : c.CanSend names
  · obtain ⟨url, made⟩ := c.request_eq_ok prompt canSend
    rw [complete, made]
    dsimp only
    rw [ite_eq_iff]
    simp only [reduceCtorEq, and_false, false_or, Option.some.injEq, reply_eq_refused_iff]
    constructor
    · rintro ⟨taken, rfl⟩
      exact ⟨canSend, rfl, taken⟩
    · rintro ⟨-, rfl, taken⟩
      exact ⟨taken, rfl⟩
  · rw [(complete_unsendable prompt canSend _).2]
    exact ⟨nofun, fun sent => absurd sent.1 canSend⟩

/-- A class of results that a call without a request never ends in. -/
theorem complete_class_iff (host : Web.Request → Behaviour)
    {P : Except CompletionFault (List Char) → Prop} {arrives : Arrival → Prop}
    (others : ∀ detail, ¬ P (.error (.unexpected detail)))
    (class_iff : ∀ {url arrival result}, Ends url arrival result → (P result ↔ arrives arrival)) :
    P (c.complete (fun request => (host request).reply) prompt names).result ↔
      c.CanSend names ∧ arrives (host (c.posted names prompt)).arrival := by
  by_cases canSend : c.CanSend names
  · obtain ⟨url, ends⟩ := c.complete_ends prompt canSend host
    rw [class_iff ends, and_iff_right canSend]
  · obtain ⟨⟨detail, unexpected⟩, -⟩ := c.complete_unsendable prompt canSend
      fun request => (host request).reply
    rw [unexpected]
    exact ⟨fun it => absurd it (others detail), fun both => absurd both.1 canSend⟩

theorem ofSettings_of_nonBlank {s : Config.Settings} (nonBlank : Text.trim s.apiKey ≠ []) :
    ofSettings s = .ok {
      key := Text.trim s.apiKey
      url := s.apiUrl
      model := s.model
      temperature := s.temperature } := by
  rw [ofSettings]
  split
  case h_1 blank => exact absurd blank nonBlank
  case h_2 => rfl

end Client

open Client

/-- Every call with a key that is not blank ends in one class of results, however names are brought
into ASCII.  It is the first of these that applies: there is no request to send, no response begins,
its body is cut off, its status is not 200, and the body is or is not a completion. -/
theorem complete_classified (s : Config.Settings) (nonBlank : Text.trim s.apiKey ≠ [])
    (names : Web.Names) (host : Web.Request → Behaviour) (prompt : List Char) :
    ∃ c : Client, ofSettings s = .ok c ∧ c.key = Text.trim s.apiKey ∧ c.url = s.apiUrl ∧
      let done := c.complete (fun request => (host request).reply) prompt names
      let arrives := (host (c.posted names prompt)).arrival
      let sendable := Web.IsSendableAddress names s.apiUrl ∧
        ∀ ch ∈ Text.trim s.apiKey, ¬ Web.IsForbiddenInHeader ch
      ((∃ detail, done.result = .error (.unexpected detail)) ↔ ¬ sendable) ∧
      (∀ request, done.sent = some request ↔
        sendable ∧ request = c.posted names prompt ∧ host request ≠ .refuses) ∧
      ((∃ place, done.result = .error (.transport ("error sending request" ++ place))) ↔
        sendable ∧ arrives = .nothing) ∧
      (done.result = .error (.transport "failed to read response: error decoding response body") ↔
        sendable ∧ arrives = .cutOff) ∧
      ((∃ detail, done.result = .error (.transport detail)) ↔
        sendable ∧ (arrives = .nothing ∨ arrives = .cutOff)) ∧
      (∀ status text, done.result = .error (.status status text) ↔
        sendable ∧ ∃ body, arrives = .whole status body ∧ status ≠ 200 ∧
          text = Text.Utf8.decodeLossy body) ∧
      (∀ detail, done.result = .error (.decode detail) ↔
        sendable ∧ ∃ body, arrives = .whole 200 body ∧
          completionOf (Text.Utf8.decodeLossy body) = .error (.decode detail)) ∧
      (∀ text, done.result = .ok text ↔
        sendable ∧ ∃ body, arrives = .whole 200 body ∧
          completionOf (Text.Utf8.decodeLossy body) = .ok text) ∧
      reportOf done.result = match done.result with
        | .ok text => text
        | .error fault => fault.message.toList := by
  refine ⟨_, ofSettings_of_nonBlank nonBlank, rfl, rfl, ?_⟩
  generalize made : Client.mk (Text.trim s.apiKey) s.apiUrl s.model s.temperature = c
  intro done arrives sendable
  have canSend_iff : c.CanSend names ↔ sendable := by
    rw [← made]
    rfl
  rw [← canSend_iff]
  refine ⟨⟨?_, fun cannot => (c.complete_unsendable prompt cannot _).1⟩,
    c.complete_sent_iff prompt host,
    c.complete_class_iff prompt host (by nofun) Ends.notSent_iff,
    c.complete_class_iff prompt host (by nofun) Ends.cutOff_iff,
    c.complete_class_iff prompt host (by nofun) Ends.transport_iff, ?_, ?_, ?_, rfl⟩
  · rintro ⟨detail, unexpected⟩ canSend
    obtain ⟨url, ends⟩ := c.complete_ends prompt canSend host
    exact ends.ne_unexpected detail unexpected
  · intro status text
    exact c.complete_class_iff prompt host (by nofun) fun ends => ends.status_iff status text
  · intro detail
    exact c.complete_class_iff prompt host (by nofun) fun ends => ends.decode_iff detail
  · intro text
    exact c.complete_class_iff prompt host (by nofun) fun ends => ends.ok_iff text

/-- Settings with blanks around the key. -/
def spacedKey : Config.Settings where
  apiKey := " k ".toList
  apiUrl := "http://m/".toList
  model := Config.Settings.defaultModel.toList
  temperature := Config.Settings.defaultTemperature
  timeoutSeconds := Config.Settings.defaultTimeoutSeconds

/-- An error page that is no text, and one that is cut off as well. -/
theorem errorPages_classified :
    Text.trim spacedKey.apiKey ≠ [] ∧ ∃ c : Client, ofSettings spacedKey = .ok c ∧
      (c.complete (fun _ => (Behaviour.answers 500 [0xff] 0).reply) ['p']).result =
        .error (.status 500 ['\ufffd']) ∧
      (c.complete (fun _ => (Behaviour.answers 500 [0xff] 1).reply) ['p']).result =
        .error (.transport "failed to read response: error decoding response body") := by
  have nonBlank : Text.trim spacedKey.apiKey ≠ [] := by decide
  have visible : ∀ ch ∈ Text.trim spacedKey.apiKey, ¬ Web.IsForbiddenInHeader ch :=
    Web.isHeaderValue_iff.mp (by decide)
  let names := Web.Names.common
  obtain ⟨c, made, -, -, -, -, -, -, -, status, -⟩ :=
    complete_classified spacedKey nonBlank names (fun _ => .answers 500 [0xff] 0) ['p']
  obtain ⟨c', made', -, -, -, -, -, cutOff, -⟩ :=
    complete_classified spacedKey nonBlank names (fun _ => .answers 500 [0xff] 1) ['p']
  cases made.symm.trans made'
  have sendable := Web.shortAddress_sendable names
  refine ⟨nonBlank, c, made, ?_, ?_⟩
  · exact (status 500 _).mpr ⟨⟨sendable, visible⟩, [0xff], rfl, by decide, rfl⟩
  · exact cutOff.mpr ⟨⟨sendable, visible⟩, rfl⟩

/-- A response without content is whole, although its head declares a byte that never comes.  And an
address of the web that can be read does not always make a request, even with a key that can be
sent. -/
theorem noContent_whole_braces_unsent :
    let c (url : List Char) : Client := { key := ['k'], url, model := [], temperature := 0 }
    let noContent := (c "http://m/".toList).complete
      (fun _ => (Behaviour.answers 204 [] 1).reply) ['p']
    let braces := (c "http://\x7bm\x7d/".toList).complete (fun _ => Behaviour.refuses.reply) ['p']
    ((c "http://m/".toList).CanSend Web.Names.common ∧ noContent.result = .error (.status 204 []) ∧
      ∀ detail, noContent.result ≠ .error (.transport detail)) ∧
    (∃ url, Web.Url.parse? Web.Names.common "http://\x7bm\x7d/".toList = some url ∧
      url.HasWebScheme) ∧
    (∀ ch ∈ ['k'], ¬ Web.IsForbiddenInHeader ch) ∧ braces.sent = none ∧
      braces.result = .error (.unexpected
        "failed to build request: builder error for url (http://\x7bm\x7d/)") := by
  intro c noContent braces
  have key : ∀ ch ∈ ['k'], ¬ Web.IsForbiddenInHeader ch := Web.isHeaderValue_iff.mp (by decide)
  have canSend : (c "http://m/".toList).CanSend Web.Names.common :=
    ⟨Web.shortAddress_sendable _, key⟩
  obtain ⟨url, ends⟩ := Client.complete_ends ['p'] canSend fun _ => .answers 204 [] 1
  have status : noContent.result = .error (.status 204 []) :=
    (ends.status_iff 204 []).mpr ⟨[], rfl, by decide, rfl⟩
  refine ⟨⟨canSend, status, fun detail other => ?_⟩, ?_, key, ?_, ?_⟩
  · cases status.symm.trans other
  · refine ⟨{ scheme := "http", host := some (.name "\x7bm\x7d".toList), path := .segments [[]] },
      ?_, .inl rfl⟩
    with_unfolding_all rfl
  · with_unfolding_all rfl
  · with_unfolding_all rfl

end Checkup.Review
