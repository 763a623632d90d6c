import Checkup.Proofs.Command.Outcome
import Checkup.Proofs.Review.Calls

/-!
# Where the key goes

Two runs with different keys differ in nothing but what tells the endpoint who asks.  The runs are
taken in lockstep: everything else that they come to is the same, step by step.

* `Web.Request.OnlyAuthorizationDiffers` relates the requests of the two runs, and
  `Web.AnswersAlike` the endpoints that they meet.
* `Config.Settings.ofProperties_lockstep`: properties that differ in the key make settings that do.
* `Review.Client.Interchangeable`: both keys can be sent, and open the same doors.
  `Review.Client.complete_lockstep`: calls with them end alike.
* `Pipeline.Lockstep` relates how far the two runs have come; `runStage_lockstep` and
  `writeReport_lockstep` keep it, and so does `runStages_lockstep`.
* `Pipeline.key_only_authorizes` puts them together.
-/

namespace Checkup

/-! ## Requests and answers -/

namespace Web

/-- Two requests with given authorizations that have everything else in common. -/
structure Request.OnlyAuthorizationDiffers (value value' : List Char) (r r' : Request) : Prop where
  line : r.line = r'.line
  basic : r.basic = r'.basic
  contentType : r.contentType = r'.contentType
  body : r.body = r'.body
  authorization : r.authorization = value
  authorization' : r'.authorization = value'

/-- Two endpoints do the same with requests that differ in their authorization. -/
def AnswersAlike (value value' : List Char) (endpoint endpoint' : Endpoint) : Prop :=
  ∀ r : Request, endpoint { r with authorization := value } =
    endpoint' { r with authorization := value' }

end Web

/-! ## Settings -/

namespace Config.Settings

/-- A value that can be sent as a key: it has more than blanks, and besides those at its ends only
characters that the value of a header may have. -/
def IsUsableKey (value : List Char) : Prop :=
  Text.trim value ≠ [] ∧ ∀ ch ∈ Text.trim value, ¬ Web.IsForbiddenInHeader ch

/-- Two properties with keys that differ at most in these. -/
structure OnlyKeyDiffers (value value' : List Char) (p p' : Properties) : Prop where
  key : p.get? keyProperty.toList = some value
  key' : p'.get? keyProperty.toList = some value'
  others : ∀ name, name ≠ keyProperty.toList → p.get? name = p'.get? name

variable {value value' : List Char} {p p' : Properties}

theorem OnlyKeyDiffers.timeout (differs : OnlyKeyDiffers value value' p p') :
    p.get? timeoutProperty.toList = p'.get? timeoutProperty.toList :=
  differs.others _ (by decide)

theorem OnlyKeyDiffers.limit (differs : OnlyKeyDiffers value value' p p') : limit? p = limit? p' := by
  rw [limit?, limit?, differs.timeout]

theorem ofProperties_lockstep (differs : OnlyKeyDiffers value value' p p')
    (nonBlank : Text.trim value ≠ []) (nonBlank' : Text.trim value' ≠ [])
    (url : Option (List Char)) :
    (∃ fault, ofProperties p url = .error fault ∧ ofProperties p' url = .error fault) ∨
      ∃ s, ofProperties p url = .ok s ∧ s.apiKey = Text.trim value ∧
        ofProperties p' url = .ok { s with apiKey := Text.trim value' } := by
  have found : (p.get? keyProperty.toList).bind nonBlank? = some (Text.trim value) := by
    rw [differs.key]
    exact nonBlank?_eq_some_iff.mpr ⟨rfl, nonBlank⟩
  have found' : (p'.get? keyProperty.toList).bind nonBlank? = some (Text.trim value') := by
    rw [differs.key']
    exact nonBlank?_eq_some_iff.mpr ⟨rfl, nonBlank'⟩
  rcases limit : limit? p with _ | n
  · obtain ⟨raw, given, failed⟩ := ofProperties_of_no_limit found limit
    obtain ⟨raw', given', failed'⟩ := ofProperties_of_no_limit found' (differs.limit ▸ limit)
    have same : raw = raw' :=
      Option.some.inj (given.symm.trans (differs.timeout.trans given'))
    exact .inl ⟨.badTimeout raw, failed, same ▸ failed'⟩
  · exact .inr ⟨made (Text.trim value) n url, ofProperties_of_limit found limit, rfl,
      ofProperties_of_limit found' (differs.limit ▸ limit)⟩

end Config.Settings

/-! ## Calls -/

namespace Review.Client

/-- A client with another key. -/
def withKey (c : Client) (key : List Char) : Client := { c with key }

/-- The keys of a client and its copy can be sent, and two endpoints that these ask do the same with
either. -/
structure Interchangeable (c : Client) (key : List Char) (endpoint endpoint' : Web.Endpoint) :
    Prop where
  sendable : ∀ ch ∈ c.key, ¬ Web.IsForbiddenInHeader ch
  sendable' : ∀ ch ∈ key, ¬ Web.IsForbiddenInHeader ch
  alike : Web.AnswersAlike c.authorization (c.withKey key).authorization endpoint endpoint'

/-- Requests of a client and of its copy with another key. -/
abbrev SameRequests (c : Client) (key : List Char) : List Web.Request → List Web.Request → Prop :=
  List.Forall₂ (Web.Request.OnlyAuthorizationDiffers c.authorization (c.withKey key).authorization)

variable {c : Client} {key : List Char} {endpoint endpoint' : Web.Endpoint} (names : Web.Names)
  (prompt : List Char)

/-- The request of a client with another key, if there is one, has this key in the authorization. -/
theorem request_withKey (keys : c.Interchangeable key endpoint endpoint') :
    (c.withKey key).request names prompt = (c.request names prompt).map fun (url, request) =>
      (url, { request with authorization := (c.withKey key).authorization }) := by
  have value : Web.isHeaderValue c.authorization = true :=
    isHeaderValue_authorization.mpr keys.sendable
  have value' : Web.isHeaderValue (c.withKey key).authorization = true :=
    isHeaderValue_authorization.mpr keys.sendable'
  have address : (c.withKey key).url = c.url := rfl
  simp only [request, address, value, value', Bool.not_true, Bool.false_eq_true, if_false]
  cases Web.Url.parse? names c.url with
  | none => rfl
  | some url =>
      dsimp only
      split
      · rfl
      split
      · rfl
      split <;> rfl

theorem complete_lockstep (keys : c.Interchangeable key endpoint endpoint') :
    let done := c.complete endpoint prompt names
    let done' := (c.withKey key).complete endpoint' prompt names
    done.result = done'.result ∧ c.SameRequests key done.sent.toList done'.sent.toList := by
  intro done done'
  have made := request_withKey names prompt keys
  by_cases canSend : c.CanSend names
  · obtain ⟨url, request⟩ := c.request_eq_ok prompt canSend
    have same : endpoint (c.posted names prompt) = endpoint' { c.posted names prompt with
        authorization := (c.withKey key).authorization } := keys.alike (c.posted names prompt)
    rw [request] at made
    simp only [done, done', complete, request, made, Except.map, same, true_and]
    split
    · exact .nil
    · exact .cons ⟨rfl, rfl, rfl, rfl, rfl, rfl⟩ .nil
  · obtain ⟨detail, request⟩ := c.request_eq_error prompt canSend
    rw [request] at made
    simp only [done, done', complete, request, made, Except.map, true_and]
    exact .nil

end Review.Client

/-! ## Checkups -/

namespace Pipeline

open Review (Client)

/-- A pipeline whose client has another key. -/
def withKey (p : Pipeline) (key : List Char) : Pipeline := { p with client := p.client.withKey key }

/-- Two checkups that came equally far, with requests that differ in who asks. -/
structure Lockstep (c : Client) (key : List Char) (progress progress' : Progress) : Prop where
  rest : progress' = { progress with sent := progress'.sent }
  sent : c.SameRequests key progress.sent progress'.sent

/-- Writing does not look at what was sent. -/
theorem writeReport_with_sent (progress : Progress) (sent : List Web.Request) (r : Report) :
    writeReport { progress with sent } r =
      ({ (writeReport progress r).1 with sent }, (writeReport progress r).2) := by
  simp only [writeReport]
  generalize (if progress.reports = [] then (progress.sink, true)
    else progress.sink.write [0x0a]) = separated
  generalize (if separated.2 then separated.1.write (Text.Utf8.encode (r.render ++ ['\n']))
    else (separated.1, false)) = whole
  split <;> rfl

theorem writeReport_lockstep {c : Client} {key : List Char} {progress progress' : Progress}
    {r r' : Report} (level : Lockstep c key progress progress') (same : r' = r) :
    Lockstep c key (writeReport progress r).1 (writeReport progress' r').1 ∧
      (writeReport progress' r').2 = (writeReport progress r).2 := by
  have sent : (writeReport progress r).1.sent = progress.sent := (writeReport_effects progress r).2
  rw [same, level.rest, writeReport_with_sent progress progress'.sent r]
  refine ⟨⟨rfl, ?_⟩, rfl⟩
  rw [sent]
  exact level.sent

section Stages

variable {p : Pipeline} {key : List Char} {around : Surroundings} {endpoint : Web.Endpoint}
  (path : String) (code : List Char)

theorem runStage_lockstep {progress progress' : Progress}
    (keys : p.client.Interchangeable key around.endpoint endpoint)
    (level : Lockstep p.client key progress progress') (stage : Stage) :
    let entered := p.runStage around path code progress stage
    let entered' := (p.withKey key).runStage { around with endpoint } path code progress' stage
    Lockstep p.client key entered.1 entered'.1 ∧ entered'.2 = entered.2 := by
  rw [level.rest]
  cases stage with
  | syntactic => exact ⟨⟨rfl, level.sent⟩, rfl⟩
  | static => exact ⟨⟨rfl, level.sent⟩, rfl⟩
  | suggestions =>
      obtain ⟨result, sent⟩ := Client.complete_lockstep around.names (Review.promptFor code) keys
      have sameBody := congrArg Client.reportOf result.symm
      exact ⟨⟨rfl, List.rel_append level.sent sent⟩, congrArg (Report.mk .suggestions) sameBody⟩

theorem runStages_lockstep (keys : p.client.Interchangeable key around.endpoint endpoint)
    (stages : List Stage) : ∀ {progress progress' : Progress},
    Lockstep p.client key progress progress' →
    let ran := p.runStages around path code progress stages
    let ran' := (p.withKey key).runStages { around with endpoint } path code progress' stages
    Lockstep p.client key ran.1 ran'.1 ∧ ran'.2 = ran.2 := by
  induction stages with
  | nil => exact fun level => ⟨level, rfl⟩
  | cons stage stages ih =>
      intro progress progress' level
      obtain ⟨entered, report⟩ := runStage_lockstep path code keys level stage
      obtain ⟨written, hasRoom⟩ := writeReport_lockstep entered report
      simp only [runStages]
      -- the two runs agree on whether there is room, so both go on or both end
      generalize writeReport (p.runStage around path code progress stage).1
        (p.runStage around path code progress stage).2 = next at written hasRoom ⊢
      generalize writeReport
        ((p.withKey key).runStage { around with endpoint } path code progress' stage).1
        ((p.withKey key).runStage { around with endpoint } path code progress' stage).2 =
        next' at written hasRoom ⊢
      obtain ⟨next, room⟩ := next
      obtain ⟨next', room'⟩ := next'
      cases hasRoom
      cases room with
      | true => exact ih written
      | false => exact ⟨written, rfl⟩

theorem run_lockstep (keys : p.client.Interchangeable key around.endpoint endpoint) (sink : Sink) :
    let ran := p.run around path sink
    let ran' := (p.withKey key).run { around with endpoint } path sink
    Lockstep p.client key ran.1 ran'.1 ∧ ran'.2 = ran.2 := by
  simp only [run]
  cases around.files.readText path with
  | error failure => exact ⟨⟨rfl, .nil⟩, rfl⟩
  | ok code =>
      have started : Lockstep p.client key { sink } { sink } := ⟨rfl, .nil⟩
      obtain ⟨level, result⟩ := runStages_lockstep path code keys Stage.all started
      have reports := congrArg Progress.reports level.rest
      dsimp only at result reports ⊢
      exact ⟨level, by rw [result, reports]⟩

end Stages

open Config (Properties Settings)

/-- The key is for the authorization of requests only.  Properties that differ in a usable key both
make no settings, for the same reason, or make settings that differ in the key and are described
alike; and the checkups with these settings, on endpoints that do the same with either key, come to
the same in every respect but the authorization of the request. -/
theorem key_only_authorizes {p p' : Properties} {value value' : List Char}
    (differs : Settings.OnlyKeyDiffers value value' p p') (usable : Settings.IsUsableKey value)
    (usable' : Settings.IsUsableKey value') (url : Option (List Char)) :
    (∃ fault, Settings.ofProperties p url = .error fault ∧
      Settings.ofProperties p' url = .error fault) ∨
    ∃ s s', Settings.ofProperties p url = .ok s ∧ Settings.ofProperties p' url = .ok s' ∧
      s.apiKey = Text.trim value ∧ s' = { s with apiKey := Text.trim value' } ∧
      s.describe = s'.describe ∧
      ∃ c c', Client.ofSettings s = .ok c ∧ Client.ofSettings s' = .ok c' ∧
        ∀ runner around endpoint path sink,
          Web.AnswersAlike ("Bearer ".toList ++ Text.trim value)
            ("Bearer ".toList ++ Text.trim value') around.endpoint endpoint →
          let ran := run { client := c, runner } around path sink
          let ran' := run { client := c', runner } { around with endpoint } path sink
          ran.2 = ran'.2 ∧ ran.1.reports = ran'.1.reports ∧ ran.1.sink = ran'.1.sink ∧
            ran.1.launches = ran'.1.launches ∧
            List.Forall₂ (Web.Request.OnlyAuthorizationDiffers
              ("Bearer ".toList ++ Text.trim value) ("Bearer ".toList ++ Text.trim value'))
              ran.1.sent ran'.1.sent := by
  rcases Settings.ofProperties_lockstep differs usable.1 usable'.1 url with
    bad | ⟨s, accepted, key, accepted'⟩
  · exact .inl bad
  refine .inr ⟨s, _, accepted, accepted', key, rfl, rfl, .forSettings s, _,
    Client.ofSettings_accepted accepted, Client.ofSettings_accepted accepted', ?_⟩
  intro runner around endpoint path sink alike ran ran'
  have bearer : (Client.forSettings s).authorization = "Bearer ".toList ++ Text.trim value :=
    congrArg ("Bearer ".toList ++ ·) key
  rw [← bearer] at alike ⊢
  have keys : (Client.forSettings s).Interchangeable (Text.trim value') around.endpoint endpoint :=
    ⟨fun ch mem => usable.2 ch (key ▸ mem), usable'.2, alike⟩
  let pipeline : Pipeline := { client := .forSettings s, runner }
  obtain ⟨level, result⟩ := run_lockstep (p := pipeline) path keys sink
  exact ⟨result.symm, (congrArg Progress.reports level.rest).symm,
    (congrArg Progress.sink level.rest).symm, (congrArg Progress.launches level.rest).symm,
    level.sent⟩

/-- Properties with a key and a time limit. -/
def keyAndLimit (value : List Char) : Properties :=
  { entries := [(Settings.keyProperty.toList, value), (Settings.timeoutProperty.toList, ['5'])] }

theorem keyAndLimit_differ (value value' : List Char) :
    Settings.OnlyKeyDiffers value value' (keyAndLimit value) (keyAndLimit value') where
  key := by simp [keyAndLimit, Properties.get?]
  key' := by simp [keyAndLimit, Properties.get?]
  others := by
    intro name other
    simp [keyAndLimit, Properties.get?, List.lookup_cons, beq_false_of_ne other]

/-- What a host does that only one key opens. -/
def doorkeeper (key : List Char) (r : Web.Request) : Web.Behaviour :=
  if r.authorization = "Bearer ".toList ++ key then .answers 500 [] 0 else .refuses

/-- A program, and a host that only one key opens. -/
def behindDoor (key : List Char) : Surroundings where
  files := fun _ => .ok (Text.Utf8.encode "pass\n".toList)
  programs := fun _ => .error Lint.noProgram
  endpoint := fun r => (doorkeeper key r).reply

theorem doorkeepers_alike (key key' : List Char) :
    Web.AnswersAlike ("Bearer ".toList ++ key) ("Bearer ".toList ++ key')
      (behindDoor key).endpoint (behindDoor key').endpoint := by
  intro r
  simp only [behindDoor, doorkeeper, if_true]

theorem doorkeeper_asked {c : Client} {names : Web.Names} (canSend : c.CanSend names)
    (prompt : List Char) :
    (c.complete (behindDoor c.key).endpoint prompt names).sent = some (c.posted names prompt) := by
  refine (Client.complete_sent_iff prompt (doorkeeper c.key) _).mpr ⟨canSend, rfl, ?_⟩
  have opens : (c.posted names prompt).authorization = "Bearer ".toList ++ c.key := rfl
  rw [doorkeeper, if_pos opens]
  nofun

theorem doors_opened :
    let p := keyAndLimit " one\n".toList
    let p' := keyAndLimit "two".toList
    let url := some "http://m/".toList
    ∃ s s', Settings.ofProperties p url = .ok s ∧ Settings.ofProperties p' url = .ok s' ∧
      s.describe = s'.describe ∧
      ∃ c c', Client.ofSettings s = .ok c ∧ Client.ofSettings s' = .ok c' ∧
        let ran := run { client := c } (behindDoor "one".toList) "target.py" {}
        let ran' := run { client := c' } (behindDoor "two".toList) "target.py" {}
        ran.2 = ran'.2 ∧ ∃ r r', ran.1.sent = [r] ∧ ran'.1.sent = [r'] ∧ r.body = r'.body ∧
          r.authorization = "Bearer one".toList ∧ r'.authorization = "Bearer two".toList := by
  intro p p' url
  have usable : Settings.IsUsableKey " one\n".toList :=
    ⟨by decide, Web.isHeaderValue_iff.mp (by decide)⟩
  have usable' : Settings.IsUsableKey "two".toList :=
    ⟨by decide, Web.isHeaderValue_iff.mp (by decide)⟩
  rcases key_only_authorizes (keyAndLimit_differ _ _) usable usable' url with
    ⟨fault, bad, -⟩ | ⟨s, s', accepted, accepted', key, -, described, c, c', made, made', alike⟩
  · cases bad
  obtain ⟨result, -, -, -, sent⟩ := alike {} (behindDoor "one".toList) _ "target.py" {}
    (doorkeepers_alike "one".toList "two".toList)
  refine ⟨s, s', accepted, accepted', described, c, c', made, made', result, ?_⟩
  have canSend : c.CanSend Web.Names.common ∧ c.key = "one".toList := by
    cases accepted
    cases made
    exact ⟨⟨Web.shortAddress_sendable _, usable.2⟩, rfl⟩
  have first : (run { client := c } (behindDoor "one".toList) "target.py" {}).1.sent =
      [c.posted Web.Names.common (Review.promptFor "pass\n".toList)] := by
    have readable : (behindDoor "one".toList).files "target.py" =
        .ok (Text.Utf8.encode "pass\n".toList) := rfl
    obtain ⟨-, -, -, sent⟩ := run_readable { client := c } readable
    rw [sent, suggest, ← canSend.2]
    exact congrArg Option.toList (doorkeeper_asked canSend.1 _)
  rw [first] at sent ⊢
  obtain ⟨r', others, differ, none, second⟩ := List.forall₂_cons_left_iff.mp sent
  cases List.forall₂_nil_left_iff.mp none
  exact ⟨_, r', rfl, second, differ.body, differ.authorization, differ.authorization'⟩

end Pipeline

end Checkup
