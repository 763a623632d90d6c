import Mathlib.Data.List.Basic
import Checkup.Web.Exchange

/-!
# Addresses that requests can be sent to

* `Escapes.clear_escape`: a text is free of the characters that were escaped in it.
* `Url.IsOfWeb` is what the parts of an address of the web are free of, and `Url.isOfWeb_of_parse?`
  finds it so in all that can be read, however names are brought into ASCII.
* `Url.IsOfWeb.namedHost?_isSome`: an address of the web has a host with a name.
* `isHeaderValue_iff`: what a text must not have in it to be the value of a header.  By
  `isHeaderValue_basicAuthorization`, credentials in an address never have it.
-/

namespace Checkup.Web

/-! ## Escapes -/

/-- A text without characters of a set. -/
def Escapes.Clear (set : Escapes) (cs : List Char) : Prop := ∀ c ∈ cs, set c = false

instance (set : Escapes) (cs : List Char) : Decidable (set.Clear cs) :=
  List.decidableBAll (set · = false) cs

/-- The signs that escapes are written with. -/
def escapeSigns : List Char := "%0123456789ABCDEF".toList

theorem hexDigit_mem : ∀ n < 16, hexDigit n ∈ escapeSigns := by decide

theorem mem_escapeSigns {b : UInt8} {c : Char} (mem : c ∈ escapeByte b) : c ∈ escapeSigns := by
  have high : b.toNat / 16 < 16 := Nat.div_lt_of_lt_mul b.toNat_lt
  have low : b.toNat % 16 < 16 := Nat.mod_lt _ (by decide)
  rw [escapeByte, List.mem_cons, List.mem_cons, List.mem_singleton] at mem
  rcases mem with rfl | rfl | rfl
  · exact List.mem_cons_self
  · exact hexDigit_mem _ high
  · exact hexDigit_mem _ low

/-- A text is free of the characters escaped in it, unless escapes are written with them. -/
theorem Escapes.clear_escape {set : Escapes} (signs : set.Clear escapeSigns) (cs : List Char) :
    set.Clear (escape set cs) := by
  intro c mem
  obtain ⟨d, -, mem⟩ := List.mem_flatMap.mp mem
  split at mem
  · obtain ⟨b, -, mem⟩ := List.mem_flatMap.mp mem
    exact signs c (mem_escapeSigns mem)
  case isFalse kept =>
    rw [List.mem_singleton.mp mem]
    exact Bool.eq_false_iff.mpr kept

/-! ## Hosts -/

namespace Host

variable {names : Names} {cs : List Char} {host : Host}

/-- Hosts in addresses of the web. -/
inductive IsOfWeb : Host → Prop
  | name {name : List Char} : name ≠ [] → (∀ c ∈ name, isForbiddenInName c = false) →
    IsOfWeb (.name name)
  | short (address : Nat) : IsOfWeb (.short address)
  | long {groups : List Nat} : groups.length = 8 → IsOfWeb (.long groups)

theorem isOfWeb_of_parseLong? (parsed : parseLong? cs = some host) : host.IsOfWeb := by
  unfold parseLong? at parsed
  split at parsed
  · obtain ⟨groups, -, parsed⟩ := Option.bind_eq_some_iff.mp parsed
    split at parsed
    case isTrue eight =>
      cases parsed
      exact .long eight
    case isFalse => cases parsed
  · split at parsed
    · cases parsed
    obtain ⟨high, -, parsed⟩ := Option.bind_eq_some_iff.mp parsed
    obtain ⟨low, -, parsed⟩ := Option.bind_eq_some_iff.mp parsed
    dsimp only at parsed
    split at parsed
    case isTrue => cases parsed
    case isFalse gap =>
      cases parsed
      refine .long ?_
      rw [List.length_append, List.length_append, List.length_replicate]
      omega

theorem isOfWeb_of_parseShort? (parsed : parseShort? cs = some host) : host.IsOfWeb := by
  unfold parseShort? at parsed
  dsimp only at parsed
  split at parsed
  · cases parsed
  obtain ⟨numbers, -, parsed⟩ := Option.bind_eq_some_iff.mp parsed
  obtain ⟨last, -, parsed⟩ := Option.bind_eq_some_iff.mp parsed
  split at parsed
  · cases parsed
  · cases parsed
    exact .short _

/-- What names come to in ASCII is looked at afterwards. -/
theorem isOfWeb_of_parse? (parsed : parse? names cs = some host) : host.IsOfWeb := by
  unfold parse? at parsed
  split at parsed
  · obtain ⟨inside, -, parsed⟩ := Option.bind_eq_some_iff.mp parsed
    exact isOfWeb_of_parseLong? parsed
  · obtain ⟨text, -, parsed⟩ := Option.bind_eq_some_iff.mp parsed
    obtain ⟨name, -, parsed⟩ := Option.bind_eq_some_iff.mp parsed
    split at parsed
    · cases parsed
    case isFalse allowed =>
      split at parsed
      · exact isOfWeb_of_parseShort? parsed
      · cases parsed
        simp only [Bool.or_eq_true, decide_eq_true_eq, List.any_eq_true, not_or, not_exists,
          not_and, Bool.not_eq_true] at allowed
        exact .name allowed.1 allowed.2

theorem IsOfWeb.ne_nameless (ofWeb : host.IsOfWeb) : host ≠ .name [] := by
  cases ofWeb with
  | name nonempty =>
      intro nameless
      exact nonempty (Host.name.inj nameless)
  | short => nofun
  | long => nofun

end Host

/-! ## Addresses -/

namespace Url

variable {names : Names} {url parsed : Url} {cs text : List Char}

/-- The schemes of pages and of what programs send. -/
def HasWebScheme (url : Url) : Prop := url.scheme = "http" ∨ url.scheme = "https"

/-- The parts of an address of the web in its normal form. -/
structure IsOfWeb (url : Url) : Prop where
  user : Escapes.user.Clear url.user
  password : Escapes.user.Clear url.password
  host : ∃ host, url.host = some host ∧ host.IsOfWeb
  path : ∃ segments, url.path = .segments segments ∧ ∀ s ∈ segments, Escapes.path.Clear s
  query : ∀ query, url.query = some query → Escapes.specialQuery.Clear query

theorem mem_of_mem_goUp {isFile : Bool} {segments : List (List Char)} {s : List Char}
    (mem : s ∈ goUp isFile segments) : s ∈ segments := by
  rw [goUp] at mem
  split at mem
  · exact mem
  · exact List.dropLast_subset segments mem

theorem clear_addSegments {isFile : Bool} (rest : List (List Char)) :
    ∀ {done : List (List Char)}, (∀ s ∈ done, Escapes.path.Clear s) →
      ∀ s ∈ addSegments isFile done rest, Escapes.path.Clear s := by
  have clear_ending {b : Bool} : ∀ s ∈ if b then [[]] else [], Escapes.path.Clear s := by
    cases b <;> simp [Escapes.Clear]
  induction rest with
  | nil => exact fun clear => clear
  | cons segment rest ih =>
      intro done clear
      rw [addSegments]
      split
      · exact ih (List.forall_mem_append.mpr
          ⟨fun s mem => clear s (mem_of_mem_goUp mem), clear_ending⟩)
      · exact ih (List.forall_mem_append.mpr ⟨clear, clear_ending⟩)
      · refine ih (List.forall_mem_append.mpr ⟨clear, List.forall_mem_singleton.mpr ?_⟩)
        exact Escapes.clear_escape (by decide) _

theorem parsePathAfterHost_eq (scheme : String) (cs : List Char) :
    ∃ segments, parsePathAfterHost scheme cs = .segments segments ∧
      ∀ s ∈ segments, Escapes.path.Clear s := by
  have clear_nothing : ∀ s ∈ ([] : List (List Char)), Escapes.path.Clear s := List.forall_mem_nil _
  cases cs with
  | nil =>
      rw [parsePathAfterHost]
      split
      · exact ⟨_, rfl, List.forall_mem_singleton.mpr (List.forall_mem_nil _)⟩
      · exact ⟨_, rfl, clear_nothing⟩
  | cons c cs => exact ⟨_, rfl, clear_addSegments _ clear_nothing⟩

/-- An address with user, host and port put into it. -/
structure HasAuthority (url parsed : Url) : Prop where
  rest : parsed = { url with
    user := parsed.user, password := parsed.password, host := parsed.host, port := parsed.port }
  user : Escapes.user.Clear parsed.user
  password : Escapes.user.Clear parsed.password
  host : isSpecial url.scheme = true → ∃ host, parsed.host = some host ∧ host.IsOfWeb

theorem hasAuthority_of_withAuthority? (found : withAuthority? names url cs = some parsed) :
    HasAuthority url parsed := by
  have clear : ∀ part, Escapes.user.Clear (escape .user part) := Escapes.clear_escape (by decide)
  unfold withAuthority? at found
  dsimp only at found
  split at found
  · cases found
  split at found
  · cases found
  split at found
  case isTrue =>
    obtain ⟨host, isHost, found⟩ := Option.bind_eq_some_iff.mp found
    obtain ⟨port, -, found⟩ := Option.bind_eq_some_iff.mp found
    cases found
    exact ⟨rfl, clear _, clear _, fun _ => ⟨host, rfl, Host.isOfWeb_of_parse? isHost⟩⟩
  case isFalse other =>
    obtain ⟨host, -, found⟩ := Option.bind_eq_some_iff.mp found
    obtain ⟨port, -, found⟩ := Option.bind_eq_some_iff.mp found
    cases found
    exact ⟨rfl, clear _, clear _, fun special => absurd special other⟩

theorem scheme_of_parseFile? (found : parseFile? names url cs = some parsed) :
    parsed.scheme = url.scheme := by
  unfold parseFile? at found
  dsimp only at found
  split at found
  · split at found
    · split at found
      · cases found
        rfl
      split at found
      · cases found
        rfl
      · obtain ⟨host, -, found⟩ := Option.bind_eq_some_iff.mp found
        cases found
        rfl
    · cases found
      rfl
  · cases found
    rfl

/-- The parts of an address of the web are in their normal form as soon as it can be read. -/
theorem isOfWeb_of_parse? (found : parse? names text = some parsed) (web : parsed.HasWebScheme) :
    parsed.IsOfWeb := by
  unfold parse? at found
  obtain ⟨⟨scheme, rest⟩, -, found⟩ := Option.bind_eq_some_iff.mp found
  dsimp only at found
  have special : parsed.scheme = scheme → scheme ≠ "file" ∧ isSpecial scheme = true := by
    rintro rfl
    rcases web with http | https
    · rw [http]
      decide
    · rw [https]
      decide
  split at found
  case isTrue file => exact absurd file (special (scheme_of_parseFile? found)).1
  case isFalse =>
    split at found
    case isTrue isSpecial =>
      obtain ⟨url, withHost, found⟩ := Option.bind_eq_some_iff.mp found
      cases found
      have authority := hasAuthority_of_withAuthority? withHost
      refine ⟨authority.user, authority.password, authority.host isSpecial,
        parsePathAfterHost_eq _ _, fun query given => ?_⟩
      rw [authority.rest] at given
      obtain ⟨text, -, rfl⟩ := Option.map_eq_some_iff.mp given
      exact Escapes.clear_escape (by decide) text
    case isFalse other =>
      -- no address with another scheme is one of the web
      have sameScheme : parsed.scheme = scheme := by
        split at found
        · obtain ⟨url, withHost, found⟩ := Option.bind_eq_some_iff.mp found
          cases found
          exact congrArg Url.scheme (hasAuthority_of_withAuthority? withHost).rest
        · cases found
          rfl
        · cases found
          rfl
      exact absurd (special sameScheme).2 other

@[simp]
theorem withoutCredentials_scheme (url : Url) : url.withoutCredentials.scheme = url.scheme := by
  rw [withoutCredentials]
  split <;> rfl

@[simp]
theorem withoutCredentials_host (url : Url) : url.withoutCredentials.host = url.host := by
  rw [withoutCredentials]
  split <;> rfl

@[simp]
theorem withoutCredentials_target (url : Url) : url.withoutCredentials.target = url.target := by
  rw [withoutCredentials]
  split <;> rfl

theorem IsOfWeb.withoutCredentials (ofWeb : url.IsOfWeb) : url.withoutCredentials.IsOfWeb := by
  rw [Url.withoutCredentials]
  split
  · exact ⟨nofun, nofun, ofWeb.host, ofWeb.path, ofWeb.query⟩
  · exact ofWeb

/-- An address of the web has a host with a name. -/
theorem IsOfWeb.namedHost?_isSome (ofWeb : url.IsOfWeb) : url.namedHost?.isSome = true := by
  obtain ⟨host, isHost, ofWeb⟩ := ofWeb.host
  simp [namedHost?, isHost, ofWeb.ne_nameless]

end Url

/-! ## Headers -/

/-- Characters that no value of a header has: the controls but the tab, and the one that deletes. -/
def IsForbiddenInHeader (c : Char) : Prop := c < ' ' ∧ c ≠ '\t' ∨ c = '\x7f'

instance : DecidablePred IsForbiddenInHeader := fun c =>
  inferInstanceAs (Decidable (c < ' ' ∧ c ≠ '\t' ∨ c = '\x7f'))

theorem isHeaderValue_iff {cs : List Char} :
    isHeaderValue cs = true ↔ ∀ c ∈ cs, ¬ IsForbiddenInHeader c := by
  rw [isHeaderValue, List.all_eq_true]
  refine forall₂_congr fun c _ => ?_
  have visible : ' ' ≤ c ↔ ¬ c < ' ' := Char.not_lt.symm
  simp only [Bool.or_eq_true, Bool.and_eq_true, decide_eq_true_eq, visible, IsForbiddenInHeader,
    not_or, not_and, Decidable.not_not]
  constructor
  · rintro (rfl | ⟨shown, kept⟩)
    · decide
    · exact ⟨fun control => absurd control shown, kept⟩
  · rintro ⟨onlyTab, kept⟩
    by_cases control : c < ' '
    · exact .inl (onlyTab control)
    · exact .inr ⟨control, kept⟩

theorem Base64.sign_allowed (n : Nat) : ¬ IsForbiddenInHeader (sign n) := by
  have signs : ∀ n < 64, isHeaderValue [sign n] = true := by decide
  by_cases six : n < 64
  · exact isHeaderValue_iff.mp (signs n six) _ List.mem_cons_self
  · have slash : sign n = '/' := by
      simp only [sign]
      repeat rw [if_neg (by omega)]
    rw [slash]
    decide

/-- The credentials in an address can always be sent, as Base64 has no controls. -/
theorem isHeaderValue_basicAuthorization (user : List Char) (password : Option (List Char)) :
    isHeaderValue (basicAuthorization user password) = true := by
  have signs (bytes : List UInt8) : ∀ c ∈ Base64.encode bytes, ¬ IsForbiddenInHeader c := by
    have equals : ¬ IsForbiddenInHeader '=' := by decide
    induction bytes using Base64.encode.induct with
    | case1 => exact nofun
    | case2 a => simp [Base64.encode, Base64.sign_allowed, equals]
    | case3 a b => simp [Base64.encode, Base64.sign_allowed, equals]
    | case4 a b c rest ih => simpa [Base64.encode, Base64.sign_allowed] using ih
  have scheme : isHeaderValue "Basic ".toList = true := by decide
  exact isHeaderValue_iff.mpr (List.forall_mem_append.mpr ⟨isHeaderValue_iff.mp scheme, signs _⟩)

end Checkup.Web
