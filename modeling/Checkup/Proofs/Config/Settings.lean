import Mathlib.Data.Nat.Digits.Defs
import Checkup.Config.Settings
import Checkup.Proofs.Config.Joining
import Checkup.Proofs.Text.Utf8

/-!
# Which settings a text makes

* `seconds?_eq_some_iff`: which texts are numbers of seconds.
* `ofProperties_of_key`: what properties with a key make.
* `load_decided`: which texts make settings and which ones, and what is wrong with the others.
-/

namespace Checkup

namespace Files

/-- A file can be read if its bytes are a text. -/
theorem readText_eq_ok_iff {files : Files} {path : String} {text : List Char} :
    files.readText path = .ok text ↔ files path = .ok (Text.Utf8.encode text) := by
  rw [readText]
  rcases found : files path with fault | bytes
  · cases fault <;> simp
  · rw [Except.ok.injEq, ← Text.Utf8.decode?_eq_some_iff]
    cases decoded : Text.Utf8.decode? bytes <;> simp [decoded]

end Files

namespace Config.Settings

variable {cs kept key value : List Char} {n : Nat} {lines : List (List Char)} {p : Properties}
  {url : Option (List Char)} {s : Settings}

/-! ## Numbers of seconds -/

/-- A text for a number of seconds: a plus sign or none, then digits for a number that is not zero
and fits in 64 bits. -/
def IsSeconds (value : List Char) (n : Nat) : Prop :=
  ∃ digits, (value = digits ∨ value = '+' :: digits) ∧ digits ≠ [] ∧
    (∀ c ∈ digits, c.isDigit = true) ∧
    Nat.ofDigits 10 (digits.reverse.map fun c => c.toNat - '0'.toNat) = n ∧
    1 ≤ n ∧ n ≤ 2 ^ 64 - 1

theorem isDigit_eq (c : Char) : isDigit c = c.isDigit := by
  rw [isDigit, Char.isDigit]
  rfl

/-- The number that digits make, if there are any. -/
def number? (digits : List Char) : Option Nat :=
  if digits ≠ [] && digits.all isDigit then
    let n := digits.foldl (fun n c => 10 * n + (c.toNat - '0'.toNat)) 0
    if 0 < n && n < secondsBound then some n else none
  else none

theorem foldl_eq_ofDigits (digits : List Char) :
    digits.foldl (fun n c => 10 * n + (c.toNat - '0'.toNat)) 0 =
      Nat.ofDigits 10 (digits.reverse.map fun c => c.toNat - '0'.toNat) := by
  rw [Nat.ofDigits_eq_foldr, List.foldr_map, List.foldr_reverse]
  simp only [Nat.cast_id, Nat.add_comm]

theorem number?_eq_some_iff {digits : List Char} :
    number? digits = some n ↔ digits ≠ [] ∧ (∀ c ∈ digits, c.isDigit = true) ∧
      Nat.ofDigits 10 (digits.reverse.map fun c => c.toNat - '0'.toNat) = n ∧
      1 ≤ n ∧ n ≤ 2 ^ 64 - 1 := by
  have allDigits : (digits ≠ [] && digits.all isDigit) = true ↔
      digits ≠ [] ∧ ∀ c ∈ digits, c.isDigit = true := by
    simp only [Bool.and_eq_true, decide_eq_true_eq, List.all_eq_true, isDigit_eq]
  rw [← and_assoc, ← allDigits, number?, foldl_eq_ofDigits]
  generalize Nat.ofDigits 10 (digits.reverse.map fun c => c.toNat - '0'.toNat) = m
  split
  case isFalse other => exact iff_of_false nofun fun all => other all.1
  case isTrue all =>
    rw [and_iff_right all]
    simp only [Bool.and_eq_true, decide_eq_true_eq, Option.ite_none_right_eq_some,
      Option.some.injEq]
    unfold secondsBound
    omega

theorem seconds?_plus (digits : List Char) : seconds? ('+' :: digits) = number? digits := rfl

theorem seconds?_of_no_plus (none : cs.head? ≠ some '+') : seconds? cs = number? cs := by
  unfold seconds?
  split
  case h_1 => exact (none rfl).elim
  case h_2 => rfl

theorem seconds?_eq_some_iff : seconds? value = some n ↔ IsSeconds value n := by
  by_cases sign : value.head? = some '+'
  · obtain ⟨digits, rfl⟩ := List.head?_eq_some_iff.mp sign
    rw [seconds?_plus, number?_eq_some_iff]
    constructor
    · intro number
      exact ⟨digits, .inr rfl, number⟩
    · intro number
      rcases number with ⟨other, same | same, number⟩
      · -- a sign is no digit
        have digit := number.2.1 '+' (same ▸ List.mem_cons_self)
        cases digit
      · cases same
        exact number
  · rw [seconds?_of_no_plus sign, number?_eq_some_iff]
    constructor
    · intro number
      exact ⟨value, .inl rfl, number⟩
    · intro number
      rcases number with ⟨digits, rfl | rfl, number⟩
      · exact number
      · exact (sign rfl).elim

/-! ## The key and the address -/

theorem nonBlank?_eq_some_iff : nonBlank? cs = some kept ↔ Text.trim cs = kept ∧ kept ≠ [] := by
  rw [nonBlank?]
  split
  case isTrue nothing => simp [nothing, eq_comm]
  case isFalse something =>
    rw [Option.some.injEq]
    exact ⟨fun same => ⟨same, same ▸ something⟩, And.left⟩

/-- The address for one from outside or none. -/
def addressFor : Option (List Char) → List Char
  | none => defaultUrl.toList
  | some url => if Text.trim url = [] then defaultUrl.toList else Text.trim url

theorem getD_nonBlank? (url : Option (List Char)) :
    (url.bind nonBlank?).getD defaultUrl.toList = addressFor url := by
  cases url with
  | none => rfl
  | some url =>
      rw [Option.bind_some, nonBlank?, addressFor]
      split <;> rfl

/-- The settings with a key and a time limit, for an address from outside or none. -/
def made (key : List Char) (seconds : Nat) (url : Option (List Char)) : Settings where
  apiKey := key
  apiUrl := addressFor url
  model := "deepseek/deepseek-chat".toList
  temperature := 0.7
  timeoutSeconds := seconds

/-! ## What properties make -/

theorem ofProperties_of_no_key (none : (p.get? keyProperty.toList).bind nonBlank? = none) :
    ofProperties p url = .error .noKey := by
  rw [ofProperties, none]

/-- The time limit that properties have, a minute if they name none. -/
def limit? (p : Properties) : Option Nat :=
  match p.get? timeoutProperty.toList with
  | none => some 60
  | some raw => seconds? raw

theorem ofProperties_of_limit (found : (p.get? keyProperty.toList).bind nonBlank? = some key)
    (limit : limit? p = some n) : ofProperties p url = .ok (made key n url) := by
  unfold limit? at limit
  rw [ofProperties, found]
  dsimp only
  rw [getD_nonBlank?]
  cases given : p.get? timeoutProperty.toList with
  | none =>
      rw [given] at limit
      cases limit
      rfl
  | some raw =>
      rw [given] at limit
      dsimp only at limit ⊢
      rw [limit]
      rfl

theorem ofProperties_of_no_limit (found : (p.get? keyProperty.toList).bind nonBlank? = some key)
    (limit : limit? p = none) :
    ∃ raw, p.get? timeoutProperty.toList = some raw ∧
      ofProperties p url = .error (.badTimeout raw) := by
  unfold limit? at limit
  rw [ofProperties, found]
  cases given : p.get? timeoutProperty.toList with
  | none =>
      rw [given] at limit
      cases limit
  | some raw =>
      rw [given] at limit
      dsimp only at limit ⊢
      rw [limit]
      exact ⟨raw, rfl, rfl⟩

/-! ## What a text makes -/

/-- The last line with the key gives it, and it is not empty. -/
def HasKey (lines : List (List Char)) (key : List Char) : Prop :=
  GivesLast lines "DEEPSEEK_API_KEY".toList key ∧ key ≠ []

/-- The last line with a time limit gives it, or there is no such line and it is a minute. -/
def HasLimit (lines : List (List Char)) (n : Nat) : Prop :=
  (∀ line ∈ lines, ∀ value, ¬ Gives line "REQUEST_TIMEOUT_SECS".toList value) ∧ n = 60 ∨
    ∃ value, GivesLast lines "REQUEST_TIMEOUT_SECS".toList value ∧ IsSeconds value n

section Read

variable {text : List Char} (read : Properties.parse text = .ok p)
include read

theorem key_of_parse :
    (p.get? keyProperty.toList).bind nonBlank? = some key ↔ HasKey (Text.lines text) key := by
  rw [Option.bind_eq_some_iff]
  simp only [Properties.get?_parse_iff read, nonBlank?_eq_some_iff]
  constructor
  · intro found
    obtain ⟨value, last, same, some_key⟩ := found
    rw [last.trim_value] at same
    exact ⟨same ▸ last, some_key⟩
  · intro found
    exact ⟨key, found.1, found.1.trim_value, found.2⟩

theorem limit_of_parse : limit? p = some n ↔ HasLimit (Text.lines text) n := by
  have given (value : List Char) := @Properties.get?_parse_iff timeoutProperty.toList value _ _ read
  unfold limit? HasLimit
  cases found : p.get? timeoutProperty.toList with
  | none =>
      rw [found] at given
      constructor
      · intro minute
        refine .inl ⟨?_, (Option.some.inj minute).symm⟩
        intro line mem value gives
        obtain ⟨v, last⟩ := exists_givesLast_iff.mpr ⟨line, mem, value, gives⟩
        exact nomatch (given v).mpr last
      · intro limit
        rcases limit with ⟨-, minute⟩ | ⟨value, last, -⟩
        · rw [minute]
        · exact nomatch (given value).mpr last
  | some raw =>
      rw [found] at given
      have last := (given raw).mp rfl
      constructor
      · intro seconds
        exact .inr ⟨raw, last, seconds?_eq_some_iff.mp seconds⟩
      · intro limit
        rcases limit with ⟨absent, -⟩ | ⟨value, other, seconds⟩
        · obtain ⟨line, mem, v, gives⟩ := exists_givesLast_iff.mp ⟨raw, last⟩
          exact (absent line mem v gives).elim
        · have same : raw = value := Option.some.inj ((given value).mpr other)
          exact seconds?_eq_some_iff.mpr (same ▸ seconds)

end Read

section Load

variable {files : Files} {path : String} {text : List Char}
  (utf8 : files path = .ok (Text.Utf8.encode text)) (url : Option (List Char))
include utf8

theorem load_of_fault {f : PropertiesFault} (failed : Properties.parse text = .error f) :
    load files path url =
      .error (.config ("line " ++ Nat.repr f.line ++ ": " ++ f.fault.message)) := by
  rw [load, Files.readText_eq_ok_iff.mpr utf8]
  show ofText text url = _
  rw [ofText, Properties.ofText, failed]
  rfl

theorem load_of_parse (read : Properties.parse text = .ok p) :
    load files path url = (ofProperties p url).mapError SettingsFault.failure := by
  rw [load, Files.readText_eq_ok_iff.mpr utf8]
  show ofText text url = _
  rw [ofText, Properties.ofText, read]
  rfl

theorem load_of_no_key (read : Properties.parse text = .ok p)
    (none : ¬ ∃ key, HasKey (Text.lines text) key) :
    load files path url = .error (.config "DEEPSEEK_API_KEY not found in .env file") := by
  have missing : (p.get? keyProperty.toList).bind nonBlank? = .none :=
    Option.eq_none_iff_forall_ne_some.mpr fun key found =>
      none ⟨key, (key_of_parse read).mp found⟩
  rw [load_of_parse utf8 url read, ofProperties_of_no_key missing]
  rfl

theorem load_of_limit (read : Properties.parse text = .ok p)
    (hasKey : HasKey (Text.lines text) key) (hasLimit : HasLimit (Text.lines text) n) :
    load files path url = .ok (made key n url) := by
  have found := (key_of_parse read).mpr hasKey
  rw [load_of_parse utf8 url read, ofProperties_of_limit found ((limit_of_parse read).mpr hasLimit)]
  rfl

theorem load_of_no_limit (read : Properties.parse text = .ok p)
    (hasKey : HasKey (Text.lines text) key) (none : ¬ ∃ n, HasLimit (Text.lines text) n) :
    ∃ value, GivesLast (Text.lines text) "REQUEST_TIMEOUT_SECS".toList value ∧
      load files path url = .error (.config ("REQUEST_TIMEOUT_SECS must be a positive integer, got "
        ++ String.ofList (Text.quoted value))) := by
  have found := (key_of_parse read).mpr hasKey
  have missing : limit? p = .none := Option.eq_none_iff_forall_ne_some.mpr fun n limit =>
    none ⟨n, (limit_of_parse read).mp limit⟩
  obtain ⟨value, given, failed⟩ := ofProperties_of_no_limit found missing
  refine ⟨value, (Properties.get?_parse_iff read).mp given, ?_⟩
  rw [load_of_parse utf8 url read, failed]
  rfl

end Load

/-- A file with a text makes settings exactly if its lines are well-formed, the last line with a key
gives one, and the last line with a time limit, if there is one, gives a number of seconds.  The
settings have this key and this limit, and the address from outside unless that is blank.  Otherwise
it is told what is wrong with the first malformed line; or else that there is no key; or else that
the limit is no number of seconds. -/
theorem load_decided {files : Files} {path : String} {text : List Char}
    (utf8 : files path = .ok (Text.Utf8.encode text)) (url : Option (List Char)) :
    (∀ s, load files path url = .ok s ↔
      (∀ line ∈ Text.lines text, IsWellFormed line) ∧
        ∃ key n, HasKey (Text.lines text) key ∧ HasLimit (Text.lines text) n ∧ s = made key n url) ∧
    ((¬ ∀ line ∈ Text.lines text, IsWellFormed line) →
      ∃ f, IsFirstFault (Text.lines text) f ∧ load files path url =
        .error (.config ("line " ++ Nat.repr f.line ++ ": " ++ f.fault.message))) ∧
    ((∀ line ∈ Text.lines text, IsWellFormed line) → (¬ ∃ key, HasKey (Text.lines text) key) →
      load files path url = .error (.config "DEEPSEEK_API_KEY not found in .env file")) ∧
    ((∀ line ∈ Text.lines text, IsWellFormed line) → (∃ key, HasKey (Text.lines text) key) →
      (¬ ∃ n, HasLimit (Text.lines text) n) →
      ∃ value, GivesLast (Text.lines text) "REQUEST_TIMEOUT_SECS".toList value ∧
        load files path url = .error (.config
          ("REQUEST_TIMEOUT_SECS must be a positive integer, got " ++
            String.ofList (Text.quoted value)))) := by
  simp only [isWellFormed_iff, ← Properties.exists_parse_iff]
  refine ⟨fun s => ⟨?_, ?_⟩, ?_, ?_, ?_⟩
  · intro loaded
    rcases read : Properties.parse text with f | p
    · rw [load_of_fault utf8 url read] at loaded
      cases loaded
    by_cases someKey : ∃ key, HasKey (Text.lines text) key
    · obtain ⟨key, hasKey⟩ := someKey
      by_cases someLimit : ∃ n, HasLimit (Text.lines text) n
      · obtain ⟨n, hasLimit⟩ := someLimit
        rw [load_of_limit utf8 url read hasKey hasLimit] at loaded
        cases loaded
        exact ⟨⟨p, rfl⟩, key, n, hasKey, hasLimit, rfl⟩
      · obtain ⟨value, -, failed⟩ := load_of_no_limit utf8 url read hasKey someLimit
        cases failed.symm.trans loaded
    · cases (load_of_no_key utf8 url read someKey).symm.trans loaded
  · intro found
    obtain ⟨⟨p, read⟩, key, n, hasKey, hasLimit, rfl⟩ := found
    exact load_of_limit utf8 url read hasKey hasLimit
  · intro malformed
    rcases read : Properties.parse text with f | p
    · exact ⟨f, Properties.parse_eq_error_iff.mp read, load_of_fault utf8 url read⟩
    · exact (malformed ⟨p, read⟩).elim
  · intro found none
    obtain ⟨p, read⟩ := found
    exact load_of_no_key utf8 url read none
  · intro found someKey none
    obtain ⟨p, read⟩ := found
    obtain ⟨key, hasKey⟩ := someKey
    exact load_of_no_limit utf8 url read hasKey none

/-- Lines with a key and a limit, behind others that do not count. -/
def overridden : List Char :=
  ("DEEPSEEK_API_KEY=\nREQUEST_TIMEOUT_SECS=0\n # = \nDEEPSEEK_API_KEY = sk=1 \n" ++
    "REQUEST_TIMEOUT_SECS=+0090").toList

theorem overridden_loaded :
    load (fun _ => .ok (Text.Utf8.encode overridden)) ".env" (some " \t".toList) =
      .ok (made "sk=1".toList 90 (some " \t".toList)) := by
  have read : Properties.parse overridden = .ok { entries := [
      ("DEEPSEEK_API_KEY".toList, "sk=1".toList),
      ("REQUEST_TIMEOUT_SECS".toList, "+0090".toList)] } := by decide +kernel
  have wellFormed : ∀ line ∈ Text.lines overridden, IsWellFormed line := fun line mem =>
    isWellFormed_iff.mpr (Properties.exists_parse_iff.mp ⟨_, read⟩ line mem)
  have hasKey : HasKey (Text.lines overridden) "sk=1".toList :=
    ⟨(Properties.get?_parse_iff read).mp (by decide), by decide⟩
  have digits : ∀ c ∈ "0090".toList, c.isDigit = true := List.all_eq_true.mp rfl
  have hasLimit : HasLimit (Text.lines overridden) 90 :=
    .inr ⟨"+0090".toList, (Properties.get?_parse_iff read).mp (by decide), "0090".toList,
      .inr rfl, by decide, digits, by decide, by decide, by decide⟩
  exact ((load_decided rfl (some " \t".toList)).1 _).mpr
    ⟨wellFormed, "sk=1".toList, 90, hasKey, hasLimit, rfl⟩

end Config.Settings

end Checkup
