import Checkup.Proofs.Text.Reading
import Checkup.Proofs.Web.Address
import Checkup.Web.Uri

/-!
# Which addresses of the web are URIs

An address of the web in its normal form is scanned again by the rules for URIs.  Most of these
never refuse it: its parts have been escaped, or are written in digits.

* `Uri.Seen.scan?_user`, `Uri.Seen.scan?_host` and `Uri.Seen.canEnd_port` follow the scan through
  an authority, part by part; `Uri.isAuthority_iff` puts them together.
* `Uri.afterScheme?_render`, `Url.IsOfWeb.behindAuthority` and `Url.IsOfWeb.cutEnd_eq` find the
  parts of an address again in its normal form.
* `Url.isValid_render_iff`: only the length of an address and the characters of its host decide.
  `Url.IsSendable` says so of the address without its credentials.
-/

namespace Checkup.Web

/-! ## Characters -/

/-- What holds of the first 128 characters holds of every character of ASCII. -/
@[elab_as_elim]
theorem forall_ascii {motive : Char → Prop} (each : ∀ n < 128, motive (Char.ofNat n)) {c : Char}
    (ascii : c.toNat < 128) : motive c := by
  rw [← Char.ofNat_toNat c]
  exact each _ ascii

/-- A set of escapes with the controls in it keeps characters of ASCII only. -/
theorem Escapes.forall_kept {set : Escapes} {P : Char → Prop}
    (wide : ∀ c, controls c = true → set c = true)
    (each : ∀ n < 128, set (Char.ofNat n) = false → P (Char.ofNat n)) :
    ∀ c, set c = false → P c := by
  intro c kept
  have visible : ¬ '~' < c := by
    intro above
    have escaped := wide c (by rw [controls, decide_eq_true above, Bool.or_true])
    exact Bool.false_ne_true (kept.symm.trans escaped)
  have le : c.toNat ≤ 126 := Char.not_lt.mp visible
  have ascii : c.toNat < 128 := by omega
  revert kept
  exact forall_ascii each ascii

namespace Uri

theorem ascii_of_isAlphanum {c : Char} (letter : c.isAlphanum = true) : c.toNat < 128 := by
  have code : c.toNat = c.val.toNat := rfl
  have bounds : 'Z'.val.toNat = 90 ∧ 'z'.val.toNat = 122 ∧ '9'.val.toNat = 57 := by decide
  delta Char.isAlphanum Char.isAlpha Char.isUpper Char.isLower Char.isDigit at letter
  simp only [Bool.or_eq_true, Bool.and_eq_true, decide_eq_true_eq, UInt32.le_iff_toNat_le,
    ge_iff_le] at letter
  omega

theorem ascii_of_isPlain {c : Char} (plain : isPlain c = true) : c.toNat < 128 := by
  rw [isPlain, Bool.or_eq_true, List.contains_iff_mem] at plain
  rcases plain with letter | mem
  · exact ascii_of_isAlphanum letter
  · have signs : ['!', '$', '&', '\'', '(', ')', '*', '+', ',', '-', '.', ';', '=', '_', '~'].all
        (·.toNat < 128) = true := by decide
    exact of_decide_eq_true (List.all_eq_true.mp signs c mem)

theorem isPlain_or_percent : ∀ c, Escapes.user c = false →
    (isPlain c = true ∨ c = '%') ∧ isInAuthority c = true :=
  Escapes.forall_kept
    (fun c control => by simp [Escapes.user, Escapes.path, Escapes.fragment, control])
    (by decide +kernel)

theorem isPathChar_of_kept : ∀ c, Escapes.path c = false →
    isPathChar c = true ∧ c ≠ '#' ∧ c ≠ '?' :=
  Escapes.forall_kept (fun c control => by simp [Escapes.path, Escapes.fragment, control])
    (by decide +kernel)

theorem isQueryChar_of_kept : ∀ c, Escapes.specialQuery c = false →
    isQueryChar c = true ∧ c ≠ '#' :=
  Escapes.forall_kept (fun c control => by simp [Escapes.specialQuery, Escapes.query, control])
    (by decide +kernel)

/-- Characters that the name of a host may have, but no URI. -/
def refusedInName : List Char := ['"', '`', '\x7b', '\x7d']

theorem isPlain_iff_of_name {c : Char} (allowed : Host.isForbiddenInName c = false) :
    isPlain c = true ↔ c.toNat < 128 ∧ c ∉ refusedInName := by
  by_cases ascii : c.toNat < 128
  · revert allowed
    exact forall_ascii (by decide +kernel) ascii
  · exact ⟨fun plain => absurd (ascii_of_isPlain plain) ascii, fun both => absurd both.1 ascii⟩

/-- Signs that part an authority. -/
def marks : List Char := [':', '[', ']', '@', '%']

theorem isInAuthority_iff {c : Char} : isInAuthority c = true ↔ c ∉ ['/', '?', '#'] := by
  simp only [isInAuthority, Bool.and_eq_true, decide_eq_true_eq, List.mem_cons, List.not_mem_nil,
    or_false, not_or, and_assoc, ne_eq]

theorem unmarked_of_name {c : Char} (allowed : Host.isForbiddenInName c = false) :
    c ∉ marks ∧ isInAuthority c = true := by
  have forbidden : ∀ c ∈ marks ++ ['/', '?', '#'], Host.isForbiddenInName c = true :=
    List.all_eq_true.mp (by decide)
  have kept : c ∉ marks ++ ['/', '?', '#'] := fun mem =>
    Bool.false_ne_true (allowed.symm.trans (forbidden c mem))
  rw [List.mem_append, not_or] at kept
  exact ⟨kept.1, isInAuthority_iff.mpr kept.2⟩

theorem isInAuthority_of_isPlain {c : Char} (plain : isPlain c = true) :
    c ∉ marks ∧ isInAuthority c = true := by
  have ascii := ascii_of_isPlain plain
  revert plain
  exact forall_ascii (by decide +kernel) ascii

/-! ## Digits -/

theorem exists_digit_of_mem_toDigits {radix : Nat} (many : 1 < radix) {c : Char} (n : Nat)
    (mem : c ∈ Nat.toDigits radix n) : ∃ k < radix, c = Nat.digitChar k := by
  induction n using Nat.strongRecOn with
  | ind n ih =>
      rw [Nat.toDigits_eq_if many] at mem
      split at mem
      case isTrue small => exact ⟨n, small, List.mem_singleton.mp mem⟩
      case isFalse great =>
        rcases List.mem_append.mp mem with before | last
        · exact ih (n / radix) (Nat.div_lt_self (by omega) many) before
        · exact ⟨n % radix, Nat.mod_lt _ (by omega), List.mem_singleton.mp last⟩

theorem isPlain_of_mem_toDigits {radix n : Nat} (many : 1 < radix) (few : radix ≤ 16) {c : Char}
    (mem : c ∈ Nat.toDigits radix n) : isPlain c = true := by
  obtain ⟨k, less, rfl⟩ := exists_digit_of_mem_toDigits many n mem
  have digits : ∀ k < 16, isPlain (Nat.digitChar k) = true := by decide
  exact digits k (by omega)

theorem isPlain_of_mem_numbers {radix : Nat} (many : 1 < radix) (few : radix ≤ 16) {α : Type}
    (number : α → Nat) (parts : List α) :
    ∀ part ∈ parts.map fun a => Nat.toDigits radix (number a), ∀ c ∈ part, isPlain c = true := by
  intro part mem c digit
  obtain ⟨a, -, rfl⟩ := List.mem_map.mp mem
  exact isPlain_of_mem_toDigits many few digit

/-! ## The scan of an authority -/

namespace Seen

variable (s : Seen) {c : Char} {cs ds : List Char}

theorem scan?_nil : s.scan? [] = some s := rfl

theorem scan?_cons : s.scan? (c :: cs) = (s.next? c).bind (scan? · cs) := rfl

theorem scan?_append : s.scan? (cs ++ ds) = (s.scan? cs).bind (scan? · ds) := by
  rw [scan?, List.foldlM_append]
  rfl

theorem next?_unmarked (unmarked : c ∉ marks) :
    s.next? c = if isPlain c = true then some { s with atSign := false } else none := by
  simp only [marks, List.mem_cons, List.not_mem_nil, or_false, not_or] at unmarked
  obtain ⟨colon, opening, closing, atSign, percent⟩ := unmarked
  unfold next?
  split
  · contradiction
  · contradiction
  · contradiction
  · contradiction
  · contradiction
  · rfl

theorem next?_plain (plain : isPlain c = true) : s.next? c = some { s with atSign := false } := by
  rw [next?_unmarked s (isInAuthority_of_isPlain plain).1, if_pos plain]

theorem next?_colon (room : s.colons < 8) :
    s.next? ':' = some { s with colons := s.colons + 1, atSign := false } :=
  if_neg (Nat.not_le.mpr room)

theorem next?_opening (percent : s.percent = false) (opened : s.opened = false) :
    s.next? '[' = some { s with opened := true, atSign := false } := by
  simp only [next?, percent, opened, Bool.or_false, Bool.false_eq_true, if_false]

theorem next?_closing (opened : s.opened = true) (closed : s.closed = false) : s.next? ']' =
    some { s with closed := true, colons := 0, percent := false, atSign := false } := by
  simp only [next?, opened, closed, Bool.not_true, Bool.or_false, Bool.false_eq_true, if_false]

theorem next?_at :
    s.next? '@' = some { s with colons := 0, percent := false, atSign := true } := rfl

/-- Plain characters change nothing, but that an at sign is not the last of them. -/
theorem scan?_plain (nonempty : cs ≠ []) (plain : ∀ c ∈ cs, isPlain c = true) :
    s.scan? cs = some { s with atSign := false } := by
  induction cs generalizing s with
  | nil => exact absurd rfl nonempty
  | cons c cs ih =>
      obtain ⟨here, later⟩ := List.forall_mem_cons.mp plain
      rw [scan?_cons, next?_plain s here, Option.bind_some]
      cases cs with
      | nil => rfl
      | cons d cs => exact ih _ (List.cons_ne_nil d cs) later

/-- One character that is refused is enough. -/
theorem scan?_refused (mem : c ∈ cs) (refused : ∀ s : Seen, s.next? c = none) :
    s.scan? cs = none := by
  obtain ⟨before, after, rfl⟩ := List.append_of_mem mem
  rw [scan?_append]
  cases s.scan? before with
  | none => rfl
  | some seen => rw [Option.bind_some, scan?_cons, refused, Option.bind_none]

/-- Names and passwords of users leave no mark that an at sign would not take away. -/
theorem scan?_credential (clear : Escapes.user.Clear cs) :
    ∃ seen, s.scan? cs = some seen ∧
      seen.colons = s.colons ∧ seen.opened = s.opened ∧ seen.closed = s.closed := by
  induction cs generalizing s with
  | nil => exact ⟨s, rfl, rfl, rfl, rfl⟩
  | cons c cs ih =>
      obtain ⟨here, later⟩ := List.forall_mem_cons.mp clear
      rcases (isPlain_or_percent c here).1 with plain | rfl
      · rw [scan?_cons, next?_plain s plain]
        exact ih _ later
      · exact ih { s with percent := true, atSign := false } later

/-- Digits and not too many colons. -/
theorem scan?_groups (signs : ∀ c ∈ cs, isPlain c = true ∨ c = ':')
    (few : s.colons + cs.count ':' ≤ 8) :
    ∃ seen, s.scan? cs = some seen ∧
      seen.opened = s.opened ∧ seen.closed = s.closed ∧ seen.percent = s.percent := by
  induction cs generalizing s with
  | nil => exact ⟨s, rfl, rfl, rfl, rfl⟩
  | cons c cs ih =>
      obtain ⟨here, later⟩ := List.forall_mem_cons.mp signs
      rcases here with plain | rfl
      · have other : c ≠ ':' := by
          rintro rfl
          cases plain
        rw [List.count_cons_of_ne other] at few
        rw [scan?_cons, next?_plain s plain]
        exact ih _ later few
      · rw [List.count_cons_self] at few
        rw [scan?_cons, next?_colon s (by omega)]
        refine ih { s with colons := s.colons + 1, atSign := false } later ?_
        dsimp only
        omega

end Seen

end Uri

/-! ## Hosts in their normal form -/

namespace Host

theorem render_short (address : Nat) :
    render (.short address) ≠ [] ∧ ∀ c ∈ render (.short address), Uri.isPlain c = true := by
  refine ⟨?_, forall_mem_intercalate (by decide)
    (Uri.isPlain_of_mem_numbers (by decide) (by decide) _ _)⟩
  simp [render, List.intercalate_cons_cons]

/-- The groups of an address between colons. -/
theorem groups_signs (groups : List Nat) :
    (∀ c ∈ List.intercalate [':'] (groups.map (Nat.toDigits 16)), Uri.isPlain c = true ∨ c = ':') ∧
      (List.intercalate [':'] (groups.map (Nat.toDigits 16))).count ':' = groups.length - 1 := by
  have digits : ∀ part ∈ groups.map (Nat.toDigits 16), ∀ c ∈ part, Uri.isPlain c = true :=
    Uri.isPlain_of_mem_numbers (by decide) (by decide) (fun n => n) groups
  refine ⟨forall_mem_intercalate (.inr rfl) fun part mem c digit => .inl (digits part mem c digit),
    ?_⟩
  have noColon : ∀ part ∈ groups.map (Nat.toDigits 16), ':' ∉ part := by
    intro part mem colon
    have plain : Uri.isPlain ':' = true := digits part mem ':' colon
    cases plain
  rw [count_intercalate noColon, List.length_map]

theorem IsOfWeb.render_ne_nil {host : Host} (ofWeb : host.IsOfWeb) : host.render ≠ [] := by
  cases ofWeb with
  | name nonempty => exact nonempty
  | short address => exact (render_short address).1
  | long => exact List.cons_ne_nil _ _

/-- A gap stands between groups. -/
theorem longestGap_start (groups : List Nat) :
    (longestGap groups).2 = 0 ∨ (longestGap groups).1 < groups.length := by
  refine List.foldlRecOn (motive := fun gap : Nat × Nat => gap.2 = 0 ∨ gap.1 < groups.length)
    (List.range groups.length) _ (.inl rfl) fun gap inside k mem => ?_
  dsimp only
  split
  · exact .inr (List.mem_range.mp mem)
  · exact inside

/-- Eight groups, or fewer around a gap, have no more colons than a scan puts up with. -/
theorem renderGroups_signs {groups : List Nat} (eight : groups.length = 8) :
    (∀ c ∈ renderGroups groups, Uri.isPlain c = true ∨ c = ':') ∧
      (renderGroups groups).count ':' ≤ 8 := by
  have start := longestGap_start groups
  unfold renderGroups
  dsimp only
  split
  case h_1 =>
    obtain ⟨signs, colons⟩ := groups_signs groups
    exact ⟨signs, by omega⟩
  case h_2 first length nonzero same =>
    have positive : length ≠ 0 := nonzero
    obtain ⟨signs, colons⟩ := groups_signs (groups.take first)
    obtain ⟨signs', colons'⟩ := groups_signs (groups.drop (first + length))
    have inside : first < 8 := by
      rw [same, eight] at start
      exact start.resolve_left positive
    refine ⟨List.forall_mem_append.mpr ⟨List.forall_mem_append.mpr ⟨signs, by simp⟩, signs'⟩, ?_⟩
    rw [List.length_take, eight] at colons
    rw [List.length_drop, eight] at colons'
    have both : [':', ':'].count ':' = 2 := rfl
    rw [List.count_append, List.count_append, colons, colons', both]
    omega

end Host

namespace Uri

variable {url : Url} {host : Host}

namespace Seen

/-- Whatever a user is called, all that is left of it is an at sign. -/
theorem scan?_user (ofWeb : url.IsOfWeb) :
    ∃ afterUser, scan? {} url.renderUser = some { atSign := afterUser } := by
  rw [Url.renderUser]
  split
  · exact ⟨false, rfl⟩
  obtain ⟨seen, user, colons, opened, closed⟩ := scan?_credential {} ofWeb.user
  refine ⟨true, ?_⟩
  rw [scan?_append, scan?_append, user, Option.bind_some]
  split
  · rw [scan?_nil, Option.bind_some, scan?_cons, next?_at, Option.bind_some, scan?_nil, opened,
      closed]
  · rw [scan?_cons, next?_colon seen (by rw [colons]; decide), Option.bind_some]
    obtain ⟨seen', password, -, opened', closed'⟩ := scan?_credential
      { seen with colons := seen.colons + 1, atSign := false } ofWeb.password
    rw [password, Option.bind_some, scan?_cons, next?_at, Option.bind_some, scan?_nil, opened',
      closed', opened, closed]

/-- Behind a host that is not refused, the scan is where it began but for brackets. -/
theorem scan?_host (ofWeb : host.IsOfWeb)
    (plain : ∀ name, host = .name name → ∀ c ∈ name, isPlain c = true) (afterUser : Bool) :
    ∃ bracketed, scan? { atSign := afterUser } host.render =
      some { opened := bracketed, closed := bracketed } := by
  cases ofWeb with
  | name nonempty _ => exact ⟨false, scan?_plain _ nonempty (plain _ rfl)⟩
  | short address =>
      obtain ⟨nonempty, digits⟩ := Host.render_short address
      exact ⟨false, scan?_plain _ nonempty digits⟩
  | long eight =>
      obtain ⟨signs, few⟩ := Host.renderGroups_signs eight
      obtain ⟨seen, groups, opened, closed, percent⟩ :=
        scan?_groups { opened := true } signs (by simpa using few)
      refine ⟨true, ?_⟩
      rw [Host.render, List.cons_append, scan?_cons, next?_opening _ rfl rfl, Option.bind_some,
        scan?_append, groups, Option.bind_some, scan?_cons, next?_closing _ opened closed,
        Option.bind_some, scan?_nil, opened]

/-- A port adds one colon at most, and an authority may end behind it. -/
theorem canEnd_port (url : Url) (bracketed : Bool) :
    (scan? { opened := bracketed, closed := bracketed } url.renderPort).any canEnd = true := by
  rw [Url.renderPort]
  split
  case h_1 n _ =>
    rw [scan?_cons, next?_colon _ (show 0 < 8 by decide), Option.bind_some,
      scan?_plain _ Nat.toDigits_ne_nil fun c => isPlain_of_mem_toDigits (by decide) (by decide)]
    simp [canEnd]
  case h_2 => simp [scan?_nil, canEnd]

end Seen

/-- The name of a host decides whether an authority is that of a URI. -/
theorem isAuthority_iff (ofWeb : url.IsOfWeb) (isHost : url.host = some host) :
    isAuthority (url.renderUser ++ host.render ++ url.renderPort) = true ↔
      ∀ name, host = .name name → ∀ c ∈ name, isPlain c = true := by
  obtain ⟨host', isHost', hostOfWeb⟩ := ofWeb.host
  cases isHost.symm.trans isHost'
  obtain ⟨afterUser, user⟩ := Seen.scan?_user ofWeb
  have scanned : Seen.scan? {} (url.renderUser ++ host.render ++ url.renderPort) =
      (Seen.scan? { atSign := afterUser } host.render).bind (Seen.scan? · url.renderPort) := by
    rw [Seen.scan?_append, Seen.scan?_append, user, Option.bind_some]
  rw [isAuthority, scanned]
  constructor
  · rintro valid name rfl c mem
    by_contra refused
    cases hostOfWeb with
    | name _ allowed =>
        have none : Seen.scan? { atSign := afterUser } name = none :=
          Seen.scan?_refused _ mem fun s => by
            rw [Seen.next?_unmarked s (unmarked_of_name (allowed c mem)).1, if_neg refused]
        rw [Host.render, none] at valid
        simp at valid
  · intro plain
    obtain ⟨bracketed, host⟩ := Seen.scan?_host hostOfWeb plain afterUser
    rw [host, Option.bind_some, Seen.canEnd_port, Bool.and_true, decide_eq_true_eq]
    simp [hostOfWeb.render_ne_nil]

/-! ## The parts of an address -/

theorem isInAuthority_user (ofWeb : url.IsOfWeb) :
    ∀ c ∈ url.renderUser, isInAuthority c = true := by
  have user : ∀ c ∈ url.user, isInAuthority c = true :=
    fun c mem => (isPlain_or_percent c (ofWeb.user c mem)).2
  have password : ∀ c ∈ url.password, isInAuthority c = true :=
    fun c mem => (isPlain_or_percent c (ofWeb.password c mem)).2
  rw [Url.renderUser]
  split
  · exact nofun
  · refine List.forall_mem_append.mpr ⟨List.forall_mem_append.mpr ⟨user, ?_⟩,
      List.forall_mem_singleton.mpr (by decide)⟩
    split
    · exact nofun
    · exact List.forall_mem_cons.mpr ⟨by decide, password⟩

theorem isInAuthority_host (ofWeb : host.IsOfWeb) :
    ∀ c ∈ host.render, isInAuthority c = true := by
  cases ofWeb with
  | name _ allowed => exact fun c mem => (unmarked_of_name (allowed c mem)).2
  | short address =>
      exact fun c mem => (isInAuthority_of_isPlain ((Host.render_short address).2 c mem)).2
  | @long groups eight =>
      have inside : ∀ c ∈ Host.renderGroups groups, isInAuthority c = true := by
        intro c mem
        rcases (Host.renderGroups_signs eight).1 c mem with plain | rfl
        · exact (isInAuthority_of_isPlain plain).2
        · decide
      exact List.forall_mem_append.mpr ⟨List.forall_mem_cons.mpr ⟨by decide, inside⟩,
        List.forall_mem_singleton.mpr (by decide)⟩

theorem isInAuthority_port (url : Url) : ∀ c ∈ url.renderPort, isInAuthority c = true := by
  rw [Url.renderPort]
  split
  · refine List.forall_mem_cons.mpr ⟨by decide, fun c mem => ?_⟩
    exact (isInAuthority_of_isPlain (isPlain_of_mem_toDigits (by decide) (by decide) mem)).2
  · exact nofun

theorem afterScheme?_render (web : url.HasWebScheme) (isHost : url.host = some host) :
    afterScheme? url.render = some (url.renderUser ++ host.render ++ url.renderPort ++
      (url.renderPath ++ url.renderQuery ++ url.renderFragment)) := by
  have text : url.render = url.scheme.toList ++ ':' :: '/' :: '/' ::
      (url.renderUser ++ host.render ++ url.renderPort ++
        (url.renderPath ++ url.renderQuery ++ url.renderFragment)) := by
    simp only [Url.render, Url.renderAuthority, Url.target, isHost, List.append_assoc,
      List.cons_append]
  rw [text]
  rcases web with http | https
  · rw [http]
    rfl
  · rw [https]
    rfl

end Uri

namespace Url

variable {url : Url}

theorem IsOfWeb.renderPath_clear (ofWeb : url.IsOfWeb) :
    (∀ c ∈ url.renderPath, Uri.isPathChar c = true ∧ c ≠ '#' ∧ c ≠ '?') ∧
      ∀ c ∈ url.renderPath.head?, c = '/' := by
  obtain ⟨host, isHost, -⟩ := ofWeb.host
  obtain ⟨segments, path, clear⟩ := ofWeb.path
  have text : url.renderPath = segments.flatMap ('/' :: ·) := by
    simp [renderPath, path, isHost]
  rw [text]
  constructor
  · intro c mem
    obtain ⟨segment, among, mem⟩ := List.mem_flatMap.mp mem
    rcases List.mem_cons.mp mem with rfl | mem
    · decide
    · exact Uri.isPathChar_of_kept c (clear segment among c mem)
  · cases segments with
    | nil => exact nofun
    | cons segment segments => simp

theorem head?_renderQuery (url : Url) : ∀ c ∈ url.renderQuery.head?, c = '?' := by
  rw [renderQuery]
  split
  · simp
  · simp

theorem head?_renderFragment (url : Url) : ∀ c ∈ url.renderFragment.head?, c = '#' := by
  rw [renderFragment]
  split
  · simp
  · simp

theorem IsOfWeb.renderQuery_clear (ofWeb : url.IsOfWeb) :
    ((url.query.getD []).all Uri.isQueryChar = true) ∧ ∀ c ∈ url.renderQuery, c ≠ '#' := by
  rw [renderQuery]
  cases query : url.query with
  | none => exact ⟨rfl, nofun⟩
  | some text =>
      have kept : ∀ c ∈ text, Uri.isQueryChar c = true ∧ c ≠ '#' :=
        fun c mem => Uri.isQueryChar_of_kept c (ofWeb.query text query c mem)
      exact ⟨List.all_eq_true.mpr fun c mem => (kept c mem).1,
        List.forall_mem_cons.mpr ⟨by decide, fun c mem => (kept c mem).2⟩⟩

/-- No character of an authority comes first behind it. -/
theorem IsOfWeb.behindAuthority (ofWeb : url.IsOfWeb) :
    ∀ c ∈ (url.renderPath ++ url.renderQuery ++ url.renderFragment).head?,
      Uri.isInAuthority c = false := by
  intro c first
  rw [List.head?_append, List.head?_append, Option.mem_def, Option.or_eq_some_iff,
    Option.or_eq_some_iff] at first
  rcases first with (path | ⟨-, query⟩) | ⟨-, fragment⟩
  · rw [ofWeb.renderPath_clear.2 c path]
    rfl
  · rw [url.head?_renderQuery c query]
    rfl
  · rw [url.head?_renderFragment c fragment]
    rfl

/-- The end of an address is found again behind its path. -/
theorem IsOfWeb.cutEnd_eq (ofWeb : url.IsOfWeb) :
    cutEnd (url.renderPath ++ url.renderQuery ++ url.renderFragment) =
      (url.renderPath, url.query, url.fragment) := by
  have pathClear := ofWeb.renderPath_clear.1
  have queryClear := ofWeb.renderQuery_clear.2
  have beforeFragment : (url.renderPath ++ url.renderQuery ++ url.renderFragment).takeWhile
      (· ≠ '#') = url.renderPath ++ url.renderQuery := by
    refine takeWhile_append_of_stop ?_ fun c first => by simp [url.head?_renderFragment c first]
    refine List.forall_mem_append.mpr ⟨fun c mem => ?_, fun c mem => ?_⟩
    · simpa using (pathClear c mem).2.1
    · simpa using queryClear c mem
  have path : (url.renderPath ++ url.renderQuery).takeWhile (· ≠ '?') = url.renderPath := by
    refine takeWhile_append_of_stop (fun c mem => ?_) fun c first => ?_
    · simpa using (pathClear c mem).2.2
    · simp [url.head?_renderQuery c first]
  rw [cutEnd]
  simp only [beforeFragment, path, List.drop_left]
  cases query : url.query <;> cases fragment : url.fragment <;>
    simp [renderQuery, renderFragment, query, fragment]

/-- An address of the web is a URI if it is not too long and its host has no name with characters
that are refused. -/
theorem isValid_render_iff (ofWeb : url.IsOfWeb) (web : url.HasWebScheme) :
    Uri.isValid url.render = true ↔ url.render.length ≤ Uri.maxLength ∧
      ∀ name, url.host = some (.name name) →
        ∀ c ∈ name, c.toNat < 128 ∧ c ∉ Uri.refusedInName := by
  obtain ⟨host, isHost, hostOfWeb⟩ := ofWeb.host
  have authority : (url.renderUser ++ host.render ++ url.renderPort ++
      (url.renderPath ++ url.renderQuery ++ url.renderFragment)).takeWhile Uri.isInAuthority =
        url.renderUser ++ host.render ++ url.renderPort := by
    refine takeWhile_append_of_stop ?_ ?_
    · have before := List.forall_mem_append.mpr
        ⟨Uri.isInAuthority_user ofWeb, Uri.isInAuthority_host hostOfWeb⟩
      exact List.forall_mem_append.mpr ⟨before, Uri.isInAuthority_port url⟩
    · exact ofWeb.behindAuthority
  have path : url.renderPath.all Uri.isPathChar = true :=
    List.all_eq_true.mpr fun c mem => (ofWeb.renderPath_clear.1 c mem).1
  have names : (∀ name, host = .name name → ∀ c ∈ name, Uri.isPlain c = true) ↔
      ∀ name, url.host = some (.name name) →
        ∀ c ∈ name, c.toNat < 128 ∧ c ∉ Uri.refusedInName := by
    refine forall_congr' fun name => ?_
    rw [isHost, Option.some.injEq]
    refine forall_congr' fun named => ?_
    rw [named] at hostOfWeb
    cases hostOfWeb with
    | name _ allowed => exact forall₂_congr fun c mem => Uri.isPlain_iff_of_name (allowed c mem)
  rw [Uri.isValid, Uri.afterScheme?_render web isHost]
  simp only [authority, List.drop_left, ofWeb.cutEnd_eq, path, ofWeb.renderQuery_clear.1,
    Bool.and_true, Bool.and_eq_true, decide_eq_true_eq, Uri.isAuthority_iff ofWeb isHost, names]

/-- Requests can be sent to an address of the web that is a URI without its credentials. -/
structure IsSendable (url : Url) : Prop where
  web : url.HasWebScheme
  length : url.withoutCredentials.render.length ≤ Uri.maxLength
  host : ∀ name, url.host = some (.name name) →
    ∀ c ∈ name, c.toNat < 128 ∧ c ∉ Uri.refusedInName

theorem isSendable_iff (ofWeb : url.IsOfWeb) (web : url.HasWebScheme) :
    url.IsSendable ↔ Uri.isValid url.withoutCredentials.render = true := by
  have sameScheme : url.withoutCredentials.HasWebScheme := by
    rwa [HasWebScheme, withoutCredentials_scheme]
  rw [isValid_render_iff ofWeb.withoutCredentials sameScheme, withoutCredentials_host]
  exact ⟨fun sendable => ⟨sendable.length, sendable.host⟩, fun valid => ⟨web, valid.1, valid.2⟩⟩

end Url

/-- A text that is the address of a place on the web that requests can be sent to. -/
def IsSendableAddress (names : Names) (text : List Char) : Prop :=
  ∃ url, Url.parse? names text = some url ∧ url.IsSendable

theorem shortAddress_sendable (names : Names) : IsSendableAddress names "http://m/".toList := by
  refine ⟨{ scheme := "http", host := some (.name ['m']), path := .segments [[]] }, ?_, ?_⟩
  · with_unfolding_all rfl
  · refine ⟨.inl rfl, by decide +kernel, fun name named => ?_⟩
    cases named
    exact List.forall_mem_singleton.mpr (by decide)

end Checkup.Web
