import Checkup.Text.Utf8

/-!
# Bytes that are text

* `Begun.Completes`: bytes go on from a character that has begun, and end it.
  `decodeFrom_completes` and `exists_completes` say that decoding takes just these.
* `IsSeveral` is the table of the bytes that are a character beyond the first 128.  Characters are
  written by it (`IsSeveral.encodeChar`, `exists_isSeveral`) and read by it (`IsSeveral.completes`,
  `isSeveral_of_completes`).
* `decode?_eq_some_iff`: bytes are a text exactly if they are what the text is written as.
-/

namespace Checkup.Text.Utf8

/-! ## Characters that have begun -/

/-- The state behind one more byte of a character. -/
def Begun.next (begun : Begun) (b : UInt8) : Begun :=
  { bits := begun.bits * 64 + (b.toNat - 0x80), owed := begun.owed - 1 }

/-- A byte is one of those that may come next. -/
def Begun.Takes (begun : Begun) (b : UInt8) : Prop :=
  begun.least.toNat ≤ b.toNat ∧ b.toNat ≤ begun.greatest.toNat

theorem takes_iff {begun : Begun} {b : UInt8} :
    begun.Takes b ↔ (begun.least ≤ b && b ≤ begun.greatest) = true := by
  rw [Bool.and_eq_true, decide_eq_true_eq, decide_eq_true_eq]
  exact Iff.rfl

/-- Bytes that go on from a character that has begun and end it, and its code point. -/
inductive Begun.Completes : Begun → List UInt8 → Nat → Prop
  | last {begun : Begun} {b : UInt8} : begun.owed ≤ 1 → begun.Takes b →
    Completes begun [b] (begun.bits * 64 + (b.toNat - 0x80))
  | more {begun : Begun} {b : UInt8} {bs : List UInt8} {n : Nat} : ¬ begun.owed ≤ 1 →
    begun.Takes b → Completes (begun.next b) bs n → Completes begun (b :: bs) n

theorem decodeFrom_completes {begun : Begun} {mine : List UInt8} {n : Nat}
    (completes : begun.Completes mine n) (rest : List UInt8) :
    decodeFrom (some begun) (mine ++ rest) = some (Char.ofNat n) :: decodeFrom none rest := by
  induction completes with
  | last owed takes =>
      rw [List.singleton_append, decodeFrom, if_pos (takes_iff.mp takes)]
      simp only [if_pos owed]
  | more owed takes _ ih =>
      rw [List.cons_append, decodeFrom, if_pos (takes_iff.mp takes)]
      simp only [if_neg owed]
      exact ih

/-- What is decoded as a character ends the one that has begun. -/
theorem exists_completes {bs : List UInt8} : ∀ {begun : Begun} {c : Char} {cs : List (Option Char)},
    decodeFrom (some begun) bs = some c :: cs →
    ∃ mine rest n, bs = mine ++ rest ∧ begun.Completes mine n ∧ c = Char.ofNat n ∧
      decodeFrom none rest = cs := by
  induction bs with
  | nil => intro begun c cs decoded; cases decoded
  | cons b bs ih =>
      intro begun c cs decoded
      rw [decodeFrom] at decoded
      split at decoded
      case isTrue fits =>
        have takes := takes_iff.mpr fits
        split at decoded
        case isTrue owed =>
          obtain ⟨same, others⟩ := List.cons.inj decoded
          exact ⟨[b], bs, _, rfl, .last owed takes, (Option.some.inj same).symm, others⟩
        case isFalse owed =>
          obtain ⟨mine, rest, n, rfl, completes, same, others⟩ := ih decoded
          exact ⟨b :: mine, rest, n, rfl, .more owed takes completes, same, others⟩
      case isFalse =>
        -- a byte that does not fit makes what has begun an invalid part
        split at decoded
        · cases decoded
        · split at decoded <;> cases decoded

/-- What has begun comes to something, if only an invalid part. -/
theorem decodeFrom_begun_ne_nil {bs : List UInt8} :
    ∀ begun : Begun, decodeFrom (some begun) bs ≠ [] := by
  induction bs with
  | nil => intro begun nothing; cases nothing
  | cons b bs ih =>
      intro begun nothing
      rw [decodeFrom] at nothing
      split at nothing
      case isTrue =>
        split at nothing
        · cases nothing
        · exact ih _ nothing
      case isFalse =>
        split at nothing
        · cases nothing
        · split at nothing <;> cases nothing

/-- Every byte comes to something. -/
theorem decodeLossy_eq_nil_iff {bs : List UInt8} : decodeLossy bs = [] ↔ bs = [] := by
  rw [decodeLossy, List.map_eq_nil_iff, decode]
  cases bs with
  | nil => exact iff_of_true rfl rfl
  | cons b bs =>
      refine iff_of_false ?_ (List.cons_ne_nil b bs)
      rw [decodeFrom]
      split
      case isTrue => exact List.cons_ne_nil _ _
      case isFalse =>
        split
        · exact decodeFrom_begun_ne_nil _
        · exact List.cons_ne_nil _ _

/-! ## The table of several bytes -/

/-- Several bytes and the code point of the character that they are, by the ranges of the bytes. -/
inductive IsSeveral : List UInt8 → Nat → Prop
  | two {b b₁ : UInt8} : 0xc2 ≤ b.toNat ∧ b.toNat < 0xe0 → 0x80 ≤ b₁.toNat ∧ b₁.toNat ≤ 0xbf →
    IsSeveral [b, b₁] ((b.toNat - 0xc0) * 64 + (b₁.toNat - 0x80))
  | three {b b₁ b₂ : UInt8} : 0xe0 ≤ b.toNat ∧ b.toNat < 0xf0 →
    0x80 ≤ b₁.toNat ∧ b₁.toNat ≤ 0xbf → (b.toNat = 0xe0 → 0xa0 ≤ b₁.toNat) →
    (b.toNat = 0xed → b₁.toNat ≤ 0x9f) → 0x80 ≤ b₂.toNat ∧ b₂.toNat ≤ 0xbf →
    IsSeveral [b, b₁, b₂]
      (((b.toNat - 0xe0) * 64 + (b₁.toNat - 0x80)) * 64 + (b₂.toNat - 0x80))
  | four {b b₁ b₂ b₃ : UInt8} : 0xf0 ≤ b.toNat ∧ b.toNat ≤ 0xf4 →
    0x80 ≤ b₁.toNat ∧ b₁.toNat ≤ 0xbf → (b.toNat = 0xf0 → 0x90 ≤ b₁.toNat) →
    (b.toNat = 0xf4 → b₁.toNat ≤ 0x8f) → 0x80 ≤ b₂.toNat ∧ b₂.toNat ≤ 0xbf →
    0x80 ≤ b₃.toNat ∧ b₃.toNat ≤ 0xbf →
    IsSeveral [b, b₁, b₂, b₃]
      ((((b.toNat - 0xf0) * 64 + (b₁.toNat - 0x80)) * 64 + (b₂.toNat - 0x80)) * 64 +
        (b₃.toNat - 0x80))

/-- A number that is no surrogate and not too great is the code point of a character. -/
theorem exists_char {n : Nat} (valid : n < 0xd800 ∨ 0xdfff < n ∧ n < 0x110000) :
    ∃ c : Char, c.toNat = n :=
  ⟨Char.ofNatAux n valid, rfl⟩

/-- Several bytes in these ranges are a character. -/
theorem IsSeveral.exists_char {bs : List UInt8} {n : Nat} (several : IsSeveral bs n) :
    ∃ c : Char, c.toNat = n := by
  refine Utf8.exists_char ?_
  cases several <;> omega

theorem ofNat_eq_iff {k : Nat} {b : UInt8} : UInt8.ofNat k = b ↔ k % 256 = b.toNat := by
  rw [← UInt8.toNat_inj, UInt8.toNat_ofNat']

theorem encodeChar_one {b : UInt8} (first : b.toNat < 0x80) {c : Char}
    (code : c.toNat = b.toNat) : encodeChar c = [b] := by
  unfold encodeChar
  dsimp only
  rw [if_pos (by omega), code, UInt8.ofNat_toNat]

theorem IsSeveral.encodeChar {bs : List UInt8} {n : Nat} (several : IsSeveral bs n) {c : Char}
    (code : c.toNat = n) : encodeChar c = bs := by
  unfold Utf8.encodeChar
  dsimp only
  cases several with
  | two first second =>
      rw [if_neg (by omega), if_pos (by omega)]
      simp only [List.cons.injEq, ofNat_eq_iff, and_true]
      omega
  | three first second long _ third =>
      rw [if_neg (by omega), if_neg (by omega), if_pos (by omega)]
      simp only [List.cons.injEq, ofNat_eq_iff, and_true]
      omega
  | four first second long _ third fourth =>
      rw [if_neg (by omega), if_neg (by omega), if_neg (by omega)]
      simp only [List.cons.injEq, ofNat_eq_iff, and_true]
      omega

theorem exists_byte {k : Nat} (lt : k < 256) : ∃ b : UInt8, b.toNat = k :=
  ⟨UInt8.ofNat k, UInt8.toNat_ofNat_of_lt' lt⟩

/-- Every character beyond the first 128 is several bytes. -/
theorem exists_isSeveral {c : Char} (beyond : 0x80 ≤ c.toNat) : ∃ bs, IsSeveral bs c.toNat := by
  have valid : c.toNat < 0xd800 ∨ 0xdfff < c.toNat ∧ c.toNat < 0x110000 := c.valid
  obtain ⟨last, isLast⟩ := exists_byte (k := 0x80 + c.toNat % 0x40) (by omega)
  obtain ⟨middle, isMiddle⟩ := exists_byte (k := 0x80 + c.toNat / 0x40 % 0x40) (by omega)
  by_cases two : c.toNat < 0x800
  · obtain ⟨b, first⟩ := exists_byte (k := 0xc0 + c.toNat / 0x40) (by omega)
    have code : c.toNat = (b.toNat - 0xc0) * 64 + (last.toNat - 0x80) := by omega
    rw [code]
    exact ⟨_, .two (by omega) (by omega)⟩
  by_cases three : c.toNat < 0x10000
  · obtain ⟨b, first⟩ := exists_byte (k := 0xe0 + c.toNat / 0x1000) (by omega)
    have code : c.toNat =
        ((b.toNat - 0xe0) * 64 + (middle.toNat - 0x80)) * 64 + (last.toNat - 0x80) := by omega
    rw [code]
    exact ⟨_, .three (by omega) (by omega) (by omega) (by omega) (by omega)⟩
  · obtain ⟨b, first⟩ := exists_byte (k := 0xf0 + c.toNat / 0x40000) (by omega)
    obtain ⟨second, isSecond⟩ := exists_byte (k := 0x80 + c.toNat / 0x1000 % 0x40) (by omega)
    have code : c.toNat = (((b.toNat - 0xf0) * 64 + (second.toNat - 0x80)) * 64 +
        (middle.toNat - 0x80)) * 64 + (last.toNat - 0x80) := by omega
    rw [code]
    exact ⟨_, .four (by omega) (by omega) (by omega) (by omega) (by omega) (by omega)⟩

/-! ## First bytes -/

theorem ofFirst?_two {b : UInt8} (first : 0xc2 ≤ b.toNat ∧ b.toNat < 0xe0) :
    Begun.ofFirst? b = some { bits := b.toNat - 0xc0, owed := 1 } := by
  have ge : ¬ b < 0xc2 := Nat.not_lt.mpr first.1
  have lt : b < 0xe0 := UInt8.lt_iff_toNat_lt.mpr first.2
  rw [Begun.ofFirst?, if_neg ge, if_pos lt]

theorem ofFirst?_three {b : UInt8} (first : 0xe0 ≤ b.toNat ∧ b.toNat < 0xf0) :
    Begun.ofFirst? b = some {
      bits := b.toNat - 0xe0
      owed := 2
      least := if b = 0xe0 then 0xa0 else 0x80
      greatest := if b = 0xed then 0x9f else 0xbf } := by
  have ge : ¬ b < 0xc2 := Nat.not_lt.mpr (Nat.le_trans (by decide) first.1)
  have ge' : ¬ b < 0xe0 := Nat.not_lt.mpr first.1
  have lt : b < 0xf0 := UInt8.lt_iff_toNat_lt.mpr first.2
  rw [Begun.ofFirst?, if_neg ge, if_neg ge']
  by_cases short : b = 0xe0
  · rw [if_pos short, short]
    rfl
  by_cases surrogate : b = 0xed
  · rw [if_neg short, if_pos surrogate, surrogate]
    rfl
  · rw [if_neg short, if_neg surrogate, if_pos lt, if_neg short, if_neg surrogate]

theorem ofFirst?_four {b : UInt8} (first : 0xf0 ≤ b.toNat ∧ b.toNat ≤ 0xf4) :
    Begun.ofFirst? b = some {
      bits := b.toNat - 0xf0
      owed := 3
      least := if b = 0xf0 then 0x90 else 0x80
      greatest := if b = 0xf4 then 0x8f else 0xbf } := by
  have ge : ¬ b < 0xf0 := Nat.not_lt.mpr first.1
  have ge₁ : ¬ b < 0xe0 := Nat.not_lt.mpr (Nat.le_trans (by decide) first.1)
  have ge₂ : ¬ b < 0xc2 := Nat.not_lt.mpr (Nat.le_trans (by decide) first.1)
  have ne : b ≠ 0xe0 := fun same => ge₁ (by rw [same] at first; exact absurd first (by decide))
  have ne' : b ≠ 0xed := fun same => by rw [same] at first; exact absurd first (by decide)
  rw [Begun.ofFirst?, if_neg ge₂, if_neg ge₁, if_neg ne, if_neg ne', if_neg ge]
  by_cases short : b = 0xf0
  · rw [if_pos short, short]
    rfl
  by_cases last : b = 0xf4
  · rw [if_neg short, last]
    rfl
  · have le : b.toNat ≠ 0xf4 := fun same => last (UInt8.toNat_inj.mp same)
    have lt : b < 0xf4 := UInt8.lt_iff_toNat_lt.mpr (Nat.lt_of_le_of_ne first.2 le)
    rw [if_neg short, if_pos lt, if_neg short, if_neg last]

/-- Only these bytes are first bytes of several. -/
theorem first_of_ofFirst? {b : UInt8} {begun : Begun} (first : Begun.ofFirst? b = some begun) :
    0xc2 ≤ b.toNat ∧ b.toNat ≤ 0xf4 := by
  constructor
  · refine Nat.not_lt.mp fun lt => ?_
    have lt : b < 0xc2 := UInt8.lt_iff_toNat_lt.mpr lt
    rw [Begun.ofFirst?, if_pos lt] at first
    cases first
  · refine Nat.not_lt.mp fun gt => ?_
    have ge (k : UInt8) (le : k.toNat ≤ 0xf4) : ¬ b < k :=
      Nat.not_lt.mpr (Nat.le_of_lt (Nat.lt_of_le_of_lt le gt))
    have ne (k : UInt8) (le : k.toNat ≤ 0xf4) : b ≠ k :=
      fun same => absurd (same ▸ gt) (Nat.not_lt.mpr le)
    rw [Begun.ofFirst?, if_neg (ge _ (by decide)), if_neg (ge _ (by decide)),
      if_neg (ne _ (by decide)), if_neg (ne _ (by decide)), if_neg (ge _ (by decide)),
      if_neg (ne _ (by decide)), if_neg (ge _ (by decide)), if_neg (ne _ (by decide))] at first
    cases first

/-- The second byte, where some first bytes have fewer to choose from. -/
theorem takes_behind_iff {b b₁ short cut least greatest : UInt8} {bits owed : Nat}
    (low : 0x80 ≤ least.toNat) (high : greatest.toNat ≤ 0xbf) :
    { bits, owed, least := if b = short then least else 0x80,
      greatest := if b = cut then greatest else 0xbf : Begun }.Takes b₁ ↔
      (0x80 ≤ b₁.toNat ∧ b₁.toNat ≤ 0xbf) ∧ (b.toNat = short.toNat → least.toNat ≤ b₁.toNat) ∧
        (b.toNat = cut.toNat → b₁.toNat ≤ greatest.toNat) := by
  have least_le : (if b = short then least else 0x80).toNat ≤ b₁.toNat ↔
      0x80 ≤ b₁.toNat ∧ (b = short → least.toNat ≤ b₁.toNat) := by
    split
    case isTrue same =>
      rw [imp_iff_right same]
      omega
    case isFalse other => exact (and_iff_left fun same => (other same).elim).symm
  have le_greatest : b₁.toNat ≤ (if b = cut then greatest else 0xbf).toNat ↔
      b₁.toNat ≤ 0xbf ∧ (b = cut → b₁.toNat ≤ greatest.toNat) := by
    split
    case isTrue same =>
      rw [imp_iff_right same]
      omega
    case isFalse other => exact (and_iff_left fun same => (other same).elim).symm
  rw [Begun.Takes, least_le, le_greatest, UInt8.toNat_inj, UInt8.toNat_inj, and_and_and_comm]

/-! ## Decoding by the table -/

theorem completes_one {begun : Begun} (owed : begun.owed = 1) {bs : List UInt8} {n : Nat} :
    begun.Completes bs n ↔
      ∃ b, bs = [b] ∧ begun.Takes b ∧ n = begun.bits * 64 + (b.toNat - 0x80) := by
  constructor
  · intro completes
    cases completes with
    | @last _ b _ takes => exact ⟨b, rfl, takes, rfl⟩
    | more many => omega
  · rintro ⟨b, same, takes, code⟩
    rw [same, code]
    exact .last (by omega) takes

theorem completes_more {begun : Begun} (owed : 1 < begun.owed) {bs : List UInt8} {n : Nat} :
    begun.Completes bs n ↔
      ∃ b rest, bs = b :: rest ∧ begun.Takes b ∧ (begun.next b).Completes rest n := by
  constructor
  · intro completes
    cases completes with
    | last few => omega
    | more _ takes rest => exact ⟨_, _, rfl, takes, rest⟩
  · rintro ⟨b, rest, rfl, takes, completes⟩
    exact .more (by omega) takes completes

/-- What begins with a byte and goes on as it demands is in the table. -/
theorem isSeveral_of_completes {b : UInt8} {begun : Begun} (first : Begun.ofFirst? b = some begun)
    {bs : List UInt8} {n : Nat} (completes : begun.Completes bs n) : IsSeveral (b :: bs) n := by
  obtain ⟨least, greatest⟩ := first_of_ofFirst? first
  by_cases two : b.toNat < 0xe0
  · rw [ofFirst?_two ⟨least, two⟩] at first
    rw [← Option.some.inj first, completes_one rfl] at completes
    obtain ⟨b₁, same, second, code⟩ := completes
    rw [same, code]
    exact .two ⟨least, two⟩ second
  by_cases three : b.toNat < 0xf0
  · have range : 0xe0 ≤ b.toNat ∧ b.toNat < 0xf0 := ⟨Nat.not_lt.mp two, three⟩
    rw [ofFirst?_three range] at first
    rw [← Option.some.inj first, completes_more Nat.one_lt_two] at completes
    obtain ⟨b₁, rest, same, takes, completes⟩ := completes
    obtain ⟨b₂, same', third, code⟩ := (completes_one rfl).mp completes
    obtain ⟨second, long, noSurrogate⟩ := (takes_behind_iff (by decide) (by decide)).mp takes
    rw [same, same', code]
    exact .three range second long noSurrogate third
  · have range : 0xf0 ≤ b.toNat ∧ b.toNat ≤ 0xf4 := ⟨Nat.not_lt.mp three, greatest⟩
    rw [ofFirst?_four range] at first
    rw [← Option.some.inj first, completes_more (show 1 < 3 by decide)] at completes
    obtain ⟨b₁, rest, same, takes, completes⟩ := completes
    obtain ⟨b₂, rest', same', third, completes⟩ :=
      (completes_more (show 1 < 2 by decide)).mp completes
    obtain ⟨b₃, same'', fourth, code⟩ := (completes_one rfl).mp completes
    obtain ⟨second, long, noGreater⟩ := (takes_behind_iff (by decide) (by decide)).mp takes
    rw [same, same', same'', code]
    exact .four range second long noGreater third fourth

/-- What is in the table begins with a first byte and goes on as that demands. -/
theorem IsSeveral.completes {bytes : List UInt8} {n : Nat} (several : IsSeveral bytes n) :
    ∃ b begun bs, bytes = b :: bs ∧ Begun.ofFirst? b = some begun ∧ begun.Completes bs n := by
  cases several with
  | two first second =>
      exact ⟨_, _, _, rfl, ofFirst?_two first, (completes_one rfl).mpr ⟨_, rfl, second, rfl⟩⟩
  | three first second long noSurrogate third =>
      exact ⟨_, _, _, rfl, ofFirst?_three first,
        (completes_more Nat.one_lt_two).mpr ⟨_, _, rfl,
          (takes_behind_iff (by decide) (by decide)).mpr ⟨second, long, noSurrogate⟩,
          (completes_one rfl).mpr ⟨_, rfl, third, rfl⟩⟩⟩
  | four first second long noGreater third fourth =>
      exact ⟨_, _, _, rfl, ofFirst?_four first,
        (completes_more (show 1 < 3 by decide)).mpr ⟨_, _, rfl,
          (takes_behind_iff (by decide) (by decide)).mpr ⟨second, long, noGreater⟩,
          (completes_more (show 1 < 2 by decide)).mpr ⟨_, _, rfl, third,
            (completes_one rfl).mpr ⟨_, rfl, fourth, rfl⟩⟩⟩⟩

/-! ## Texts -/

/-- Decoding takes the bytes of a character as that character. -/
theorem decode_encodeChar (c : Char) (rest : List UInt8) :
    decode (encodeChar c ++ rest) = some c :: decode rest := by
  by_cases one : c.toNat < 0x80
  · obtain ⟨b, first⟩ := exists_byte (k := c.toNat) (by omega)
    have lt : b < 0x80 := UInt8.lt_iff_toNat_lt.mpr (first ▸ one)
    rw [encodeChar_one (first ▸ one) first.symm, List.singleton_append, decode, decodeFrom,
      if_pos lt, first, Char.ofNat_toNat]
    rfl
  · obtain ⟨bytes, several⟩ := exists_isSeveral (Nat.not_lt.mp one)
    obtain ⟨b, begun, bs, split, first, completes⟩ := several.completes
    have ge : ¬ b < 0x80 :=
      Nat.not_lt.mpr (Nat.le_trans (by decide) (first_of_ofFirst? first).1)
    rw [several.encodeChar rfl, split, List.cons_append, decode, decodeFrom, if_neg ge, first]
    exact (decodeFrom_completes completes rest).trans (by rw [Char.ofNat_toNat]; rfl)

theorem decode_encode (cs : List Char) : decode (encode cs) = cs.map some := by
  induction cs with
  | nil => rfl
  | cons c cs ih =>
      have split : encode (c :: cs) = encodeChar c ++ encode cs := rfl
      rw [split, decode_encodeChar, ih]
      rfl

/-- Bytes that are decoded without invalid parts are what the characters are written as. -/
theorem eq_encode_of_decode {cs : List Char} : ∀ {bs : List UInt8},
    decode bs = cs.map some → bs = encode cs := by
  induction cs with
  | nil =>
      intro bs decoded
      cases bs with
      | nil => rfl
      | cons b bs =>
          rw [List.map_nil, decode, decodeFrom] at decoded
          split at decoded
          · cases decoded
          · split at decoded
            · exact (decodeFrom_begun_ne_nil _ decoded).elim
            · cases decoded
  | cons c cs ih =>
      intro bs decoded
      have split : encode (c :: cs) = encodeChar c ++ encode cs := rfl
      cases bs with
      | nil => cases decoded
      | cons b bs =>
          rw [List.map_cons, decode, decodeFrom] at decoded
          split at decoded
          case isTrue lt =>
            have first : b.toNat < 0x80 := lt
            obtain ⟨same, others⟩ := List.cons.inj decoded
            obtain ⟨c', code⟩ := exists_char (n := b.toNat) (by omega)
            rw [← code, Char.ofNat_toNat] at same
            rw [split, ← Option.some.inj same, encodeChar_one first code, ih others]
            rfl
          case isFalse =>
            split at decoded
            case h_1 begun first =>
              obtain ⟨mine, rest, n, same, completes, char, others⟩ := exists_completes decoded
              have several := isSeveral_of_completes first completes
              obtain ⟨c', code⟩ := several.exists_char
              rw [← code, Char.ofNat_toNat] at char
              rw [split, char, several.encodeChar code, same, ih others]
              rfl
            case h_2 => cases decoded

theorem mapM_id_eq_some_iff {parts : List (Option Char)} : ∀ {cs : List Char},
    parts.mapM id = some cs ↔ parts = cs.map some := by
  induction parts with
  | nil => intro cs; cases cs <;> simp
  | cons part parts ih =>
      intro cs
      cases part with
      | none => cases cs <;> simp
      | some c =>
          cases cs with
          | nil => cases h : parts.mapM id <;> simp [h]
          | cons c' cs =>
              rw [List.map_cons, List.cons.injEq, ← ih]
              cases h : parts.mapM id <;> simp [h]

/-- Bytes are a text exactly if they are what the text is written as. -/
theorem decode?_eq_some_iff {bs : List UInt8} {cs : List Char} :
    decode? bs = some cs ↔ bs = encode cs := by
  rw [decode?, mapM_id_eq_some_iff]
  constructor
  · exact eq_encode_of_decode
  · intro same
    rw [same, decode_encode]

end Checkup.Text.Utf8
