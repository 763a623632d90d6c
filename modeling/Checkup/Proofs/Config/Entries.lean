import Mathlib.Data.Char
import Mathlib.Data.List.Lex
import Mathlib.Data.List.ReduceOption
import Checkup.Config.Properties
import Checkup.Proofs.Lookup

/-!
# Entries of properties

* `IsOrdered`: entries are in the order of their keys, each key once.  `insertEntry` keeps this, and
  `addAll_perm` says that entries with different keys are all kept.
* `get?_addAll`: of several entries with one key, the last counts.
* `ext_get?`: ordered entries are known from the values of all keys.
* `parseLines_eq_ok_iff`: lines that can be read add what each of them says, one after the other.
-/

namespace Checkup.Config.Properties

/-- A key and its value. -/
abbrev Entry := List Char × List Char

variable {key value : List Char} {e : Entry} {es : List Entry} {p : Properties}

/-! ## Inserting entries -/

/-- The entries are in the order of their keys, and each key is there once. -/
def IsOrdered (es : List Entry) : Prop := es.Pairwise fun a b => a.1 < b.1

instance (es : List Entry) : Decidable (IsOrdered es) :=
  inferInstanceAs (Decidable (es.Pairwise fun a b => a.1 < b.1))

theorem mem_insertEntry (mem : e ∈ insertEntry key value es) : e = (key, value) ∨ e ∈ es := by
  induction es with
  | nil => exact .inl (List.mem_singleton.mp mem)
  | cons first es ih =>
      rw [insertEntry] at mem
      split at mem
      · exact (List.mem_cons.mp mem).imp_right (List.mem_cons_of_mem first)
      · split at mem
        · exact List.mem_cons.mp mem
        · rcases List.mem_cons.mp mem with rfl | later
          · exact .inr List.mem_cons_self
          · exact (ih later).imp_right (List.mem_cons_of_mem first)

theorem insertEntry_ordered (ordered : IsOrdered es) : IsOrdered (insertEntry key value es) := by
  induction es with
  | nil => exact List.pairwise_singleton _ _
  | cons first es ih =>
      rcases List.pairwise_cons.mp ordered with ⟨least, rest⟩
      rw [insertEntry]
      split
      case isTrue same => exact List.pairwise_cons.mpr ⟨same ▸ least, rest⟩
      case isFalse other =>
        split
        case isTrue before =>
          refine List.pairwise_cons.mpr ⟨?_, ordered⟩
          intro e mem
          rcases List.mem_cons.mp mem with rfl | later
          · exact before
          · exact before.trans (least e later)
        case isFalse behind =>
          refine List.pairwise_cons.mpr ⟨?_, ih rest⟩
          intro e mem
          rcases mem_insertEntry mem with rfl | old
          · exact lt_of_le_of_ne (not_lt.mp behind) (Ne.symm other)
          · exact least e old

theorem insertEntry_perm (new : key ∉ es.map Prod.fst) :
    (insertEntry key value es).Perm ((key, value) :: es) := by
  induction es with
  | nil => exact .refl _
  | cons first es ih =>
      rw [List.map_cons, List.mem_cons, not_or] at new
      rw [insertEntry, if_neg new.1]
      split
      · exact .refl _
      · exact ((ih new.2).cons first).trans (.swap _ _ _)

/-! ## Many entries -/

/-- The properties with entries added one after the other. -/
def addAll (p : Properties) (es : List Entry) : Properties :=
  es.foldl (fun p e => p.insert e.1 e.2) p

theorem mem_addAll (mem : e ∈ (p.addAll es).entries) : e ∈ p.entries ∨ e ∈ es := by
  induction es generalizing p with
  | nil => exact .inl mem
  | cons first es ih =>
      rcases ih mem with old | later
      · rcases mem_insertEntry old with rfl | older
        · exact .inr List.mem_cons_self
        · exact .inl older
      · exact .inr (List.mem_cons_of_mem first later)

theorem addAll_ordered (ordered : IsOrdered p.entries) : IsOrdered (p.addAll es).entries := by
  induction es generalizing p with
  | nil => exact ordered
  | cons first es ih => exact ih (insertEntry_ordered ordered)

/-- Entries with keys of their own are all kept. -/
theorem addAll_perm (distinct : ((p.entries ++ es).map Prod.fst).Nodup) :
    (p.addAll es).entries.Perm (p.entries ++ es) := by
  induction es generalizing p with
  | nil => rw [List.append_nil]; exact .refl _
  | cons first es ih =>
      have moved : (p.entries ++ first :: es).Perm (first :: (p.entries ++ es)) :=
        List.perm_middle
      have separate := (moved.map Prod.fst).nodup_iff.mp distinct
      rw [List.map_cons, List.nodup_cons, List.map_append, List.mem_append, not_or] at separate
      have inserted : (p.insert first.1 first.2).entries.Perm (first :: p.entries) :=
        insertEntry_perm separate.1.1
      have both : ((p.insert first.1 first.2).entries ++ es).Perm (p.entries ++ first :: es) :=
        (inserted.append_right es).trans moved.symm
      exact (ih ((both.map Prod.fst).nodup_iff.mpr distinct)).trans both

/-- Ordered entries are known from which there are. -/
theorem eq_of_perm {es' : List Entry} (ordered : IsOrdered es) (ordered' : IsOrdered es')
    (perm : es.Perm es') : es = es' :=
  List.Perm.eq_of_pairwise (fun _ _ _ _ before behind => absurd before (lt_asymm behind)) ordered
    ordered' perm

theorem IsOrdered.nodup (ordered : IsOrdered es) : (es.map Prod.fst).Nodup :=
  List.pairwise_map.mpr (ordered.imp fun before => ne_of_lt before)

/-- Ordered properties are put together again from their entries, in whichever order these come. -/
theorem empty_addAll (ordered : IsOrdered p.entries) (perm : es.Perm p.entries) :
    empty.addAll es = p := by
  have distinct : ((empty.entries ++ es).map Prod.fst).Nodup :=
    (perm.map Prod.fst).nodup_iff.mpr ordered.nodup
  have all : (empty.addAll es).entries.Perm es := addAll_perm distinct
  have same : (empty.addAll es).entries = p.entries :=
    eq_of_perm (addAll_ordered .nil) ordered (all.trans perm)
  exact congrArg Properties.mk same

/-! ## The values of keys -/

theorem lookup_insertEntry (k : List Char) :
    (insertEntry key value es).lookup k = if k = key then some value else es.lookup k := by
  induction es with
  | nil => exact lookup_cons_eq_ite key value [] k
  | cons first es ih =>
      obtain ⟨other, old⟩ := first
      rw [insertEntry]
      by_cases same : key = other
      · rw [if_pos same, lookup_cons_eq_ite, lookup_cons_eq_ite, ← same]
        by_cases found : k = key <;> simp only [found, if_true, if_false]
      · rw [if_neg same]
        split
        · exact lookup_cons_eq_ite key value _ k
        · rw [lookup_cons_eq_ite, lookup_cons_eq_ite, ih]
          by_cases found : k = key
          · rw [if_pos found, if_pos found, if_neg (found ▸ same)]
          · rw [if_neg found, if_neg found]

/-- Giving one key a value leaves the others what they have. -/
theorem get?_insert (k : List Char) :
    (p.insert key value).get? k = if k = key then some value else p.get? k :=
  lookup_insertEntry k

/-- The last of some entries with a key counts. -/
theorem get?_addAll (k : List Char) :
    (p.addAll es).get? k = (es.reverse.lookup k).or (p.get? k) := by
  induction es generalizing p with
  | nil => rfl
  | cons first es ih =>
      have step : (p.addAll (first :: es)).get? k = ((p.insert first.1 first.2).addAll es).get? k :=
        rfl
      rw [step, ih, get?_insert, List.reverse_cons, List.lookup_append, Option.or_assoc,
        List.lookup_singleton]
      by_cases found : k = first.1 <;> simp [found]

/-- Ordered properties are known from the values of all keys. -/
theorem ext_get? {q : Properties} (ordered : IsOrdered p.entries) (ordered' : IsOrdered q.entries)
    (same : ∀ k, p.get? k = q.get? k) : p = q := by
  have members (e : Entry) : e ∈ p.entries ↔ e ∈ q.entries := by
    rw [← lookup_eq_some_iff ordered.nodup, ← lookup_eq_some_iff ordered'.nodup]
    exact Eq.congr_left (same e.1)
  have perm : p.entries.Perm q.entries :=
    (List.perm_ext_iff_of_nodup ordered.nodup.of_map ordered'.nodup.of_map).mpr members
  exact congrArg Properties.mk (eq_of_perm ordered ordered' perm)

/-! ## Reading lines -/

/-- Each line says the entry beside it, or nothing. -/
def Say (lines : List (List Char)) (said : List (Option Entry)) : Prop :=
  List.Forall₂ (fun line entry => parseLine line = .ok entry) lines said

theorem parseLines_eq_ok_iff {number : Nat} {lines : List (List Char)} {q : Properties} :
    parseLines p number lines = .ok q ↔
      ∃ said, Say lines said ∧ q = p.addAll said.reduceOption := by
  induction lines generalizing p number with
  | nil =>
      rw [parseLines, Except.ok.injEq]
      constructor
      · rintro rfl
        exact ⟨[], .nil, rfl⟩
      · rintro ⟨_, ⟨⟩, rfl⟩
        rfl
  | cons line lines ih =>
      rw [parseLines]
      rcases said : parseLine line with fault | _ | entry
      · refine ⟨fun failed => (nomatch failed), ?_⟩
        rintro ⟨_, _ | ⟨first, later⟩, rfl⟩
        cases said.symm.trans first
      · refine ih.trans ⟨?_, ?_⟩
        · rintro ⟨later, all, rfl⟩
          exact ⟨none :: later, .cons said all, rfl⟩
        · rintro ⟨_, _ | ⟨first, later⟩, rfl⟩
          cases said.symm.trans first
          exact ⟨_, later, rfl⟩
      · refine ih.trans ⟨?_, ?_⟩
        · rintro ⟨later, all, rfl⟩
          exact ⟨some entry :: later, .cons said all, rfl⟩
        · rintro ⟨_, _ | ⟨first, later⟩, rfl⟩
          cases said.symm.trans first
          exact ⟨_, later, rfl⟩

theorem Say.exists_entry {lines : List (List Char)} {said : List (Option Entry)}
    (each : Say lines said) {line : List Char} (mem : line ∈ lines) :
    ∃ entry, parseLine line = .ok entry := by
  induction each with
  | nil => cases mem
  | cons first _ ih =>
      rcases List.mem_cons.mp mem with rfl | later
      · exact ⟨_, first⟩
      · exact ih later

/-- What is said in lines that can be read is said by one of them. -/
theorem Say.exists_line {lines : List (List Char)} {said : List (Option Entry)}
    (each : Say lines said) (mem : e ∈ said.reduceOption) :
    ∃ line ∈ lines, parseLine line = .ok (some e) := by
  rw [List.reduceOption_mem_iff] at mem
  induction each with
  | nil => cases mem
  | @cons line entry lines said first _ ih =>
      rcases List.mem_cons.mp mem with rfl | later
      · exact ⟨line, List.mem_cons_self, first⟩
      · rcases ih later with ⟨other, among, found⟩
        exact ⟨other, List.mem_cons_of_mem line among, found⟩

end Checkup.Config.Properties
