import Mathlib.Data.List.Nodup

/-!
# Looking keys up

In a list of pairs with keys of their own, looking a key up finds the pair that it is in.
-/

namespace Checkup

variable {α β : Type} [BEq α] [LawfulBEq α] {es : List (α × β)} {key : α} {v w : β}

theorem lookup_cons_eq_ite [DecidableEq α] (other : α) (v : β) (es : List (α × β)) (key : α) :
    ((other, v) :: es).lookup key = if key = other then some v else es.lookup key := by
  rw [List.lookup_cons]
  by_cases same : key = other
  · rw [beq_iff_eq.mpr same, if_pos same]
  · rw [beq_false_of_ne same, if_neg same]

theorem lookup_eq_some_iff (keys : (es.map Prod.fst).Nodup) :
    es.lookup key = some v ↔ (key, v) ∈ es := by
  induction es with
  | nil => simp
  | cons e es ih =>
      obtain ⟨other, w⟩ := e
      obtain ⟨new, keys⟩ := List.nodup_cons.mp keys
      rw [List.lookup_cons, List.mem_cons, Prod.mk.injEq]
      by_cases same : key = other
      · have absent : (key, v) ∉ es := fun mem => new (List.mem_map.mpr ⟨(key, v), mem, same⟩)
        rw [beq_iff_eq.mpr same]
        simp [same, eq_comm, same ▸ absent]
      · rw [beq_false_of_ne same, ih keys]
        simp [same]

theorem eq_of_mem_of_mem (keys : (es.map Prod.fst).Nodup) (mem : (key, v) ∈ es)
    (mem' : (key, w) ∈ es) : v = w := by
  rw [← lookup_eq_some_iff keys] at mem mem'
  exact Option.some.inj (mem.symm.trans mem')

theorem lookup_eq_none_iff : es.lookup key = none ↔ ∀ v, (key, v) ∉ es := by
  rw [List.lookup_eq_none_iff]
  constructor
  · exact fun other v mem => bne_iff_ne.mp (other _ mem) rfl
  · intro absent e mem
    exact bne_iff_ne.mpr fun same => absent e.2 (same ▸ mem)

/-- It makes no difference from which end a key is looked up. -/
theorem lookup_reverse (keys : (es.map Prod.fst).Nodup) :
    es.reverse.lookup key = es.lookup key := by
  have reversed : (es.reverse.map Prod.fst).Nodup := by
    rwa [List.map_reverse, List.nodup_reverse]
  apply Option.ext
  intro v
  rw [lookup_eq_some_iff reversed, lookup_eq_some_iff keys, List.mem_reverse]

end Checkup
