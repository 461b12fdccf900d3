import Mathlib.Data.List.Forall2

namespace LayeredConfig

variable {α β : Type} {R : α → β → Prop} {l : List α} {m : List β}

theorem eq_take_cons_drop {i : Nat} {a : α} (h : l[i]? = some a) :
    l = l.take i ++ a :: l.drop (i + 1) := by
  obtain ⟨hi, hget⟩ := List.getElem?_eq_some_iff.mp h
  rw [← hget, ← List.drop_eq_getElem_cons hi, List.take_append_drop]

theorem getElem?_of_prefix {long : List α} (h : l <+: long) {i : Nat} {a : α}
    (ha : l[i]? = some a) : long[i]? = some a := by
  obtain ⟨hi, rfl⟩ := List.getElem?_eq_some_iff.mp ha
  exact List.prefix_iff_getElem?.mp h i hi

theorem exists_getElem?_of_forall₂ (h : List.Forall₂ R l m) {i : Nat} {a : α}
    (ha : l[i]? = some a) : ∃ b, m[i]? = some b ∧ R a b := by
  obtain ⟨hi, hget⟩ := List.getElem?_eq_some_iff.mp ha
  have hi' : i < m.length := h.length_eq ▸ hi
  refine ⟨m[i], List.getElem?_eq_getElem hi', ?_⟩
  rw [← hget]
  exact h.get hi hi'

theorem forall₂_modify (h : List.Forall₂ R l m) (i : Nat) {f : α → α} {g : β → β}
    (hfg : ∀ a b, R a b → R (f a) (g b)) : List.Forall₂ R (l.modify i f) (m.modify i g) := by
  induction h generalizing i with
  | nil => cases i <;> exact .nil
  | cons hab hrest ih =>
    cases i with
    | zero => exact .cons (hfg _ _ hab) hrest
    | succ i => exact .cons hab (ih i)

theorem forall₂_of_zipIdx (h : List.Forall₂ (fun a x => R a x.1) l m.zipIdx) :
    List.Forall₂ R l m := by
  have hmap : List.Forall₂ R l (m.zipIdx.map (·.1)) := List.forall₂_map_right_iff.mpr h
  rwa [List.zipIdx_map_fst] at hmap

end LayeredConfig
