import LayeredConfig.Number.Digits

namespace LayeredConfig.Number

structure IntType where
  signed : Bool
  bits : Nat
deriving DecidableEq, Repr

namespace IntType

def min (t : IntType) : Int := if t.signed then -(Nat.pow 2 (t.bits - 1) : Nat) else 0

def max (t : IntType) : Int :=
  if t.signed then ((Nat.pow 2 (t.bits - 1) : Nat) : Int) - 1
  else ((Nat.pow 2 t.bits : Nat) : Int) - 1

def contains (t : IntType) (n : Int) : Bool := t.min ≤ n && n ≤ t.max

def within (t : IntType) (n : Int) : Option Int := if t.contains n then some n else none

end IntType

def readInteger (t : IntType) (base : Nat) (s : List Char) : Option Int :=
  match s with
  | '+' :: digits => (digitsValue? base digits).bind (fun n => t.within n)
  | '-' :: digits =>
    if t.signed then (digitsValue? base digits).bind (fun n => t.within (-(n : Int))) else none
  | digits => (digitsValue? base digits).bind (fun n => t.within n)

def i32 : IntType := ⟨true, 32⟩

def i64 : IntType := ⟨true, 64⟩

def u64 : IntType := ⟨false, 64⟩

theorem within_eq_some_iff {t : IntType} {n m : Int} :
    t.within n = some m ↔ n = m ∧ t.min ≤ n ∧ n ≤ t.max := by
  simp only [IntType.within, IntType.contains, Bool.and_eq_true, decide_eq_true_eq]
  by_cases h : t.min ≤ n ∧ n ≤ t.max
  · simp [h]
  · simp [h]

theorem readInteger_bounds {t : IntType} {base : Nat} {s : List Char} {n : Int}
    (h : readInteger t base s = some n) : t.min ≤ n ∧ n ≤ t.max := by
  have key : ∀ {o : Option Nat} {f : Nat → Int},
      o.bind (fun m => t.within (f m)) = some n → t.min ≤ n ∧ n ≤ t.max := by
    intro o f ho
    obtain ⟨m, _, hm⟩ := Option.bind_eq_some_iff.1 ho
    obtain ⟨rfl, hb⟩ := within_eq_some_iff.1 hm
    exact hb
  unfold readInteger at h
  split at h
  · exact key h
  · split at h
    · exact key h
    · cases h
  · exact key h

theorem readInteger_toString {t : IntType} {n : Int} (h : t.contains n = true) :
    readInteger t 10 (toString n).toList = some n := by
  have hn : t.within n = some n := if_pos h
  cases n with
  | ofNat n =>
    have htext : toString (Int.ofNat n) = toString n := rfl
    have hunsigned : ∀ c rest, c.isDigit = false → (toString n).toList ≠ c :: rest := by
      intro c rest hc heq
      have hmem : c ∈ (toString n).toList := heq ▸ List.mem_cons_self
      rw [isDigit_of_mem_toString hmem] at hc
      cases hc
    rw [htext, readInteger]
    · rw [digitsValue?_toString, Option.bind_some]
      exact hn
    · exact fun rest => hunsigned '+' rest rfl
    · exact fun rest => hunsigned '-' rest rfl
  | negSucc n =>
    have htext : (toString (Int.negSucc n)).toList = '-' :: (toString (n + 1)).toList :=
      String.toList_append
    have hsigned : t.signed = true := by
      cases hs : t.signed with
      | true => rfl
      | false =>
        simp only [IntType.contains, IntType.min, hs, Bool.and_eq_true, decide_eq_true_eq] at h
        exact absurd h.1 (by simp)
    rw [htext, readInteger, if_pos hsigned, digitsValue?_toString, Option.bind_some]
    exact hn

end LayeredConfig.Number
