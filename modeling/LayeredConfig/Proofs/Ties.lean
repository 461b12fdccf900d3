import LayeredConfig.Proofs.Enumeration

namespace LayeredConfig

namespace Resolution

variable {β : Type} {f : Source → Option β} {m : Moment} {sources others : List Source}

def lastAnswer (f : Source → Option β) (sources : List Source) : Option β :=
  sources.reverse.findSome? f

def tied (m : Moment) (o : Int) (sources : List Source) : List Source :=
  sources.filter (fun s => s.ordinalAt m = o)

theorem highest?_eq_lastAnswer (key : String) (sources : List Source) :
    highest? m key sources = lastAnswer (fun s => s.value? m key) sources := rfl

theorem enumerated?_eq_lastAnswer (key : String) (sources : List Source) :
    enumerated? m key sources = lastAnswer (shown? m key) sources := rfl

theorem lastAnswer_append (f : Source → Option β) (sources others : List Source) :
    lastAnswer f (sources ++ others) = (lastAnswer f others).or (lastAnswer f sources) := by
  rw [lastAnswer, List.reverse_append, List.findSome?_append]
  rfl

theorem lastAnswer_eq_none_iff : lastAnswer f sources = none ↔ ∀ s ∈ sources, f s = none := by
  simp [lastAnswer]

theorem lastAnswer_filter {p : Source → Bool} (h : ∀ s ∈ sources, p s = false → f s = none) :
    lastAnswer f (sources.filter p) = lastAnswer f sources := by
  induction sources with
  | nil => rfl
  | cons s rest ih =>
    have hrest := ih (fun t ht => h t (List.mem_cons_of_mem _ ht))
    have hsplit : lastAnswer f (s :: rest) = (lastAnswer f rest).or (lastAnswer f [s]) :=
      lastAnswer_append f [s] rest
    cases hp : p s with
    | true =>
      rw [List.filter_cons_of_pos hp, hsplit, ← hrest]
      exact lastAnswer_append f [s] _
    | false =>
      have hnone : lastAnswer f [s] = none := by simp [lastAnswer, h s List.mem_cons_self hp]
      rw [List.filter_cons_of_neg (by simp [hp]), hsplit, hnone, Option.or_none, hrest]

theorem tied_append (o : Int) (sources others : List Source) :
    tied m o (sources ++ others) = tied m o sources ++ tied m o others :=
  List.filter_append ..

theorem mem_tied {o : Int} {s : Source} :
    s ∈ tied m o sources ↔ s ∈ sources ∧ s.ordinalAt m = o := by
  simp [tied]

theorem tied_ranked (o : Int) (sources : List Source) :
    tied m o (ranked m sources) = tied m o sources :=
  ranked_filter m sources o

theorem lastAnswer_tied_eq_none {o : Int} (h : ∀ s ∈ sources, f s = none) :
    lastAnswer f (tied m o sources) = none :=
  lastAnswer_eq_none_iff.mpr (fun s hs => h s (mem_tied.mp hs).1)

theorem exists_highest_tie {b : β} (h : lastAnswer f (ranked m sources) = some b) :
    ∃ o, lastAnswer f (tied m o sources) = some b ∧
      ∀ above, o < above → lastAnswer f (tied m above sources) = none := by
  obtain ⟨higher, s, lower, hsplit, hs, hnone⟩ := List.findSome?_eq_some_iff.mp h
  have hranked : ranked m sources = lower.reverse ++ [s] ++ higher.reverse := by
    rw [← List.reverse_reverse (ranked m sources), hsplit]
    simp
  have hhigher : ∀ t ∈ higher.reverse, f t = none := fun t ht => hnone t (List.mem_reverse.mp ht)
  have hlower : ∀ t ∈ lower.reverse ++ [s], t.ordinalAt m ≤ s.ordinalAt m := by
    have hsorted := ranked_pairwise m sources
    rw [hranked] at hsorted
    have hbelow := (List.pairwise_append.mp (List.pairwise_append.mp hsorted).1).2.2
    intro t ht
    rcases List.mem_append.mp ht with ht | ht
    · exact hbelow t ht s (List.mem_singleton.mpr rfl)
    · obtain rfl := List.mem_singleton.mp ht
      exact Int.le_refl _
  refine ⟨s.ordinalAt m, ?_, fun above habove => ?_⟩
  · have hself : tied m (s.ordinalAt m) [s] = [s] := by simp [tied]
    rw [← tied_ranked, hranked, tied_append, tied_append, hself, lastAnswer_append,
      lastAnswer_append, lastAnswer_tied_eq_none hhigher]
    simp [lastAnswer, hs]
  · have hnobody : tied m above (lower.reverse ++ [s]) = [] := by
      rw [tied, List.filter_eq_nil_iff]
      intro t ht
      have := hlower t ht
      simp only [decide_eq_true_eq]
      omega
    rw [← tied_ranked, hranked, tied_append, hnobody, List.nil_append]
    exact lastAnswer_tied_eq_none hhigher

theorem lastAnswer_tied_of_ranked_eq_none (h : lastAnswer f (ranked m sources) = none) (o : Int) :
    lastAnswer f (tied m o sources) = none :=
  lastAnswer_tied_eq_none (fun s hs => lastAnswer_eq_none_iff.mp h s (mem_ranked.mpr hs))

theorem lastAnswer_ranked_congr
    (h : ∀ o, lastAnswer f (tied m o sources) = lastAnswer f (tied m o others)) :
    lastAnswer f (ranked m sources) = lastAnswer f (ranked m others) := by
  cases hb : lastAnswer f (ranked m sources) with
  | none =>
    cases hc : lastAnswer f (ranked m others) with
    | none => rfl
    | some c =>
      obtain ⟨o, ho, -⟩ := exists_highest_tie hc
      rw [← h, lastAnswer_tied_of_ranked_eq_none hb] at ho
      cases ho
  | some b =>
    obtain ⟨o, ho, habove⟩ := exists_highest_tie hb
    cases hc : lastAnswer f (ranked m others) with
    | none =>
      rw [h, lastAnswer_tied_of_ranked_eq_none hc] at ho
      cases ho
    | some c =>
      obtain ⟨o', ho', habove'⟩ := exists_highest_tie hc
      -- Neither tie is above the other, since both answer in both lists.
      rcases Int.lt_trichotomy o o' with hlt | rfl | hgt
      · rw [← h, habove o' hlt] at ho'
        cases ho'
      · exact (ho.symm.trans (h o)).trans ho'
      · rw [h, habove' o hgt] at ho
        cases ho

end Resolution

end LayeredConfig
