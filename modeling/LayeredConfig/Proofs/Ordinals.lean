import LayeredConfig.Proofs.Freezing
import LayeredConfig.Proofs.Wrappers

namespace LayeredConfig

namespace Context

variable {c : Context} {m : Moment}

def ordinal? (c : Context) (m : Moment) : Option Int :=
  (c.text? m Source.ordinalKey).bind Source.readOrdinal

theorem ranking_gives (hc : ∀ s ∈ c.sources, s.Steady m) :
    c.ranking.Gives m
      ((Resolution.ranked m c.sources).map (fun s => (s.name, s.ordinalAt m))) := by
  have hpairs : (Resolution.ranked m c.sources).map (fun s => (s.name, s.ordinalAt m)) =
      (Resolution.byOrdinal (c.sources.map (fun s => (s.ordinalAt m, s)))).map
        (fun e => (e.2.name, e.1)) := by
    rw [← Resolution.map_ranked_eq_byOrdinal, List.map_map]
    rfl
  rw [hpairs]
  exact (Resolution.measured_gives hc).bind (Reading.gives_pure _)

end Context

namespace Source

variable {c : Context} {m : Moment} {s : Source}

theorem wrapping_text? (hc : c.Steady m) (id : Nat) (name : String) (ordinal : Int)
    (key : String) : (wrapping id name ordinal c).text? m key = c.text? m key := by
  rw [text?, wrapping_value? hc]
  cases c.text? m key <;> rfl

theorem wrapping_ownOrdinal? (hc : c.Steady m) (id : Nat) (name : String) (ordinal : Int) :
    (wrapping id name ordinal c).ownOrdinal? m = c.ordinal? m := by
  rw [ownOrdinal?_eq_text?, wrapping_text? hc, Context.ordinal?]

theorem wrapping_ordinal_gives (hc : c.Steady m) (id : Nat) (name : String) (ordinal : Int) :
    (wrapping id name ordinal c).ordinal.Gives m ((c.ordinal? m).getD ordinal) := by
  rw [← wrapping_ownOrdinal? hc id name ordinal]
  exact ordinal_gives (wrapping_steady hc id name ordinal)

theorem wrapping_ordinalAt (hc : c.Steady m) (id : Nat) (name : String) (ordinal : Int) :
    (wrapping id name ordinal c).ordinalAt m = (c.ordinal? m).getD ordinal :=
  (wrapping_ordinal_gives hc id name ordinal).value_eq

structure Shell where
  id : Nat
  name : String
  ordinal : Int
  registry : Registry

def Shell.around (x : Shell) (s : Source) : Source :=
  wrapping x.id x.name x.ordinal ⟨[s], [], x.registry⟩

def tower (s : Source) (shells : List Shell) : Source := shells.foldl (fun s x => x.around s) s

theorem Shell.around_steady (h : s.Steady m) (x : Shell) : (x.around s).Steady m :=
  wrapping_steady (Context.single_steady h x.registry) x.id x.name x.ordinal

theorem Shell.around_text? (h : s.Steady m) (x : Shell) (key : String) :
    (x.around s).text? m key = s.text? m key := by
  rw [around, wrapping_text? (Context.single_steady h x.registry), Context.text?,
    Context.property?_single, text?]

theorem tower_steady (h : s.Steady m) (shells : List Shell) : (tower s shells).Steady m := by
  induction shells generalizing s with
  | nil => exact h
  | cons x rest ih => exact ih (x.around_steady h)

theorem tower_text? (h : s.Steady m) (shells : List Shell) (key : String) :
    (tower s shells).text? m key = s.text? m key := by
  induction shells generalizing s with
  | nil => rfl
  | cons x rest ih => exact (ih (x.around_steady h)).trans (x.around_text? h key)

theorem tower_ordinalAt (h : s.Steady m) (shells : List Shell) (x : Shell) :
    (tower s (shells ++ [x])).ordinalAt m = (s.ownOrdinal? m).getD x.ordinal := by
  -- The outermost shell says the ordinal only where the source inside does not.
  have hinner := tower_steady h shells
  have hsplit : tower s (shells ++ [x]) = x.around (tower s shells) := by
    rw [tower, List.foldl_append]
    rfl
  rw [hsplit, ordinalAt_eq (x.around_steady hinner), ownOrdinal?_eq_text?,
    x.around_text? hinner, tower_text? h, ← ownOrdinal?_eq_text?]
  rfl

/-- A wrapped context has the ordinal that it is wrapped with just where it gives no other one for
the ordinal key, and whatever it gives there decides its rank in every context and through all
further wrapping. -/
theorem wrapping_ordinal_exact (hc : c.Steady m) (id : Nat) (name : String) (ordinal : Int) :
    let w := wrapping id name ordinal c
    w.ordinal.Gives m ((c.ordinal? m).getD ordinal) ∧
    (w.ordinalAt m = ordinal ↔ ∀ n, c.ordinal? m = some n → n = ordinal) ∧
    (∀ outer : Context, (∀ s ∈ outer.sources, s.Steady m) → w ∈ outer.sources →
      ∃ ranks, outer.ranking.Gives m ranks ∧ ranks.Pairwise (fun a b => a.2 ≤ b.2) ∧
        (name, (c.ordinal? m).getD ordinal) ∈ ranks) ∧
    (∀ (shells : List Shell) (x : Shell),
      (tower w (shells ++ [x])).ordinalAt m = (c.ordinal? m).getD x.ordinal) := by
  intro w
  have hordinal : w.ordinalAt m = (c.ordinal? m).getD ordinal :=
    wrapping_ordinalAt hc id name ordinal
  refine ⟨wrapping_ordinal_gives hc id name ordinal, ?_, ?_, fun shells x => ?_⟩
  · rw [hordinal]
    cases c.ordinal? m <;> simp
  · intro outer houter hw
    refine ⟨_, Context.ranking_gives houter, ?_, ?_⟩
    · exact (Resolution.ranked_pairwise m outer.sources).map _ (fun s t hst => hst)
    · rw [← hordinal]
      exact List.mem_map.mpr ⟨w, Resolution.mem_ranked.mpr hw, rfl⟩
  · rw [tower_ordinalAt (wrapping_steady hc id name ordinal),
      wrapping_ownOrdinal? hc id name ordinal]

theorem wrapping_ordinal_exact_tower :
    let m : Moment := ⟨.empty, []⟩
    let low := fixed 0 "low" 0 true (.ofList [("k", "1")]) .empty
    let high := fixed 1 "high" 5 false (.ofList [("strata.ordinal", " 7 ")]) .empty
    let c : Context := ⟨[high, low], [], .empty 0⟩
    let w := wrapping 2 "outer" 10 c
    c.Steady m ∧ w.ordinal.Gives m 7 ∧ w.ordinalAt m ≠ 10 ∧
      (tower w [⟨3, "around", 20, .empty 0⟩, ⟨4, "outermost", 30, .empty 0⟩]).ordinalAt m = 7 := by
  intro m low high c w
  have hc : c.Steady m := by
    refine ⟨?_, by simp [c]⟩
    simp only [c, List.forall_mem_cons]
    exact ⟨fixed_steady .., fixed_steady .., by simp⟩
  have hdecides : Resolution.Decides m c.sources ordinalKey 0 high := by
    refine ⟨rfl, rfl, fun j t hj ht => ?_⟩
    match j, hj with
    | 0, rfl => exact .inr ⟨rfl, Nat.le_refl 0⟩
    | 1, rfl => exact absurd ht (by decide)
  have hordinal : c.ordinal? m = some 7 := by
    rw [Context.ordinal?, Context.text?, Context.property?_of_decides hdecides]
    rfl
  obtain ⟨hgives, hexact, -, htower⟩ := wrapping_ordinal_exact hc 2 "outer" 10
  rw [hordinal] at hgives
  refine ⟨hc, hgives, fun h => ?_, ?_⟩
  · exact absurd (hexact.mp h 7 hordinal) (by decide)
  · have htower := htower [⟨3, "around", 20, .empty 0⟩] ⟨4, "outermost", 30, .empty 0⟩
    rwa [hordinal] at htower

theorem wrapping_ordinal_overridden :
    let m : Moment := ⟨.empty, []⟩
    let inner := fixed 0 "inner" 0 true (.ofList [("k", "inner"), ("strata.ordinal", "500")]) .empty
    let c : Context := ⟨[inner], [], .empty 0⟩
    let w := wrapping 1 "outer" 10 c
    let mid := fixed 2 "mid" 100 true (.ofList [("k", "mid")]) .empty
    let outer : Context := ⟨[w, mid], [], .empty 0⟩
    c.Steady m ∧ w.ordinalAt m = 500 ∧ outer.ranking.Gives m [("mid", 100), ("outer", 500)] ∧
      (outer.get "k").Gives m (some "inner") := by
  intro m inner c w mid outer
  have hinner : inner.Steady m := fixed_steady ..
  have hc : c.Steady m := Context.single_steady hinner (.empty 0)
  have hordinal : w.ordinalAt m = 500 := by
    rw [wrapping_ordinalAt hc, Context.ordinal?, Context.text?, Context.property?_single]
    rfl
  have hmid : mid.ordinalAt m = 100 := rfl
  have houter : outer.Steady m := by
    refine ⟨?_, by simp [outer]⟩
    simp only [outer, List.forall_mem_cons]
    exact ⟨wrapping_steady hc .., fixed_steady .., by simp⟩
  have hranked : Resolution.ranked m outer.sources = [mid, w] := by
    simp [Resolution.ranked, outer, List.mergeSort, hordinal, hmid]
  have hvalue : w.value? m "k" = some (Property.of "k" "inner" "outer") := by
    rw [wrapping_value? hc, Context.text?, Context.property?_single]
    rfl
  have htext : outer.text? m "k" = some "inner" := by
    rw [Context.text?, Context.property?, hranked, Resolution.highest?]
    simp [hvalue, outer]
    rfl
  refine ⟨hc, hordinal, ?_, htext ▸ Context.get_gives houter "k"⟩
  have hranking := Context.ranking_gives houter.sources
  rwa [hranked, List.map_cons, List.map_cons, hordinal] at hranking

end Source

end LayeredConfig
