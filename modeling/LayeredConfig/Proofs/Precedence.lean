import LayeredConfig.Proofs.Answers
import LayeredConfig.Proofs.Places
import Mathlib.Data.List.Pairwise

namespace LayeredConfig.Resolution

variable {m : Moment}

def ranked (m : Moment) (sources : List Source) : List Source :=
  sources.mergeSort (fun s t => s.ordinalAt m ≤ t.ordinalAt m)

def highest? (m : Moment) (key : String) (sources : List Source) : Option Property :=
  sources.reverse.findSome? (fun s => s.value? m key)

structure Decides (m : Moment) (sources : List Source) (key : String) (i : Nat) (s : Source) :
    Prop where
  here : sources[i]? = some s
  present : (s.value? m key).isSome
  greatest : ∀ j t, sources[j]? = some t → (t.value? m key).isSome →
    t.ordinalAt m < s.ordinalAt m ∨ (t.ordinalAt m = s.ordinalAt m ∧ j ≤ i)

theorem measured_gives {sources : List Source} (hs : ∀ s ∈ sources, s.Steady m) :
    (measured sources).Gives m (sources.map (fun s => (s.ordinalAt m, s))) := by
  induction sources with
  | nil => exact Reading.gives_pure _
  | cons s rest ih =>
    have hrest := ih (fun t ht => hs t (List.mem_cons_of_mem _ ht))
    have hs := (Source.ordinal_steady (hs s List.mem_cons_self)).gives
    exact hs.bind (hrest.bind (Reading.gives_pure _))

theorem map_ranked_eq_byOrdinal (m : Moment) (sources : List Source) :
    (ranked m sources).map (fun s => (s.ordinalAt m, s)) =
      byOrdinal (sources.map (fun s => (s.ordinalAt m, s))) := by
  apply List.map_mergeSort
  intro s _ t _
  rfl

theorem ranked_eq_byOrdinal (m : Moment) (sources : List Source) :
    ranked m sources = (byOrdinal (sources.map (fun s => (s.ordinalAt m, s)))).map (·.2) := by
  rw [← map_ranked_eq_byOrdinal, List.map_map]
  exact (List.map_id _).symm

theorem rank_gives {sources : List Source} (hs : ∀ s ∈ sources, s.Steady m) :
    (rank sources).Gives m (ranked m sources) := by
  rw [ranked_eq_byOrdinal]
  exact (measured_gives hs).bind (Reading.gives_pure _)

theorem ordinal_le_trans (m : Moment) (s t u : Source)
    (hst : decide (s.ordinalAt m ≤ t.ordinalAt m) = true)
    (htu : decide (t.ordinalAt m ≤ u.ordinalAt m) = true) :
    decide (s.ordinalAt m ≤ u.ordinalAt m) = true := by
  simp only [decide_eq_true_eq] at *
  omega

theorem ordinal_le_total (m : Moment) (s t : Source) :
    (decide (s.ordinalAt m ≤ t.ordinalAt m) || decide (t.ordinalAt m ≤ s.ordinalAt m)) = true := by
  simp only [Bool.or_eq_true, decide_eq_true_eq]
  omega

theorem ranked_perm (m : Moment) (sources : List Source) : (ranked m sources).Perm sources :=
  List.mergeSort_perm _ _

theorem mem_ranked {sources : List Source} {s : Source} : s ∈ ranked m sources ↔ s ∈ sources :=
  (ranked_perm m sources).mem_iff

theorem ranked_pairwise (m : Moment) (sources : List Source) :
    (ranked m sources).Pairwise (fun s t => s.ordinalAt m ≤ t.ordinalAt m) := by
  have h := List.pairwise_mergeSort (ordinal_le_trans m) (ordinal_le_total m) sources
  exact h.imp (fun hst => of_decide_eq_true hst)

theorem ranked_filter (m : Moment) (sources : List Source) (o : Int) :
    (ranked m sources).filter (fun s => s.ordinalAt m = o) =
      sources.filter (fun s => s.ordinalAt m = o) := by
  have hsub : (sources.filter (fun s => s.ordinalAt m = o)).Sublist (ranked m sources) := by
    apply List.sublist_mergeSort (ordinal_le_trans m) (ordinal_le_total m) _ List.filter_sublist
    apply List.pairwise_of_forall_mem_list
    intro s hs t ht
    have hso := (List.mem_filter.mp hs).2
    have hto := (List.mem_filter.mp ht).2
    simp only [decide_eq_true_eq] at *
    omega
  have hfilter := hsub.filter (fun s => s.ordinalAt m = o)
  simp only [List.filter_filter, Bool.and_self] at hfilter
  have hlength := ((ranked_perm m sources).filter (fun s => s.ordinalAt m = o)).length_eq
  exact (hfilter.eq_of_length hlength.symm).symm

theorem zipIdxLE_ordinal (m : Moment) (s t : Source) (i j : Nat) :
    List.zipIdxLE (fun s t => decide (s.ordinalAt m ≤ t.ordinalAt m)) (t, j) (s, i) = true ↔
      t.ordinalAt m < s.ordinalAt m ∨ (t.ordinalAt m = s.ordinalAt m ∧ j ≤ i) := by
  simp only [List.zipIdxLE, decide_eq_true_eq]
  split
  · split
    · simp only [decide_eq_true_eq]
      omega
    · simp only [true_iff]
      omega
  · simp only [Bool.false_eq_true, false_iff]
    omega

theorem ranked_places (m : Moment) (sources : List Source) :
    ∃ placed : List (Source × Nat), placed.map (·.1) = ranked m sources ∧
      (∀ s i, (s, i) ∈ placed ↔ sources[i]? = some s) ∧
      placed.Pairwise (fun a b => a.1.ordinalAt m < b.1.ordinalAt m ∨
        (a.1.ordinalAt m = b.1.ordinalAt m ∧ a.2 ≤ b.2)) := by
  refine ⟨sources.zipIdx.mergeSort (List.zipIdxLE (fun s t => s.ordinalAt m ≤ t.ordinalAt m)),
    List.mergeSort_zipIdx, ?_, ?_⟩
  · intro s i
    rw [List.mem_mergeSort, List.mk_mem_zipIdx_iff_getElem?]
  · have h := List.pairwise_mergeSort
      (List.zipIdxLE_trans (ordinal_le_trans m))
      (List.zipIdxLE_total (ordinal_le_total m)) sources.zipIdx
    exact h.imp (fun {a b} hab => (zipIdxLE_ordinal m b.1 a.1 b.2 a.2).mp hab)

theorem exists_decides {sources : List Source} {key : String} {p : Property}
    (h : highest? m key (ranked m sources) = some p) :
    ∃ i s, Decides m sources key i s ∧ s.value? m key = some p := by
  obtain ⟨placed, hmap, hmem, hpair⟩ := ranked_places m sources
  rw [highest?, ← hmap, ← List.map_reverse, List.findSome?_map] at h
  obtain ⟨above, ⟨s, i⟩, below, hsplit, hp, habove⟩ := List.findSome?_eq_some_iff.mp h
  have hplaced : placed = below.reverse ++ (s, i) :: above.reverse := by
    rw [← List.reverse_reverse placed, hsplit]
    simp
  rw [hplaced] at hpair hmem
  refine ⟨i, s, ⟨(hmem s i).mp (by simp), Option.isSome_iff_exists.mpr ⟨p, hp⟩, ?_⟩, hp⟩
  intro j t hj ht
  have hcases := (hmem t j).mpr hj
  simp only [List.mem_append, List.mem_cons] at hcases
  -- What stands above the source in the ranking does not have the key.
  rcases hcases with hbelow | heq | habove'
  · exact (List.pairwise_append.mp hpair).2.2 _ hbelow _ List.mem_cons_self
  · cases heq
    omega
  · have hnone : t.value? m key = none := habove _ (List.mem_reverse.mp habove')
    rw [hnone] at ht
    cases ht

theorem Decides.unique {sources : List Source} {key : String} {i j : Nat} {s t : Source}
    (hs : Decides m sources key i s) (ht : Decides m sources key j t) : i = j ∧ s = t := by
  have hle := hs.greatest j t ht.here ht.present
  have hge := ht.greatest i s hs.here hs.present
  have hij : i = j := by omega
  subst hij
  exact ⟨rfl, Option.some.inj (hs.here.symm.trans ht.here)⟩

theorem Decides.mem {sources : List Source} {key : String} {i : Nat} {s : Source}
    (h : Decides m sources key i s) : s ∈ sources :=
  List.mem_of_getElem? h.here

theorem highest?_eq_none_iff {key : String} {sources : List Source} :
    highest? m key sources = none ↔ ∀ s ∈ sources, s.value? m key = none := by
  simp [highest?]

theorem highest?_ranked_eq_none_iff {key : String} {sources : List Source} :
    highest? m key (ranked m sources) = none ↔ ∀ s ∈ sources, s.value? m key = none := by
  simp [highest?_eq_none_iff, mem_ranked]

theorem highest?_eq_some_iff {sources : List Source} {key : String} {p : Property} :
    highest? m key (ranked m sources) = some p ↔
      ∃ i s, Decides m sources key i s ∧ s.value? m key = some p := by
  constructor
  · exact exists_decides
  · rintro ⟨i, s, hs, hp⟩
    cases hq : highest? m key (ranked m sources) with
    | none =>
      rw [highest?_ranked_eq_none_iff.mp hq s hs.mem] at hp
      cases hp
    | some q =>
      obtain ⟨j, t, ht, hq⟩ := exists_decides hq
      obtain ⟨-, rfl⟩ := hs.unique ht
      exact hq.symm.trans hp

theorem resolveFrom_gives {sources : List Source} (hs : ∀ s ∈ sources, s.Steady m) (key : String)
    (result : Option Property) :
    (resolveFrom key result sources).Gives m ((highest? m key sources).or result) := by
  induction sources generalizing result with
  | nil => exact Reading.gives_pure _
  | cons s rest ih =>
    have hget := ((hs s List.mem_cons_self).get key).gives
    have hrest := ih (fun t ht => hs t (List.mem_cons_of_mem _ ht)) ((s.value? m key).or result)
    have hor : (highest? m key (s :: rest)).or result =
        (highest? m key rest).or ((s.value? m key).or result) := by
      simp [highest?, List.findSome?_append, Option.or_assoc]
    rw [hor]
    exact hget.bind hrest

theorem resolve_gives {sources : List Source} (hs : ∀ s ∈ sources, s.Steady m) (key : String) :
    (resolve sources key).Gives m (highest? m key sources) := by
  have h := resolveFrom_gives hs key none
  rwa [Option.or_none] at h

theorem resolve_rank_gives {sources : List Source} (hs : ∀ s ∈ sources, s.Steady m)
    (key : String) :
    Reading.Gives (do resolve (← rank sources) key) m (highest? m key (ranked m sources)) :=
  (rank_gives hs).bind (resolve_gives (fun s h => hs s (mem_ranked.mp h)) key)

def Distinguished (m : Moment) (sources : List Source) (key : String) : Prop :=
  (sources.filter (fun s => (s.value? m key).isSome)).Pairwise
    (fun s t => s.ordinalAt m ≠ t.ordinalAt m)

theorem Distinguished.eq_of_ordinal_eq {sources : List Source} {key : String} {s t : Source}
    (hd : Distinguished m sources key) (hs : s ∈ sources) (ht : t ∈ sources)
    (hskey : (s.value? m key).isSome) (htkey : (t.value? m key).isSome)
    (h : s.ordinalAt m = t.ordinalAt m) : s = t := by
  have : Std.Symm (fun s t : Source => s.ordinalAt m ≠ t.ordinalAt m) := ⟨fun _ _ hne => hne.symm⟩
  by_contra hne
  exact List.Pairwise.forall hd (List.mem_filter.mpr ⟨hs, hskey⟩)
    (List.mem_filter.mpr ⟨ht, htkey⟩) hne h

theorem highest?_perm {sources others : List Source} {key : String} (hp : others.Perm sources)
    (hd : Distinguished m sources key) :
    highest? m key (ranked m others) = highest? m key (ranked m sources) := by
  cases hq : highest? m key (ranked m others) with
  | none =>
    have hnone := highest?_ranked_eq_none_iff.mp hq
    exact (highest?_ranked_eq_none_iff.mpr (fun s hs => hnone s (hp.mem_iff.mpr hs))).symm
  | some q =>
    obtain ⟨j, t, ht, hqt⟩ := exists_decides hq
    obtain ⟨i, htsources⟩ := List.mem_iff_getElem?.mp (hp.mem_iff.mp ht.mem)
    cases hr : highest? m key (ranked m sources) with
    | none =>
      rw [highest?_ranked_eq_none_iff.mp hr t (List.mem_of_getElem? htsources)] at hqt
      cases hqt
    | some r =>
      obtain ⟨k, s, hs, hrs⟩ := exists_decides hr
      obtain ⟨l, hsothers⟩ := List.mem_iff_getElem?.mp (hp.mem_iff.mpr hs.mem)
      -- Either source competes in the other list as well, so their ordinals are equal.
      have hle := hs.greatest i t htsources ht.present
      have hge := ht.greatest l s hsothers hs.present
      have hst := hd.eq_of_ordinal_eq hs.mem (hp.mem_iff.mp ht.mem) hs.present ht.present
        (by omega)
      subst hst
      exact hqt.symm.trans hrs

theorem highest?_of_tie {sources : List Source} {key : String} {o : Int}
    (hle : ∀ s ∈ sources, (s.value? m key).isSome → s.ordinalAt m ≤ o)
    (ho : ∃ s ∈ sources, (s.value? m key).isSome ∧ s.ordinalAt m = o) :
    highest? m key (ranked m sources) =
      highest? m key (sources.filter (fun s => s.ordinalAt m = o)) := by
  obtain ⟨t, ht, htkey, hto⟩ := ho
  obtain ⟨j, htj⟩ := List.mem_iff_getElem?.mp ht
  cases hq : highest? m key (ranked m sources) with
  | none =>
    rw [highest?_ranked_eq_none_iff.mp hq t ht] at htkey
    cases htkey
  | some q =>
    obtain ⟨i, s, hs, hqs⟩ := exists_decides hq
    have hso : s.ordinalAt m = o := by
      have := hs.greatest j t htj htkey
      have := hle s hs.mem hs.present
      omega
    have hsplit : sources = sources.take i ++ s :: sources.drop (i + 1) :=
      eq_take_cons_drop hs.here
    have hlater : ∀ u ∈ sources.drop (i + 1), u.ordinalAt m = o → u.value? m key = none := by
      intro u hu huo
      obtain ⟨k, hk⟩ := List.mem_iff_getElem?.mp hu
      rw [List.getElem?_drop] at hk
      by_contra hne
      have := hs.greatest _ u hk (Option.isSome_iff_ne_none.mpr hne)
      omega
    symm
    rw [hsplit, List.filter_append, List.filter_cons_of_pos (by simpa using hso), highest?,
      List.reverse_append, List.reverse_cons, List.findSome?_append, List.findSome?_append]
    have hnone : ((sources.drop (i + 1)).filter (fun s => s.ordinalAt m = o)).reverse.findSome?
        (fun s => s.value? m key) = none := by
      rw [List.findSome?_eq_none_iff]
      intro u hu
      obtain ⟨hu, huo⟩ := List.mem_filter.mp (List.mem_reverse.mp hu)
      exact hlater u hu (of_decide_eq_true huo)
    rw [hnone]
    simp [hqs]

theorem ownOrdinal?_bounds {s : Source} {n : Int} (h : s.ownOrdinal? m = some n) :
    -2147483648 ≤ n ∧ n ≤ 2147483647 := by
  obtain ⟨raw, -, hraw⟩ := Option.bind_eq_some_iff.mp h
  exact Number.readInteger_bounds hraw

/-- The order of ordinals and, among equals, of registration decides every key. -/
theorem resolve_rank_greatest {sources : List Source} (hs : ∀ s ∈ sources, s.Steady m)
    (key : String) :
    ∃ ordered result, (rank sources).Gives m ordered ∧
      Reading.Gives (do resolve (← rank sources) key) m result ∧
      (ordered.Perm sources ∧ ordered.Pairwise (fun s t => s.ordinalAt m ≤ t.ordinalAt m) ∧
        ∀ o, ordered.filter (fun s => s.ordinalAt m = o) =
          sources.filter (fun s => s.ordinalAt m = o)) ∧
      (∀ p, result = some p ↔ ∃ i s, Decides m sources key i s ∧ s.value? m key = some p) ∧
      (result = none ↔ ∀ s ∈ sources, s.value? m key = none) ∧
      (Distinguished m sources key → ∀ others, others.Perm sources →
        Reading.Gives (do resolve (← rank others) key) m result) ∧
      (∀ o, (∀ s ∈ sources, (s.value? m key).isSome → s.ordinalAt m ≤ o) →
        (∃ s ∈ sources, (s.value? m key).isSome ∧ s.ordinalAt m = o) →
        result = ((sources.filter (fun s => s.ordinalAt m = o)).filterMap
          (fun s => s.value? m key)).getLast?) ∧
      (∀ s ∈ sources, s.ordinalAt m = (s.ownOrdinal? m).getD (s.declared.value m) ∧
        ∀ n, s.ownOrdinal? m = some n → -2147483648 ≤ n ∧ n ≤ 2147483647) := by
  refine ⟨ranked m sources, highest? m key (ranked m sources), rank_gives hs,
    resolve_rank_gives hs key, ⟨ranked_perm m sources, ranked_pairwise m sources,
      ranked_filter m sources⟩, fun p => highest?_eq_some_iff, highest?_ranked_eq_none_iff,
    ?_, ?_, ?_⟩
  · intro hd others hp
    rw [← highest?_perm hp hd]
    exact resolve_rank_gives (fun s h => hs s (hp.mem_iff.mp h)) key
  · intro o hle ho
    rw [highest?_of_tie hle ho, List.getLast?_filterMap]
    rfl
  · intro s h
    exact ⟨Source.ordinalAt_eq (hs s h), fun n => ownOrdinal?_bounds⟩

theorem resolve_rank_greatest_tie :
    let m : Moment := ⟨.empty, []⟩
    let declared := Source.fixed 0 "declared" 2147483647 true (.ofList [("k", "1")]) .empty
    let own := Source.fixed 1 "own" (-2147483648) true
      (.ofList [("k", "2"), ("strata.ordinal", " 2147483647 ")]) .empty
    let low := Source.fixed 2 "low" (-2147483648) false (.ofList [("k", "3")]) .empty
    (∀ s ∈ [declared, own, low], s.Steady m) ∧
      Reading.Gives (do resolve (← rank [declared, own, low]) "k") m
        (some (Property.of "k" "2" "own")) := by
  intro m declared own low
  have hs : ∀ s ∈ [declared, own, low], s.Steady m := by
    simp only [List.forall_mem_cons]
    exact ⟨Source.fixed_steady .., Source.fixed_steady .., Source.fixed_steady .., by simp⟩
  have hordinals : declared.ordinalAt m = 2147483647 ∧ own.ordinalAt m = 2147483647 ∧
      low.ordinalAt m = -2147483648 := ⟨rfl, rfl, rfl⟩
  obtain ⟨ordered, result, -, hresult, -, hsome, -⟩ := resolve_rank_greatest hs "k"
  have hvalue : result = some (Property.of "k" "2" "own") := by
    refine (hsome _).mpr ⟨1, own, ⟨rfl, rfl, ?_⟩, rfl⟩
    intro j t hj _
    match j, hj with
    | 0, rfl => exact .inr ⟨rfl, by omega⟩
    | 1, rfl => exact .inr ⟨rfl, by omega⟩
    | 2, rfl => exact .inl (by omega)
  exact ⟨hs, hvalue ▸ hresult⟩

end LayeredConfig.Resolution
