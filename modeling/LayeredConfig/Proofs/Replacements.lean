import LayeredConfig.Proofs.Places
import LayeredConfig.Proofs.Revisions
import Mathlib.Data.List.Nodup

namespace LayeredConfig

open Resolution

namespace Resolution

variable {m : Moment} {sources before after : List Source} {key : String} {i : Nat}
  {s t : Source}

theorem Decides.split (h : Decides m sources key i s) :
    ∃ before after, sources = before ++ s :: after ∧
      (∀ t ∈ before, (t.value? m key).isSome → t.ordinalAt m ≤ s.ordinalAt m) ∧
      (∀ t ∈ after, (t.value? m key).isSome → t.ordinalAt m < s.ordinalAt m) := by
  refine ⟨sources.take i, sources.drop (i + 1), eq_take_cons_drop h.here, ?_, ?_⟩
  · intro t ht hvalue
    obtain ⟨j, hj⟩ := List.mem_iff_getElem?.mp (List.mem_of_mem_take ht)
    have := h.greatest j t hj hvalue
    omega
  · intro t ht hvalue
    obtain ⟨j, hj⟩ := List.mem_iff_getElem?.mp ht
    rw [List.getElem?_drop] at hj
    have := h.greatest _ t hj hvalue
    omega

theorem decides_of_split (hs : (s.value? m key).isSome)
    (hbefore : ∀ t ∈ before, (t.value? m key).isSome → t.ordinalAt m ≤ s.ordinalAt m)
    (hafter : ∀ t ∈ after, (t.value? m key).isSome → t.ordinalAt m < s.ordinalAt m) :
    Decides m (before ++ s :: after) key before.length s := by
  refine ⟨by simp, hs, fun j t hj ht => ?_⟩
  rcases Nat.lt_trichotomy j before.length with hlt | rfl | hgt
  · rw [List.getElem?_append_left hlt] at hj
    have := hbefore t (List.mem_of_getElem? hj) ht
    omega
  · rw [List.getElem?_append_right (Nat.le_refl _), Nat.sub_self] at hj
    obtain rfl := Option.some.inj hj
    exact .inr ⟨rfl, Nat.le_refl _⟩
  · rw [List.getElem?_append_right (Nat.le_of_lt hgt)] at hj
    obtain ⟨k, hk⟩ : ∃ k, j - before.length = k + 1 := ⟨j - before.length - 1, by omega⟩
    rw [hk, List.getElem?_cons_succ] at hj
    exact .inl (hafter t (List.mem_of_getElem? hj) ht)

theorem decides_pair (ht : (t.value? m key).isSome) (hle : s.ordinalAt m ≤ t.ordinalAt m) :
    Decides m [s, t] key 1 t := by
  have hbefore : ∀ u ∈ [s], (u.value? m key).isSome → u.ordinalAt m ≤ t.ordinalAt m := by
    intro u hu _
    rwa [List.mem_singleton.mp hu]
  exact decides_of_split ht hbefore (by simp)

end Resolution

structure Source.Twin (m : Moment) (s t : Source) : Prop where
  name : t.name = s.name
  ordinal : t.ordinalAt m = s.ordinalAt m
  value : ∀ key, t.value? m key = s.value? m key

namespace ContextChange

variable {change : ContextChange} {c : Context} {m : Moment} {key : String} {i : Nat}
  {s t : Source}

structure Refreshes (change : ContextChange) (c : Context) (m : Moment) : Prop where
  added : change.added = []
  removed : change.removed = []
  names : c.sourceNames.Nodup
  twin : ∀ t ∈ change.updated, ∃ s ∈ c.sources, s.Twin m t

def lastUpdate? (change : ContextChange) (m : Moment) (key : String) (o : Int) : Option Source :=
  change.updated.reverse.find? (fun t => t.ordinalAt m = o && (t.value? m key).isSome)

theorem lastUpdate?_eq_none_iff {o : Int} : change.lastUpdate? m key o = none ↔
    ∀ t ∈ change.updated, (t.value? m key).isSome → t.ordinalAt m ≠ o := by
  simp only [lastUpdate?, List.find?_eq_none, List.mem_reverse, Bool.and_eq_true,
    decide_eq_true_eq, not_and]
  exact forall₂_congr fun t _ => ⟨fun h hvalue ho => h ho hvalue, fun h ho hvalue => h hvalue ho⟩

theorem lastUpdate?_split {o : Int} (h : change.lastUpdate? m key o = some t) :
    t.ordinalAt m = o ∧ (t.value? m key).isSome ∧ ∃ before after,
      change.updated = before ++ t :: after ∧
      ∀ u ∈ after, (u.value? m key).isSome → u.ordinalAt m ≠ o := by
  obtain ⟨ht, later, earlier, hsplit, hlater⟩ := List.find?_eq_some_iff_append.mp h
  rw [Bool.and_eq_true, decide_eq_true_eq] at ht
  refine ⟨ht.1, ht.2, earlier.reverse, later.reverse, ?_, fun u hu hvalue ho => ?_⟩
  · rw [← List.reverse_reverse change.updated, hsplit]
    simp
  · have := hlater u (List.mem_reverse.mp hu)
    simp [ho, hvalue] at this

namespace Refreshes

theorem revised (h : change.Refreshes c m) : change.revised c =
    c.sources.filter (fun s => s.name ∉ change.updated.map (·.name)) ++ change.updated := by
  rw [ContextChange.revised, staleNames, h.added, h.removed, List.nil_append, List.append_nil]

theorem twin_of_name (h : change.Refreshes c m) (hs : s ∈ c.sources) (ht : t ∈ change.updated)
    (hname : t.name = s.name) : s.Twin m t := by
  obtain ⟨s', hs', htwin⟩ := h.twin t ht
  obtain rfl := List.inj_on_of_nodup_map h.names hs' hs (htwin.name.symm.trans hname)
  exact htwin

theorem exists_like (h : change.Refreshes c m) (ht : t ∈ change.revised c) :
    ∃ s ∈ c.sources, t.ordinalAt m = s.ordinalAt m ∧ ∀ key, t.value? m key = s.value? m key := by
  rw [h.revised, List.mem_append] at ht
  rcases ht with hkept | hupdated
  · exact ⟨t, (List.mem_filter.mp hkept).1, rfl, fun _ => rfl⟩
  · obtain ⟨s, hs, htwin⟩ := h.twin t hupdated
    exact ⟨s, hs, htwin.ordinal, htwin.value⟩

theorem ordinal_le (h : change.Refreshes c m) (hs : Decides m c.sources key i s)
    (ht : t ∈ change.revised c) (hvalue : (t.value? m key).isSome) :
    t.ordinalAt m ≤ s.ordinalAt m := by
  obtain ⟨u, hu, hordinal, hlike⟩ := h.exists_like ht
  obtain ⟨j, hj⟩ := List.mem_iff_getElem?.mp hu
  rw [hlike] at hvalue
  have := hs.greatest j u hj hvalue
  omega

theorem decides_of_lastUpdate?_eq_none (h : change.Refreshes c m)
    (hs : Decides m c.sources key i s)
    (hnone : change.lastUpdate? m key (s.ordinalAt m) = none) :
    ∃ j, Decides m (change.revised c) key j s := by
  rw [lastUpdate?_eq_none_iff] at hnone
  have hstays : s.name ∉ change.updated.map (·.name) := by
    intro hstale
    obtain ⟨t, ht, hname⟩ := List.mem_map.mp hstale
    have htwin := h.twin_of_name hs.mem ht hname
    exact hnone t ht (htwin.value key ▸ hs.present) htwin.ordinal
  obtain ⟨before, after, hsplit, hbefore, hafter⟩ := hs.split
  have hrevised : change.revised c =
      before.filter (fun s => s.name ∉ change.updated.map (·.name)) ++ s ::
        (after.filter (fun s => s.name ∉ change.updated.map (·.name)) ++ change.updated) := by
    rw [h.revised, hsplit, List.filter_append, List.filter_cons_of_pos (by simpa using hstays)]
    simp
  refine ⟨_, hrevised ▸ decides_of_split hs.present ?_ ?_⟩
  · exact fun t ht => hbefore t (List.mem_filter.mp ht).1
  · intro t ht hvalue
    rcases List.mem_append.mp ht with hkept | hupdated
    · exact hafter t (List.mem_filter.mp hkept).1 hvalue
    · have hle := h.ordinal_le hs (h.revised ▸ List.mem_append_right _ hupdated) hvalue
      have hne := hnone t hupdated hvalue
      omega

theorem decides_of_lastUpdate?_eq_some (h : change.Refreshes c m)
    (hs : Decides m c.sources key i s)
    (hsome : change.lastUpdate? m key (s.ordinalAt m) = some t) :
    ∃ j, Decides m (change.revised c) key j t := by
  -- The last updated source of the ordinal of the one that decides stands behind all others that
  -- have this ordinal.
  obtain ⟨hordinal, hvalue, before, after, hsplit, hafter⟩ := lastUpdate?_split hsome
  have hle : ∀ u ∈ change.revised c, (u.value? m key).isSome → u.ordinalAt m ≤ t.ordinalAt m :=
    fun u hu => hordinal ▸ h.ordinal_le hs hu
  rw [h.revised, hsplit, ← List.append_assoc] at hle ⊢
  refine ⟨_, decides_of_split hvalue (fun u hu => hle u (List.mem_append_left _ hu)) ?_⟩
  intro u hu huvalue
  have hule := hle u (List.mem_append_right _ (List.mem_cons_of_mem _ hu)) huvalue
  have hune := hafter u hu huvalue
  omega

theorem decides (h : change.Refreshes c m) (hs : Decides m c.sources key i s) :
    ∃ j, Decides m (change.revised c) key j
      ((change.lastUpdate? m key (s.ordinalAt m)).getD s) := by
  cases hlast : change.lastUpdate? m key (s.ordinalAt m) with
  | none => exact h.decides_of_lastUpdate?_eq_none hs hlast
  | some t => exact h.decides_of_lastUpdate?_eq_some hs hlast

theorem highest?_revised (h : change.Refreshes c m)
    (hsame : ∀ i s t, Decides m c.sources key i s →
      change.lastUpdate? m key (s.ordinalAt m) = some t → t.name = s.name) :
    highest? m key (ranked m (change.revised c)) = highest? m key (ranked m c.sources) := by
  cases hp : highest? m key (ranked m c.sources) with
  | none =>
    rw [highest?_ranked_eq_none_iff] at hp ⊢
    intro t ht
    obtain ⟨s, hs, -, hlike⟩ := h.exists_like ht
    exact (hlike key).trans (hp s hs)
  | some p =>
    obtain ⟨i, s, hs, hvalue⟩ := exists_decides hp
    obtain ⟨j, hj⟩ := h.decides hs
    refine highest?_eq_some_iff.mpr ⟨j, _, hj, ?_⟩
    cases hlast : change.lastUpdate? m key (s.ordinalAt m) with
    | none => exact hvalue
    | some t =>
      obtain ⟨-, -, before, after, hsplit, -⟩ := lastUpdate?_split hlast
      have ht : t ∈ change.updated := by simp [hsplit]
      have htwin := h.twin_of_name hs.mem ht (hsame i s t hs hlast)
      exact (htwin.value key).trans hvalue

end Refreshes

end ContextChange

namespace Context

variable {m : Moment} {c c' : Context} {key : String}

theorem pass_congr (hf : c'.filters = c.filters) : c'.pass = c.pass := by
  funext p
  cases p with
  | none => rfl
  | some p => rw [pass, pass, hf]

theorem get_run_congr (hs : ∀ s ∈ c.sources, s.Steady m) (hs' : ∀ s ∈ c'.sources, s.Steady m)
    (hf : c'.filters = c.filters)
    (h : highest? m key (ranked m c'.sources) = highest? m key (ranked m c.sources)) :
    Reading.run (c'.get key) m.store m.filters = Reading.run (c.get key) m.store m.filters := by
  rw [get, get, Reading.run_bind, Reading.run_bind, property_run hs, property_run hs', h,
    pass_congr hf]

end Context

namespace Hub

variable {h : Hub} {i depth : Nat} {held : Holder} {manager : Option Nat} {change : ContextChange}

/-- To replace sources by twins leaves a key as it is read, except where the last updated source of
the ordinal that decides the key is another one than decides it: this one decides it then. -/
theorem applyChange_twins (hi : h.holder? i = some held)
    (hbuilt : ∃ b : Builder, b.build = .ok held.current) {m : Moment}
    (hs : ∀ s ∈ held.current.sources ++ change.updated, s.Steady m)
    (hrefreshes : change.Refreshes held.current m) :
    ∃ c, (applyChange (fireWithin depth) i manager change h).1.context? = some c ∧
      (∀ E : Event → Prop, (∀ version time, E (.contextReplaced version time)) → h.Spares i E →
        ∃ kept, (applyChange (fireWithin depth) i manager change h).2.holder? i = some kept ∧
          kept.current = c) ∧
      ∀ key,
        (∀ i s, Decides m held.current.sources key i s → ∃ j, Decides m c.sources key j
          ((change.lastUpdate? m key (s.ordinalAt m)).getD s)) ∧
        ((∀ i s t, Decides m held.current.sources key i s →
            change.lastUpdate? m key (s.ordinalAt m) = some t → t.name = s.name) →
          Reading.run (c.get key) m.store m.filters =
            Reading.run (held.current.get key) m.store m.filters) := by
  obtain ⟨b, hb⟩ := hbuilt
  have hnamed := Builder.named_of_build hb
  have hnew : ∀ t ∈ change.added ++ change.updated, ¬t.Unnamed := by
    rw [hrefreshes.added, List.nil_append]
    intro t ht
    obtain ⟨s, hs, htwin⟩ := hrefreshes.twin t ht
    rw [Source.Unnamed, htwin.name]
    exact hnamed s hs
  have hok : (applyChange (fireWithin depth) i manager change h).1.context? =
      some (change.revision held.current) := applied_of_named hi hnamed hnew
  refine ⟨_, hok, fun E hE hspares => applied_holds hi hok hE hspares, fun key => ⟨?_, ?_⟩⟩
  · exact fun i s hdecides => hrefreshes.decides hdecides
  · intro hsame
    have hcurrent : ∀ s ∈ held.current.sources, s.Steady m :=
      fun s hmem => hs s (List.mem_append_left _ hmem)
    have hrevised : ∀ s ∈ (change.revision held.current).sources, s.Steady m := by
      intro s hmem
      rcases ContextChange.mem_revised.mp hmem with ⟨hkept, -⟩ | hfresh
      · exact hcurrent s hkept
      · rw [hrefreshes.added, List.nil_append] at hfresh
        exact hs s (List.mem_append_right _ hfresh)
    exact Context.get_run_congr hcurrent hrevised rfl (hrefreshes.highest?_revised hsame)

theorem applyChange_twins_tied :
    let m : Moment := ⟨.empty, []⟩
    let file := Source.fixed 0 "file" 0 true (.ofList [("k", "1")]) .empty
    let env := Source.fixed 1 "env" 0 true (.ofList [("k", "2")]) .empty
    let file' := Source.fixed 2 "file" 0 true (.ofList [("k", "1")]) .empty
    let env' := Source.fixed 3 "env" 0 true (.ofList [("k", "2")]) .empty
    let held := Holder.new ⟨[file, env], [.threadLocal], .empty 0⟩
    let h : Hub := { Hub.empty with holders := [held] }
    let change : ContextChange := ⟨"c1", default, [], [], [file', env']⟩
    h.holder? 0 = some held ∧ (∃ b : Builder, b.build = .ok held.current) ∧
      (∀ s ∈ held.current.sources ++ change.updated, s.Steady m) ∧
      change.Refreshes held.current m ∧
      ∃ c, (applyChange fire 0 none change h).1.context? = some c ∧
        (∃ j, Decides m c.sources "k" j env') ∧
        Reading.run (c.get "k") m.store m.filters =
          Reading.run (held.current.get "k") m.store m.filters := by
  intro m file env file' env' held h change
  have hheld : h.holder? 0 = some held := rfl
  have hbuilt : ∃ b : Builder, b.build = .ok held.current := by
    refine ⟨⟨[file, env], [.threadLocal], .empty 0⟩, Builder.build_ok ?_⟩
    simp only [List.forall_mem_cons]
    exact ⟨by decide, by decide, by simp⟩
  have hs : ∀ s ∈ held.current.sources ++ change.updated, s.Steady m := by
    change ∀ s ∈ [file, env, file', env'], s.Steady m
    simp only [List.forall_mem_cons]
    exact ⟨Source.fixed_steady .., Source.fixed_steady .., Source.fixed_steady ..,
      Source.fixed_steady .., by simp⟩
  have hrefreshes : change.Refreshes held.current m := by
    refine ⟨rfl, rfl, by decide, ?_⟩
    simp only [change, List.forall_mem_cons]
    exact ⟨⟨file, List.mem_cons_self, rfl, rfl, fun _ => rfl⟩,
      ⟨env, List.mem_cons_of_mem _ List.mem_cons_self, rfl, rfl, fun _ => rfl⟩, by simp⟩
  have hdecides : Decides m held.current.sources "k" 1 env := decides_pair rfl (by decide)
  have hlast : change.lastUpdate? m "k" (env.ordinalAt m) = some env' := rfl
  obtain ⟨c, hc, -, hkeys⟩ := applyChange_twins hheld hbuilt hs hrefreshes
  refine ⟨hheld, hbuilt, hs, hrefreshes, c, hc, ?_, (hkeys "k").2 ?_⟩
  · have hfirst := (hkeys "k").1 1 env hdecides
    rwa [hlast] at hfirst
  · intro i s t hi ht
    obtain ⟨-, rfl⟩ := hi.unique hdecides
    obtain rfl := Option.some.inj (hlast.symm.trans ht)
    rfl

theorem applyChange_same_moves :
    let m : Moment := ⟨.empty, []⟩
    let file := Source.fixed 0 "file" 0 true (.ofList [("k", "1")]) .empty
    let env := Source.fixed 1 "env" 0 true (.ofList [("k", "2")]) .empty
    let held := Holder.new ⟨[file, env], [], .empty 0⟩
    let h : Hub := { Hub.empty with holders := [held] }
    let change : ContextChange := ⟨"c1", default, [], [], [file]⟩
    h.holder? 0 = some held ∧ (∃ b : Builder, b.build = .ok held.current) ∧
      held.current.sourceNames.Nodup ∧ held.current.Steady m ∧
      (∀ t ∈ change.updated, t ∈ held.current.sources) ∧
      ∃ c, (applyChange fire 0 none change h).1.context? = some c ∧
        (held.current.get "k").Gives m (some "2") ∧ (c.get "k").Gives m (some "1") := by
  intro m file env held h change
  have hheld : h.holder? 0 = some held := rfl
  have hnamed : ∀ s ∈ [file, env], ¬s.Unnamed := by
    simp only [List.forall_mem_cons]
    exact ⟨by decide, by decide, by simp⟩
  have hnew : ∀ s ∈ change.added ++ change.updated, ¬s.Unnamed := by
    simp only [change, List.nil_append, List.forall_mem_cons]
    exact ⟨by decide, by simp⟩
  have hok : (applyChange fire 0 none change h).1.context? = some ⟨[env, file], [], .empty 0⟩ :=
    applied_of_named hheld hnamed hnew
  have hsteady : ∀ sources, (∀ s ∈ sources, s = file ∨ s = env) →
      Context.Steady ⟨sources, [], .empty 0⟩ m := by
    refine fun sources h => ⟨fun s hs => ?_, by simp⟩
    rcases h s hs with rfl | rfl
    · exact Source.fixed_steady ..
    · exact Source.fixed_steady ..
  have hbefore : held.current.Steady m := hsteady [file, env] (by simp)
  have hafter : Context.Steady ⟨[env, file], [], .empty 0⟩ m := hsteady [env, file] (by simp)
  have hfirst : Decides m held.current.sources "k" 1 env := decides_pair rfl (by decide)
  have hlast : Decides m [env, file] "k" 1 file := decides_pair rfl (by decide)
  have htext : Context.text? held.current m "k" = some "2" := by
    rw [Context.text?, Context.property?_of_decides hfirst]
    rfl
  have htext' : Context.text? ⟨[env, file], [], .empty 0⟩ m "k" = some "1" := by
    rw [Context.text?, Context.property?_of_decides hlast]
    rfl
  refine ⟨hheld, ⟨⟨[file, env], [], .empty 0⟩, Builder.build_ok hnamed⟩, by decide, hbefore,
    by simp [change, held, Holder.new], _, hok, ?_, ?_⟩
  · exact htext ▸ Context.get_gives hbefore "k"
  · exact htext' ▸ Context.get_gives hafter "k"

end Hub

end LayeredConfig
