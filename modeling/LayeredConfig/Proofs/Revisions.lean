import LayeredConfig.Proofs.Differences
import LayeredConfig.Proofs.Rebuilding
import LayeredConfig.Proofs.Ties

namespace LayeredConfig

open Resolution

def Applied.context? : Applied → Option Context
  | unchanged c => some c
  | rebuilt c => some c
  | failed _ => none

namespace ContextChange

variable {change : ContextChange} {c : Context}

def revision (change : ContextChange) (c : Context) : Context :=
  ⟨change.revised c, c.filters, c.registry⟩

def Concerns (change : ContextChange) (c : Context) (s : Source) : Prop :=
  s ∈ change.added ∨ s ∈ change.updated ∨ (s ∈ c.sources ∧ s.name ∈ change.staleNames)

theorem revision_of_idle (hidle : change.Idle c) : change.revision c = c := by
  rw [revision, revised_of_idle hidle]

section Answers

variable {β : Type} {f : Source → Option β} {m : Moment}

theorem lastAnswer_tied_revised (hf : ∀ s, change.Concerns c s → f s = none) (o : Int) :
    lastAnswer f (tied m o (change.revised c)) = lastAnswer f (tied m o c.sources) := by
  have hadded : lastAnswer f (tied m o change.added) = none :=
    lastAnswer_tied_eq_none (fun s hs => hf s (.inl hs))
  have hupdated : lastAnswer f (tied m o change.updated) = none :=
    lastAnswer_tied_eq_none (fun s hs => hf s (.inr (.inl hs)))
  have hkept : tied m o (c.sources.filter (fun s => s.name ∉ change.staleNames)) =
      (tied m o c.sources).filter (fun s => s.name ∉ change.staleNames) := by
    rw [tied, tied, List.filter_filter, List.filter_filter]
    simp only [Bool.and_comm]
  rw [revised, tied_append, tied_append, lastAnswer_append, lastAnswer_append, hadded, hupdated,
    Option.none_or, Option.none_or, hkept]
  apply lastAnswer_filter
  intro s hs hstale
  simp only [decide_eq_false_iff_not, not_not] at hstale
  exact hf s (.inr (.inr ⟨(mem_tied.mp hs).1, hstale⟩))

theorem mem_revised_of_answers (hf : ∀ s, change.Concerns c s → f s = none) {s : Source}
    (hs : (f s).isSome) : s ∈ change.revised c ↔ s ∈ c.sources := by
  have hfree : ¬change.Concerns c s := fun h => by simp [hf s h] at hs
  simp only [Concerns, not_or, not_and] at hfree
  obtain ⟨hadded, hupdated, hstale⟩ := hfree
  rw [mem_revised, List.mem_append]
  constructor
  · rintro (⟨hkept, -⟩ | hadded' | hupdated')
    · exact hkept
    · exact absurd hadded' hadded
    · exact absurd hupdated' hupdated
  · exact fun hkept => .inl ⟨hkept, hstale hkept⟩

theorem revised_revision (change : ContextChange) (c : Context) :
    change.revised (change.revision c) =
      c.sources.filter (fun s => s.name ∉ change.staleNames) ++
        change.added.filter (fun s => s.name ∉ change.staleNames) ++ change.added ++
        change.updated := by
  -- What the second application leaves of the first one: the added sources that are not replaced by
  -- updated ones stand twice.
  have hupdated : change.updated.filter (fun s => s.name ∉ change.staleNames) = [] := by
    rw [List.filter_eq_nil_iff]
    intro s hs
    have hstale : s.name ∈ change.staleNames := List.mem_map_of_mem (List.mem_append_right _ hs)
    simp [hstale]
  simp only [revised, revision, List.filter_append, hupdated, List.append_nil, List.filter_filter,
    Bool.and_self]

theorem mem_revised_revision {s : Source} :
    s ∈ change.revised (change.revision c) ↔ s ∈ change.revised c := by
  rw [revised_revision, revised]
  simp only [List.mem_append, List.mem_filter]
  grind

theorem lastAnswer_tied_again (change : ContextChange) (c : Context) (o : Int) :
    lastAnswer f (tied m o (change.revised (change.revision c))) =
      lastAnswer f (tied m o (change.revised c)) := by
  rw [revised_revision, revised]
  simp only [tied_append, lastAnswer_append]
  congr 1
  -- The later of two equal runs of sources answers whenever the earlier one does.
  cases hadded : lastAnswer f (tied m o change.added) with
  | some b => rfl
  | none =>
    have hearlier : lastAnswer f (tied m o
        (change.added.filter (fun s => s.name ∉ change.staleNames))) = none := by
      rw [lastAnswer_eq_none_iff] at hadded ⊢
      intro s hs
      obtain ⟨hs, ho⟩ := mem_tied.mp hs
      exact hadded s (mem_tied.mpr ⟨(List.mem_filter.mp hs).1, ho⟩)
    rw [hearlier, Option.none_or, Option.none_or]

end Answers

end ContextChange

namespace Context

variable {m : Moment} {c c' : Context}

theorem property?_congr {key : String} (hf : c'.filters = c.filters)
    (h : ∀ o, lastAnswer (fun s => s.value? m key) (tied m o c'.sources) =
      lastAnswer (fun s => s.value? m key) (tied m o c.sources)) :
    c'.property? m key = c.property? m key := by
  rw [property?, property?, highest?_eq_lastAnswer, highest?_eq_lastAnswer,
    lastAnswer_ranked_congr h, hf]

theorem propertyTable_congr (hc : c.Steady m) (hc' : c'.Steady m) (hf : c'.filters = c.filters)
    (hmem : ∀ s, s ∈ c'.sources ↔ s ∈ c.sources)
    (h : ∀ key o, lastAnswer (shown? m key) (tied m o c'.sources) =
      lastAnswer (shown? m key) (tied m o c.sources)) :
    c'.propertyTable.value m = c.propertyTable.value m := by
  obtain ⟨table, htable, hget⟩ := propertyTable_gives hc
  obtain ⟨table', htable', hget'⟩ := propertyTable_gives hc'
  rw [htable.value_eq, htable'.value_eq]
  apply Table.ext_get?
  intro key
  have henumerable : Enumerable m key c'.sources ↔ Enumerable m key c.sources := by
    simp only [Enumerable, hmem]
  rw [hget, hget', enumerated?_eq_lastAnswer, enumerated?_eq_lastAnswer,
    lastAnswer_ranked_congr (h key), hf]
  simp only [henumerable]

theorem snapshot_gives (hc : c.Steady m) (id : Nat) (now : Time.Instant) :
    (c.snapshot id now).Gives m ⟨id, Snapshot.configurationName, 0, c.properties.value m, now⟩ :=
  (properties_steady hc).gives.bind (Reading.gives_pure _)

end Context

namespace ContextChange

variable {m : Moment} {change : ContextChange} {c : Context} {key : String}

theorem text?_revision (hnone : ∀ s, change.Concerns c s → s.value? m key = none) :
    (change.revision c).text? m key = c.text? m key := by
  have hsame : (change.revision c).property? m key = c.property? m key :=
    Context.property?_congr rfl (lastAnswer_tied_revised hnone)
  rw [Context.text?, Context.text?, hsame]

theorem get?_properties_revision (hc : c.Steady m) (hrevised : (change.revision c).Steady m)
    (ha : ∀ s ∈ c.sources ++ (change.revision c).sources, s.scannable = true → s.AgreesOn m key)
    (hnone : ∀ s, change.Concerns c s → s.value? m key = none) :
    ((change.revision c).properties.value m).get? key = (c.properties.value m).get? key := by
  have hagree : ∀ s ∈ c.sources, s.scannable = true → s.AgreesOn m key :=
    fun s hs => ha s (List.mem_append_left _ hs)
  have hagree' : ∀ s ∈ (change.revision c).sources, s.scannable = true → s.AgreesOn m key :=
    fun s hs => ha s (List.mem_append_right _ hs)
  have henumerable : Enumerable m key (change.revision c).sources ↔
      Enumerable m key c.sources := by
    rw [Context.enumerable_iff hagree, Context.enumerable_iff hagree']
    apply exists_congr
    intro s
    rw [and_congr_left]
    rintro ⟨-, hvalue⟩
    exact mem_revised_of_answers hnone hvalue
  rw [Context.properties_get? hc hagree, Context.properties_get? hrevised hagree',
    text?_revision hnone]
  exact if_congr henumerable rfl rfl

theorem property?_again (change : ContextChange) (c : Context) (m : Moment) (key : String) :
    (change.revision (change.revision c)).property? m key =
      (change.revision c).property? m key :=
  Context.property?_congr rfl (lastAnswer_tied_again change c)

theorem revision_steady (hc : (change.revision c).Steady m) :
    (change.revision (change.revision c)).Steady m :=
  ⟨fun s hs => hc.sources s (mem_revised_revision.mp hs), hc.filters⟩

theorem propertyTable_again (hc : (change.revision c).Steady m) :
    (change.revision (change.revision c)).propertyTable.value m =
      (change.revision c).propertyTable.value m :=
  Context.propertyTable_congr hc (revision_steady hc) rfl (fun _ => mem_revised_revision)
    (fun _ => lastAnswer_tied_again change c)

end ContextChange

namespace Hub

variable {h : Hub} {i depth : Nat} {held : Holder} {manager : Option Nat}
  {change : ContextChange} {c : Context}

theorem applied_cases (hi : h.holder? i = some held)
    (hok : (applyChange (fireWithin depth) i manager change h).1.context? = some c) :
    (change.Idle held.current ∧ c = held.current ∧
      (applyChange (fireWithin depth) i manager change h).2 = h) ∨
    (¬change.Idle held.current ∧ rebuild change held.current = .ok c ∧
      (applyChange (fireWithin depth) i manager change h).2 =
        announced depth manager change.version (h.setHolder i (held.publish c))) := by
  by_cases hidle : change.Idle held.current
  · rw [applyChange_idle hi hidle] at hok ⊢
    exact .inl ⟨hidle, (Option.some.inj hok).symm, rfl⟩
  · cases hr : rebuild change held.current with
    | error e =>
      rw [applyChange_error hi hidle hr] at hok
      cases hok
    | ok built =>
      rw [applyChange_rebuilt hi hidle hr] at hok ⊢
      obtain rfl := Option.some.inj hok
      exact .inr ⟨hidle, rfl, rfl⟩

theorem rebuild_eq_ok (hr : rebuild change held.current = .ok c) :
    c = change.revision held.current ∧ ∀ s ∈ change.revised held.current, ¬s.Unnamed := by
  rw [rebuild_eq] at hr
  have hnamed := Builder.named_of_build hr
  cases hn : Builder.unnamed? ⟨change.revised held.current, held.current.filters,
      held.current.registry⟩ with
  | some position =>
    rw [Builder.build, hn] at hr
    cases hr
  | none =>
    have hsources := Builder.unnamed?_eq_none_iff.mp hn
    rw [Builder.build_ok hsources] at hr
    exact ⟨(Except.ok.inj hr).symm, hsources⟩

theorem applied_eq_revision (hi : h.holder? i = some held)
    (hok : (applyChange (fireWithin depth) i manager change h).1.context? = some c) :
    c = change.revision held.current := by
  rcases applied_cases hi hok with ⟨hidle, hc, -⟩ | ⟨-, hr, -⟩
  · rw [ContextChange.revision_of_idle hidle, hc]
  · exact (rebuild_eq_ok hr).1

theorem applied_of_named (hi : h.holder? i = some held)
    (hc : ∀ s ∈ held.current.sources, ¬s.Unnamed)
    (hnew : ∀ s ∈ change.added ++ change.updated, ¬s.Unnamed) :
    (applyChange (fireWithin depth) i manager change h).1.context? =
      some (change.revision held.current) := by
  by_cases hidle : change.Idle held.current
  · rw [applyChange_idle hi hidle, ContextChange.revision_of_idle hidle]
    rfl
  · rw [applyChange_rebuilt hi hidle (rebuild_ok hc hnew)]
    rfl

theorem applied_holds (hi : h.holder? i = some held)
    (hok : (applyChange (fireWithin depth) i manager change h).1.context? = some c)
    {E : Event → Prop} (hE : ∀ version time, E (.contextReplaced version time))
    (hs : h.Spares i E) :
    ∃ kept, (applyChange (fireWithin depth) i manager change h).2.holder? i = some kept ∧
      kept.current = c := by
  rcases applied_cases hi hok with ⟨-, hc, hafter⟩ | ⟨-, -, hafter⟩
  · exact ⟨held, by rw [hafter, hi], hc.symm⟩
  · have hs : (h.setHolder i (held.publish c)).Spares i E := hs
    refine ⟨held.publish c, ?_, rfl⟩
    rw [hafter, (announced_keeps hE hs depth manager change.version).holder]
    exact holder?_setHolder hi _

theorem applied_again (hi : h.holder? i = some held)
    (hok : (applyChange (fireWithin depth) i manager change h).1.context? = some c)
    {h' : Hub} {held' : Holder} (hi' : h'.holder? i = some held') (hc : held'.current = c) :
    (applyChange (fireWithin depth) i manager change h').1.context? =
      some (change.revision c) := by
  subst hc
  by_cases hidle' : change.Idle held'.current
  · rw [applyChange_idle hi' hidle', ContextChange.revision_of_idle hidle']
    rfl
  · rcases applied_cases hi hok with ⟨hidle, hc, -⟩ | ⟨-, hr, -⟩
    · exact absurd (hc ▸ hidle) hidle'
    · obtain ⟨hc, hnamed⟩ := rebuild_eq_ok hr
      have hagain : rebuild change held'.current = .ok (change.revision held'.current) := by
        rw [rebuild_eq]
        apply Builder.build_ok
        intro s hs
        rw [hc] at hs
        exact hnamed s (ContextChange.mem_revised_revision.mp hs)
      rw [applyChange_rebuilt hi' hidle' hagain]
      rfl

/-- A change of sources changes no key that the sources which it concerns do not give. -/
theorem applyChange_local (hi : h.holder? i = some held)
    (hok : (applyChange (fireWithin depth) i manager change h).1.context? = some c) {m : Moment}
    (hbefore : held.current.Steady m) (hafter : c.Steady m)
    (ha : ∀ s ∈ held.current.sources ++ c.sources, s.scannable = true → s.Agrees m) :
    (∀ key, (∀ s, change.Concerns held.current s → s.value? m key = none) → ∃ text,
      (held.current.get key).Gives m text ∧ (c.get key).Gives m text) ∧
    (∀ id id' now now', ∃ old new, (held.current.snapshot id now).Gives m old ∧
      (c.snapshot id' now').Gives m new ∧ ∀ version time,
        ∀ key ∈ (diffConfiguration old new version time).entries.keys,
          ∃ s, change.Concerns held.current s ∧ (s.value? m key).isSome) ∧
    (∀ E : Event → Prop, (∀ version time, E (.contextReplaced version time)) → h.Spares i E →
      ∃ kept, (applyChange (fireWithin depth) i manager change h).2.holder? i = some kept ∧
        kept.current = c) := by
  obtain rfl := applied_eq_revision hi hok
  refine ⟨fun key hnone => ?_, fun id id' now now' => ?_, fun E hE hs => applied_holds hi hok hE hs⟩
  · refine ⟨_, Context.get_gives hbefore key, ?_⟩
    rw [← ContextChange.text?_revision hnone]
    exact Context.get_gives hafter key
  · refine ⟨_, _, Context.snapshot_gives hbefore id now, Context.snapshot_gives hafter id' now', ?_⟩
    intro version time key hkey
    by_contra hunconcerned
    have hnone : ∀ s, change.Concerns held.current s → s.value? m key = none := by
      intro s hs
      by_contra hvalue
      exact hunconcerned ⟨s, hs, Option.isSome_iff_ne_none.mpr hvalue⟩
    have hsame := ContextChange.get?_properties_revision hbefore hafter
      (fun s hs hscan => ha s hs hscan key) hnone
    rw [Table.mem_keys_iff, get?_diffConfiguration] at hkey
    simp only [Snapshot.value, hsame, ChangeEntry.between_self] at hkey
    cases hkey

theorem applyChange_local_hidden :
    let m : Moment := ⟨.empty, []⟩
    let file := Source.fixed 0 "file" 100 true (.ofList [("a", "1"), ("b", "2")]) .empty
    let hidden := Source.fixed 1 "hidden" 100 false (.ofList [("b", "3")]) .empty
    let env := Source.fixed 2 "env" 200 true (.ofList [("a", "9")]) .empty
    let fresh := Source.fixed 3 "env" 200 true (.ofList [("a", "42"), ("c", "4")]) .empty
    let held := Holder.new ⟨[env, file, hidden], [], .empty 0⟩
    let h : Hub := { Hub.empty with holders := [held] }
    let change : ContextChange := ⟨"c1", default, [], [], [fresh]⟩
    h.holder? 0 = some held ∧ held.current.Steady m ∧
      ∃ c, (applyChange fire 0 none change h).1.context? = some c ∧ c.Steady m ∧
        (∀ s ∈ held.current.sources ++ c.sources, s.scannable = true → s.Agrees m) ∧
        (held.current.get "b").Gives m (some "3") ∧ (c.get "b").Gives m (some "3") ∧
        ∃ old new, (held.current.snapshot 4 default).Gives m old ∧
          (c.snapshot 5 default).Gives m new ∧
          "b" ∉ (diffConfiguration old new "v" default).entries.keys := by
  intro m file hidden env fresh held h change
  have hheld : h.holder? 0 = some held := rfl
  have hbefore : held.current.Steady m := by
    refine ⟨?_, by simp [held, Holder.new]⟩
    simp only [held, Holder.new, List.forall_mem_cons]
    exact ⟨Source.fixed_steady .., Source.fixed_steady .., Source.fixed_steady .., by simp⟩
  have hafter : Context.Steady ⟨[file, hidden, fresh], [], .empty 0⟩ m := by
    refine ⟨?_, by simp⟩
    simp only [List.forall_mem_cons]
    exact ⟨Source.fixed_steady .., Source.fixed_steady .., Source.fixed_steady .., by simp⟩
  have hnamed : ∀ s ∈ held.current.sources, ¬s.Unnamed := by
    simp only [held, Holder.new, List.forall_mem_cons]
    exact ⟨by decide, by decide, by decide, by simp⟩
  have hok : (applyChange fire 0 none change h).1.context? =
      some ⟨[file, hidden, fresh], [], .empty 0⟩ := by
    apply applied_of_named hheld hnamed
    simp only [change, List.nil_append, List.forall_mem_cons]
    exact ⟨by decide, by simp⟩
  have ha : ∀ s ∈ [env, file, hidden, file, hidden, fresh], s.scannable = true → s.Agrees m := by
    simp only [List.forall_mem_cons]
    exact ⟨fun _ => (Source.fixed_tabled ..).agrees, fun _ => (Source.fixed_tabled ..).agrees,
      fun _ => (Source.fixed_tabled ..).agrees, fun _ => (Source.fixed_tabled ..).agrees,
      fun _ => (Source.fixed_tabled ..).agrees, fun _ => (Source.fixed_tabled ..).agrees, by simp⟩
  have hnone : ∀ s, change.Concerns held.current s → s.value? m "b" = none := by
    rintro s (hs | hs | ⟨hs, hstale⟩)
    · cases hs
    · rw [List.mem_singleton.mp hs]
      rfl
    · simp only [held, Holder.new, List.mem_cons, List.not_mem_nil, or_false] at hs
      rcases hs with rfl | rfl | rfl
      · rfl
      · exact absurd hstale (by decide)
      · exact absurd hstale (by decide)
  have hdecides : Decides m held.current.sources "b" 2 hidden := by
    refine ⟨rfl, rfl, fun j t hj ht => ?_⟩
    match j, hj with
    | 0, rfl => exact absurd ht (by decide)
    | 1, rfl => exact .inr ⟨rfl, by omega⟩
    | 2, rfl => exact .inr ⟨rfl, by omega⟩
  have hvalue : held.current.text? m "b" = some "3" := by
    rw [Context.text?, Context.property?_of_decides hdecides]
    rfl
  obtain ⟨hkeys, hdiff, -⟩ := applyChange_local hheld hok hbefore hafter ha
  obtain ⟨text, htext, htext'⟩ := hkeys "b" hnone
  have hb : text = some "3" :=
    htext.value_eq.symm.trans ((Context.get_gives hbefore "b").value_eq.trans hvalue)
  obtain ⟨old, new, hold, hnew, hentries⟩ := hdiff 4 5 default default
  refine ⟨hheld, hbefore, _, hok, hafter, ha, hb ▸ htext, hb ▸ htext', old, new, hold, hnew, ?_⟩
  intro hb
  obtain ⟨s, hs, hsome⟩ := hentries "v" default "b" hb
  rw [hnone s hs] at hsome
  cases hsome

/-- To apply a change once more makes no difference to any read. -/
theorem applyChange_again (hi : h.holder? i = some held)
    (hok : (applyChange (fireWithin depth) i manager change h).1.context? = some c) :
    (∀ {h' : Hub} {held' : Holder}, h'.holder? i = some held' → held'.current = c →
      ∃ c', (applyChange (fireWithin depth) i manager change h').1.context? = some c' ∧
        ∀ m, c.Steady m →
          (∀ key, ∃ p, (c.property key).Gives m p ∧ (c'.property key).Gives m p) ∧
          ∃ table, c.propertyTable.Gives m table ∧ c'.propertyTable.Gives m table) ∧
    (∀ E : Event → Prop, (∀ version time, E (.contextReplaced version time)) → h.Spares i E →
      ∃ kept, (applyChange (fireWithin depth) i manager change h).2.holder? i = some kept ∧
        kept.current = c) := by
  refine ⟨fun {h' held'} hi' hheld => ⟨change.revision c, applied_again hi hok hi' hheld,
    fun m hsteady => ?_⟩, fun E hE hs => applied_holds hi hok hE hs⟩
  obtain rfl := applied_eq_revision hi hok
  have hagain := ContextChange.revision_steady hsteady
  constructor
  · intro key
    refine ⟨_, Context.property_gives hsteady key, ?_⟩
    rw [← ContextChange.property?_again]
    exact Context.property_gives hagain key
  · refine ⟨_, (Context.propertyTable_steady hsteady).gives, ?_⟩
    rw [← ContextChange.propertyTable_again hsteady]
    exact (Context.propertyTable_steady hagain).gives

theorem applyChange_again_repeated :
    let m : Moment := ⟨.empty, []⟩
    let base := Source.fixed 0 "base" 5 true (.ofList [("k", "1")]) .empty
    let gone := Source.fixed 1 "gone" 5 true (.ofList [("k", "2")]) .empty
    let extra := Source.fixed 2 "extra" 5 true (.ofList [("k", "3")]) .empty
    let back := Source.fixed 3 "gone" 5 false (.ofList [("k", "4"), ("l", "5")]) .empty
    let held := Holder.new ⟨[gone, base], [], .empty 0⟩
    let h : Hub := { Hub.empty with holders := [held] }
    let change : ContextChange := ⟨"c1", default, [extra, back], [gone], []⟩
    let first := applyChange fire 0 none change h
    let second := applyChange fire 0 none change first.2
    h.holder? 0 = some held ∧ ∃ c c', first.1.context? = some c ∧ second.1.context? = some c' ∧
      c.sources = [base, extra, back] ∧ c'.sources = [base, extra, extra, back] ∧ c.Steady m ∧
      (∀ key, ∃ p, (c.property key).Gives m p ∧ (c'.property key).Gives m p) ∧
      ∃ table, c.propertyTable.Gives m table ∧ c'.propertyTable.Gives m table := by
  intro m base gone extra back held h change first second
  have hheld : h.holder? 0 = some held := rfl
  have hnamed : ∀ s ∈ held.current.sources, ¬s.Unnamed := by
    simp only [held, Holder.new, List.forall_mem_cons]
    exact ⟨by decide, by decide, by simp⟩
  have hok : first.1.context? = some (change.revision held.current) := by
    apply applied_of_named hheld hnamed
    simp only [change, List.append_nil, List.forall_mem_cons]
    exact ⟨by decide, by decide, by simp⟩
  have hsteady : (change.revision held.current).Steady m := by
    have hsources : (change.revision held.current).sources = [base, extra, back] := rfl
    refine ⟨?_, by simp [ContextChange.revision, held, Holder.new]⟩
    rw [hsources]
    simp only [List.forall_mem_cons]
    exact ⟨Source.fixed_steady .., Source.fixed_steady .., Source.fixed_steady .., by simp⟩
  have hspares : h.Spares 0 (fun _ => True) := fun l e _ => trivial
  obtain ⟨hagain, hholds⟩ := applyChange_again hheld hok
  obtain ⟨kept, hkept, hcurrent⟩ := hholds _ (fun _ _ => trivial) hspares
  obtain ⟨c', hok', hsame⟩ := hagain hkept hcurrent
  have hc' : c' = change.revision (change.revision held.current) :=
    hcurrent ▸ applied_eq_revision hkept hok'
  refine ⟨hheld, _, c', hok, hok', rfl, ?_, hsteady, hsame m hsteady⟩
  rw [hc']
  rfl

end Hub

end LayeredConfig
