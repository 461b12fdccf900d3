import LayeredConfig.Proofs.Moments

namespace LayeredConfig

namespace Filter

def writtenOut (l : List ListedFilter) : Filter → List Filter
  | threadLocal => l.map listed
  | f => [f]

def inlined : List ListedFilter → List Filter → List Filter
  | _, [] => []
  | l, threadLocal :: rest => l.map listed ++ inlined l rest
  | l, enrolling name added :: rest => enrolling name added :: inlined (l ++ [added]) rest
  | l, rule name run :: rest => rule name run :: inlined l rest

theorem inlined_eq_flatMap {chain : List Filter}
    (h : ∀ f ∈ chain, f = threadLocal ∨ f.IsRule) (l : List ListedFilter) :
    inlined l chain = chain.flatMap (writtenOut l) := by
  induction chain with
  | nil => rfl
  | cons f rest ih =>
    have hrest := ih fun g hg => h g (List.mem_cons_of_mem f hg)
    rw [List.flatMap_cons, ← hrest]
    match f, h f List.mem_cons_self with
    | rule name run, _ => rfl
    | threadLocal, _ => rfl
    | enrolling name added, .inr hrule => exact hrule.elim

theorem applyEach_map_listed (l : List ListedFilter) (p : Property) :
    applyEach Filter.apply (l.map listed) p = applyEach ListedFilter.apply l p := by
  induction l generalizing p with
  | nil => rfl
  | cons f rest ih =>
    rw [List.map_cons, applyEach, applyEach, ← funext ih]
    rfl

theorem run_threadLocal {l : List ListedFilter} {p : Property} (hp : p.isPresent = true)
    (rest : List Filter) : StateT.run (applyAll (threadLocal :: rest) p) l =
      StateT.run (applyAll (l.map listed ++ rest) p) l := by
  cases hr : StateT.run (applyEach Filter.apply (l.map listed) p) l with
  | mk r l' =>
    have hlist : StateT.run (Filter.apply threadLocal p) l = (r, l') := by
      rw [← hr, applyEach_map_listed]
      rfl
    rw [applyAll, applyAll, run_applyEach_append hr]
    cases r with
    | none => exact run_applyEach_vetoed hlist rfl
    | some q =>
      have hq : q.isPresent = true := applyEach_isPresent Filter.apply hp (congrArg Prod.fst hr)
      exact run_applyEach_passed hlist hq

theorem isRule_map_listed {l : List ListedFilter} (hl : ∀ f ∈ l, f.IsRule) :
    ∀ f ∈ l.map listed, f.IsRule :=
  List.forall_mem_map.mpr hl

theorem run_inlined {chain : List Filter} {l : List ListedFilter} {p : Property}
    (hp : p.isPresent = true) (hl : ∀ f ∈ l, f.IsRule)
    (hadded : ∀ name added, enrolling name added ∈ chain → added.IsRule) :
    StateT.run (applyAll chain p) l = StateT.run (applyAll (inlined l chain) p) l := by
  induction chain generalizing l p with
  | nil => rfl
  | cons f rest ih =>
    have hrest : ∀ name added, enrolling name added ∈ rest → added.IsRule :=
      fun name added h => hadded name added (List.mem_cons_of_mem f h)
    match f, hadded with
    | rule name run, _ =>
      have hstep : StateT.run (Filter.apply (rule name run) p) l = (run p, l) := rfl
      rw [inlined]
      cases hnext : (run p).filter Property.isPresent with
      | none =>
        exact (run_applyEach_vetoed hstep hnext).trans (run_applyEach_vetoed hstep hnext).symm
      | some next =>
        obtain ⟨hrun, hpresent⟩ := Option.filter_eq_some_iff.mp hnext
        rw [hrun] at hstep
        rw [applyAll, applyAll, run_applyEach_passed hstep hpresent,
          run_applyEach_passed hstep hpresent]
        exact ih hpresent hl hrest
    | enrolling name added, hadded =>
      have hstep : StateT.run (Filter.apply (enrolling name added) p) l = (some p, l ++ [added]) :=
        rfl
      have hlonger : ∀ f ∈ l ++ [added], f.IsRule := by
        simpa [or_imp, forall_and] using ⟨hl, hadded name added List.mem_cons_self⟩
      rw [inlined, applyAll, applyAll, run_applyEach_passed hstep hp,
        run_applyEach_passed hstep hp]
      exact ih hp hlonger hrest
    | threadLocal, _ =>
      -- The list is split off on both sides; what it passes is present and goes on in the rest.
      obtain ⟨r, hr⟩ := applyEach_rules (isRule_map_listed hl) p
      rw [run_threadLocal hp, inlined, applyAll, applyAll, run_applyEach_append (hr l),
        run_applyEach_append (hr l)]
      cases r with
      | none => rfl
      | some q =>
        exact ih (applyEach_isPresent Filter.apply hp (congrArg Prod.fst (hr l))) hl hrest

theorem run_applyAll_vetoed {fs : List Filter} {f : Filter} {p q : Property} {r : Option Property}
    {l l' l'' : List ListedFilter} (hfs : StateT.run (applyAll fs p) l = (some q, l'))
    (hf : StateT.run (f.apply q) l' = (r, l''))
    (hveto : ∀ next, r = some next → next.isPresent = false) (gs : List Filter) :
    StateT.run (applyAll (fs ++ f :: gs) p) l = (none, l'') := by
  have hnone : r.filter Property.isPresent = none := by
    rw [Option.filter_eq_none_iff]
    intro next hnext
    simp [hveto next hnext]
  exact (run_applyEach_append hfs).trans (run_applyEach_vetoed hf hnone)

/-- A present property goes through a chain as if the list of the thread were written into it, any
number of times and at any places; where filters of the chain add to the list, each place has the
list as it is at its turn. A chain goes on with what its first part passes; what vetoes, by giving
nothing or an absent property, is the last filter that does anything, and what is passed at the end
is present. -/
theorem thread_filters_inlined :
    (∀ (chain : List Filter) (l : List ListedFilter) (p : Property), p.isPresent = true →
      (∀ f ∈ l, f.IsRule) →
      ((∀ f ∈ chain, f = threadLocal ∨ f.IsRule) →
        StateT.run (applyAll chain p) l =
          StateT.run (applyAll (chain.flatMap (writtenOut l)) p) l) ∧
      ((∀ name added, enrolling name added ∈ chain → added.IsRule) →
        StateT.run (applyAll chain p) l = StateT.run (applyAll (inlined l chain) p) l)) ∧
    (∀ (fs gs : List Filter) (p : Property), applyAll (fs ++ gs) p = do
      match ← applyAll fs p with
      | some q => applyAll gs q
      | none => pure none) ∧
    (∀ (fs : List Filter) (f : Filter) (p q : Property) (r : Option Property)
      (l l' l'' : List ListedFilter), StateT.run (applyAll fs p) l = (some q, l') →
        StateT.run (f.apply q) l' = (r, l'') →
        (∀ next, r = some next → next.isPresent = false) →
          ∀ gs, StateT.run (applyAll (fs ++ f :: gs) p) l = (none, l'')) ∧
    ∀ (chain : List Filter) (l : List ListedFilter) (p q : Property), p.isPresent = true →
      (StateT.run (applyAll chain p) l).1 = some q → q.isPresent = true := by
  refine ⟨fun chain l p hp hl => ⟨fun hchain => ?_, run_inlined hp hl⟩, applyAll_append,
    fun fs f p q r l l' l'' => run_applyAll_vetoed,
    fun chain l p q => applyEach_isPresent Filter.apply⟩
  rw [← inlined_eq_flatMap hchain]
  apply run_inlined hp hl
  intro name added h
  rcases hchain _ h with heq | hrule
  · cases heq
  · exact hrule.elim

theorem thread_filters_inlined_twice :
    let suffix (text : String) : ListedFilter :=
      .rule text (fun p => p.value.map (fun value => p.withValue (value ++ text)))
    let blank : Filter := .rule "blank" (fun p => some (Property.absent p.key p.source))
    let p := Property.of "k" "v" "test"
    let chain := [.listed (suffix "-a"), threadLocal, .enrolling "adder" (suffix "-c"), threadLocal]
    let l := [suffix "-b"]
    p.isPresent = true ∧ (∀ f ∈ l, f.IsRule) ∧
      (∀ f ∈ [threadLocal, .listed (suffix "-a"), threadLocal], f = threadLocal ∨ f.IsRule) ∧
      StateT.run (applyAll [threadLocal, .listed (suffix "-a"), threadLocal] p) l =
        StateT.run (applyAll (List.map .listed [suffix "-b", suffix "-a", suffix "-b"]) p) l ∧
      (∀ name added, .enrolling name added ∈ chain → added.IsRule) ∧
      StateT.run (applyAll chain p) l = StateT.run (applyAll (List.map .listed [suffix "-a",
        suffix "-b", .enrolling "adder" (suffix "-c"), suffix "-b", suffix "-c"]) p) l ∧
      (StateT.run (applyAll chain p) l).1 = some (Property.of "k" "v-a-b-b-c" "test") ∧
      ∀ gs, StateT.run (applyAll (chain ++ blank :: gs) p) l = (none, l ++ [suffix "-c"]) := by
  intro suffix blank p chain l
  have hl : ∀ f ∈ l, f.IsRule := by simp [l, suffix, ListedFilter.IsRule]
  have hpure : ∀ f ∈ [threadLocal, .listed (suffix "-a"), threadLocal],
      f = threadLocal ∨ f.IsRule := by
    simp [suffix, IsRule, ListedFilter.IsRule]
  have hadded : ∀ name added, .enrolling name added ∈ chain → added.IsRule := by
    simp [chain, suffix, ListedFilter.IsRule]
  have hresult : StateT.run (applyAll chain p) l =
      (some (Property.of "k" "v-a-b-b-c" "test"), l ++ [suffix "-c"]) := rfl
  obtain ⟨hinlined, -, hveto, -⟩ := thread_filters_inlined
  refine ⟨rfl, hl, hpure, (hinlined _ l p rfl hl).1 hpure, hadded,
    (hinlined chain l p rfl hl).2 hadded, congrArg Prod.fst hresult, ?_⟩
  exact hveto chain blank p _ _ l _ _ hresult rfl (by rintro next ⟨⟩; rfl)

end Filter

end LayeredConfig
