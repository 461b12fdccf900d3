import LayeredConfig.Proofs.Wrappers

/-!
Trees of sources. Sources in memory, of the environment and of documents are put into filtering and
enriching sources and into contexts that are sources again. A tree agrees with itself as far as no
context wrapped in it gives a key that it does not enumerate.
-/

namespace LayeredConfig

inductive PlainSource where
  | fixed (id : Nat) (name : String) (ordinal : Int) (scannable : Bool)
      (values metadata : Table String)
  | dynamic (id : Nat) (name : String) (cell : Nat)
  | environment (id : Nat) (name lead separator : String) (ordinal : Int) (cell : Nat)
  | document (id : Nat) (name : String) (ordinal : Int) (path : Option String) (cell : Nat)
  | snapshot (s : Snapshot)
  | nothing (id : Nat)

inductive SourceTree where
  | plain (p : PlainSource)
  | filtered (id : Nat) (inner : SourceTree) (keep : String → Bool)
  | enriched (id : Nat) (inner : SourceTree) (items : Table String) (overriding : Bool)
  | wrapping (id : Nat) (name : String) (ordinal : Int) (members : List SourceTree)
      (filters : List Filter) (rules : ∀ f ∈ filters, f.IsRule) (registry : Registry)

namespace PlainSource

def source : PlainSource → Source
  | fixed id name ordinal scannable values metadata =>
    Source.fixed id name ordinal scannable values metadata
  | dynamic id name cell => Source.dynamic id name cell
  | environment id name lead separator ordinal cell =>
    Source.environment id name lead separator ordinal cell
  | document id name ordinal path cell => Source.document id name ordinal path cell
  | snapshot s => Source.ofSnapshot s
  | nothing id => Source.nothing id

theorem tabled (p : PlainSource) (m : Moment) : ∃ t, p.source.Tabled m t := by
  cases p with
  | fixed => exact ⟨_, Source.fixed_tabled ..⟩
  | dynamic => exact ⟨_, Source.dynamic_tabled ..⟩
  | environment => exact ⟨_, Source.environment_tabled ..⟩
  | document => exact ⟨_, Source.document_tabled ..⟩
  | snapshot s => exact ⟨_, Source.ofSnapshot_tabled s⟩
  | nothing id => exact ⟨_, Source.nothing_tabled id⟩

theorem declared_steady (p : PlainSource) (m : Moment) : p.source.declared.Steady m := by
  cases p <;> rfl

theorem steady (p : PlainSource) (m : Moment) : p.source.Steady m := by
  obtain ⟨t, ht⟩ := p.tabled m
  exact ht.steady (p.declared_steady m)

theorem agrees (p : PlainSource) (m : Moment) : p.source.Agrees m := by
  obtain ⟨t, ht⟩ := p.tabled m
  exact ht.agrees

end PlainSource

namespace SourceTree

mutual

def source : SourceTree → Source
  | plain p => p.source
  | filtered id inner keep => Source.filtered id inner.source keep
  | enriched id inner items overriding => Source.enriched id inner.source items overriding
  | wrapping id name ordinal members filters _ registry =>
    Source.wrapping id name ordinal ⟨sources members, filters, registry⟩

def sources : List SourceTree → List Source
  | [] => []
  | t :: rest => source t :: sources rest

end

theorem sources_eq_map (members : List SourceTree) : sources members = members.map source := by
  induction members with
  | nil => rfl
  | cons t rest ih => rw [sources, ih, List.map_cons]

theorem mem_sources {members : List SourceTree} {s : Source} :
    s ∈ sources members ↔ ∃ t ∈ members, t.source = s := by
  rw [sources_eq_map, List.mem_map]

def wrapped? : SourceTree → Option Context
  | wrapping _ _ _ members filters _ registry => some ⟨sources members, filters, registry⟩
  | _ => none

@[elab_as_elim]
theorem induct {motive : SourceTree → Prop} (plain : ∀ p, motive (.plain p))
    (filtered : ∀ id inner keep, motive inner → motive (.filtered id inner keep))
    (enriched : ∀ id inner items overriding, motive inner →
      motive (.enriched id inner items overriding))
    (wrapping : ∀ id name ordinal members filters rules registry,
      (∀ t ∈ members, motive t) →
        motive (.wrapping id name ordinal members filters rules registry)) :
    ∀ t, motive t
  | .plain p => plain p
  | .filtered id inner keep =>
    filtered id inner keep (induct plain filtered enriched wrapping inner)
  | .enriched id inner items overriding =>
    enriched id inner items overriding (induct plain filtered enriched wrapping inner)
  | .wrapping id name ordinal members filters rules registry =>
    wrapping id name ordinal members filters rules registry
      (fun t _ => induct plain filtered enriched wrapping t)

theorem steady (t : SourceTree) (m : Moment) : t.source.Steady m := by
  induction t using induct with
  | plain p => exact p.steady m
  | filtered id inner keep ih => exact Source.filtered_steady ih id keep
  | enriched id inner items overriding ih => exact Source.enriched_steady ih id items overriding
  | wrapping id name ordinal members filters rules registry ih =>
    refine Source.wrapping_steady ⟨fun s hs => ?_, rules⟩ id name ordinal
    obtain ⟨t, ht, rfl⟩ := mem_sources.mp hs
    exact ih t ht

theorem wrapped?_steady {t : SourceTree} {c : Context} (h : t.wrapped? = some c) (m : Moment) :
    c.Steady m := by
  cases t with
  | wrapping id name ordinal members filters rules registry =>
    cases h
    refine ⟨fun s hs => ?_, rules⟩
    obtain ⟨t, -, rfl⟩ := mem_sources.mp hs
    exact t.steady m
  | _ => cases h

inductive Within : SourceTree → SourceTree → Prop where
  | refl (t : SourceTree) : Within t t
  | filtered {u inner : SourceTree} (id : Nat) (keep : String → Bool) :
      Within u inner → Within u (.filtered id inner keep)
  | enriched {u inner : SourceTree} (id : Nat) (items : Table String) (overriding : Bool) :
      Within u inner → Within u (.enriched id inner items overriding)
  | member {u t : SourceTree} (id : Nat) (name : String) (ordinal : Int)
      {members : List SourceTree} {filters : List Filter} (rules : ∀ f ∈ filters, f.IsRule)
      (registry : Registry) :
      t ∈ members → Within u t →
        Within u (.wrapping id name ordinal members filters rules registry)

theorem Within.trans {t u v : SourceTree} (hvu : Within v u) (hut : Within u t) : Within v t := by
  induction hut with
  | refl => exact hvu
  | filtered id keep _ ih => exact .filtered id keep ih
  | enriched id items overriding _ ih => exact .enriched id items overriding ih
  | member id name ordinal rules registry ht _ ih =>
    exact .member id name ordinal rules registry ht ih

def Covered (t : SourceTree) (m : Moment) (key : String) : Prop :=
  ∀ u c, Within u t → u.wrapped? = some c → ((c.get key).value m).isSome →
    ∃ s ∈ c.sources, s.scannable = true ∧ (s.value? m key).isSome

theorem Covered.within {t u : SourceTree} {m : Moment} {key : String} (h : t.Covered m key)
    (hut : Within u t) : u.Covered m key :=
  fun v c hvu => h v c (hvu.trans hut)

theorem wrapping_agreesOn_iff {id : Nat} {name : String} {ordinal : Int}
    {members : List SourceTree} {filters : List Filter} {rules : ∀ f ∈ filters, f.IsRule}
    {registry : Registry} {m : Moment} {key : String}
    (ha : ∀ t ∈ members, t.source.scannable = true → t.source.AgreesOn m key) :
    (wrapping id name ordinal members filters rules registry).source.AgreesOn m key ↔
      ((((⟨sources members, filters, registry⟩ : Context).get key).value m).isSome →
        ∃ s ∈ sources members, s.scannable = true ∧ (s.value? m key).isSome) := by
  have hc : Context.Steady ⟨sources members, filters, registry⟩ m :=
    wrapped?_steady (t := wrapping id name ordinal members filters rules registry) rfl m
  have hsources : ∀ s ∈ sources members, s.scannable = true → s.AgreesOn m key := by
    intro s hs
    obtain ⟨t, ht, rfl⟩ := mem_sources.mp hs
    exact ha t ht
  rw [source, Source.wrapping_agreesOn_iff hc id name ordinal hsources,
    (Context.get_gives hc key).value_eq, Context.enumerable_iff hsources]

theorem agreesOn_of_covered {t : SourceTree} {m : Moment} {key : String} (h : t.Covered m key)
    (hscan : t.source.scannable = true) : t.source.AgreesOn m key := by
  induction t using induct with
  | plain p => exact p.agrees m key
  | filtered id inner keep ih =>
    have hinner := ih (h.within (.filtered id keep (.refl inner))) hscan
    rw [Source.AgreesOn, source, Source.filtered_value?, Source.filtered_listed?, hinner]
  | enriched id inner items overriding ih =>
    have hinner := ih (h.within (.enriched id items overriding (.refl inner))) hscan
    rw [Source.AgreesOn, source, Source.enriched_value?, Source.enriched_listed?, hinner]
  | wrapping id name ordinal members filters rules registry ih =>
    refine (wrapping_agreesOn_iff fun t ht => ?_).mpr (h _ _ (.refl _) rfl)
    exact ih t ht (h.within (.member id name ordinal rules registry ht (.refl t)))

theorem covered_of_agreesOn {t : SourceTree} {m : Moment} {key : String}
    (h : ∀ u, Within u t → u.source.scannable = true → u.source.AgreesOn m key) :
    t.Covered m key := by
  intro u c hut hc
  cases u with
  | wrapping id name ordinal members filters rules registry =>
    cases hc
    refine (wrapping_agreesOn_iff fun v hv => ?_).mp (h _ hut rfl)
    exact h v ((Within.member id name ordinal rules registry hv (.refl v)).trans hut)
  | _ => cases hc

/-- A tree that can be scanned lists what it gives where it is covered, and only there do all the
trees inside it. -/
theorem agrees_iff_covered (t : SourceTree) (m : Moment) (key : String) :
    (t.Covered m key → t.source.scannable = true →
      ∀ p, t.source.value? m key = some p ↔ t.source.listed? m key = some p) ∧
    ((∀ u, Within u t → u.source.scannable = true →
      ∀ p, u.source.value? m key = some p ↔ u.source.listed? m key = some p) ↔
        t.Covered m key) := by
  have hagree : ∀ u, t.Covered m key → Within u t → u.source.scannable = true →
      ∀ p, u.source.value? m key = some p ↔ u.source.listed? m key = some p := by
    intro u h hut hscan p
    rw [agreesOn_of_covered (h.within hut) hscan]
  refine ⟨fun h => hagree t h (.refl t), fun h => covered_of_agreesOn fun u hut hscan => ?_,
    fun h u => hagree u h⟩
  exact Option.ext (h u hut hscan)

theorem wrapping_hidden_disagrees :
    ∃ (t : SourceTree) (m : Moment), t.source.scannable = true ∧
      t.source.value? m "a" = some (Property.of "a" "1" "outer") ∧
      t.source.listed? m "a" = none := by
  let hidden := Source.fixed 0 "hidden" 0 false (.ofList [("a", "1")]) .empty
  let c : Context := ⟨[hidden], [], .empty 0⟩
  let m : Moment := ⟨.empty, []⟩
  have hc : c.Steady m := ⟨by simp [c, hidden, Source.fixed_steady], by simp [c]⟩
  have hdecides : Resolution.Decides m c.sources "a" 0 hidden := by
    refine ⟨rfl, rfl, fun j t hj _ => ?_⟩
    match j, hj with
    | 0, rfl => exact .inr ⟨rfl, Nat.le_refl 0⟩
  have hvalue : c.property? m "a" = some (Property.of "a" "1" "hidden") :=
    Context.property?_of_decides hdecides
  have hlisted : (c.properties.value m).get? "a" = none := by
    rw [Context.properties_get? hc (by simp [c, hidden, Source.fixed]), if_neg (by decide)]
  refine ⟨.wrapping 1 "outer" 0 [.plain (.fixed 0 "hidden" 0 false (.ofList [("a", "1")]) .empty)]
    [] (by simp) (.empty 0), m, rfl, ?_, ?_⟩
  · change (Source.wrapping 1 "outer" 0 c).value? m "a" = _
    rw [Source.wrapping_value? hc, Context.text?, hvalue]
    rfl
  · change (Source.wrapping 1 "outer" 0 c).listed? m "a" = _
    rw [Source.wrapping_listed? hc, hlisted]
    rfl

end SourceTree

end LayeredConfig
