import LayeredConfig.Proofs.Precedence

/-!
Enumerating a context agrees with reading its keys one by one. The enumeration resolves each key
from the tables that were scanned and from single reads where a source cannot be scanned; where
every scannable source agrees with itself this is the property that a single read resolves.
-/

namespace LayeredConfig

namespace Resolution

variable {m : Moment}

def scanEntry (m : Moment) (s : Source) : Source × Option (Table Property) :=
  (s, if s.scannable then some (s.properties.value m) else none)

def scanned (m : Moment) (sources : List Source) : List (Source × Option (Table Property)) :=
  sources.map (scanEntry m)

theorem scanEntry_true {s : Source} (h : s.scannable = true) :
    scanEntry m s = (s, some (s.properties.value m)) := by
  rw [scanEntry, h, if_pos rfl]

theorem scanEntry_false {s : Source} (h : s.scannable = false) : scanEntry m s = (s, none) := by
  rw [scanEntry, h, if_neg Bool.false_ne_true]

theorem scan_gives {sources : List Source} (hs : ∀ s ∈ sources, s.Steady m) :
    (scan sources).Gives m (scanned m sources) := by
  induction sources with
  | nil => exact Reading.gives_pure _
  | cons s rest ih =>
    have hrest := ih (fun t ht => hs t (List.mem_cons_of_mem _ ht))
    rw [scan, scanned, List.map_cons]
    cases hscan : s.scannable with
    | false =>
      rw [scanEntry_false hscan, if_neg Bool.false_ne_true]
      exact (Reading.gives_pure none).bind (hrest.bind (Reading.gives_pure _))
    | true =>
      have hproperties := (hs s List.mem_cons_self).properties.gives.map some
      rw [scanEntry_true hscan, if_pos rfl]
      exact hproperties.bind (hrest.bind (Reading.gives_pure _))

def shown? (m : Moment) (key : String) (s : Source) : Option Property :=
  if s.scannable then s.listed? m key else s.value? m key

def enumerated? (m : Moment) (key : String) (sources : List Source) : Option Property :=
  sources.reverse.findSome? (shown? m key)

def Enumerable (m : Moment) (key : String) (sources : List Source) : Prop :=
  ∃ s ∈ sources, s.scannable = true ∧ (s.listed? m key).isSome

instance (m : Moment) (key : String) (sources : List Source) :
    Decidable (Enumerable m key sources) :=
  inferInstanceAs (Decidable (∃ s ∈ sources, _))

theorem decideFrom_gives {sources : List Source} (hs : ∀ s ∈ sources, s.Steady m) (key : String)
    (result : Option Property) :
    (decideFrom key result (scanned m sources)).Gives m
      ((enumerated? m key sources).or result) := by
  induction sources generalizing result with
  | nil => exact Reading.gives_pure _
  | cons s rest ih =>
    have hrest := ih (fun t ht => hs t (List.mem_cons_of_mem _ ht)) ((shown? m key s).or result)
    have hor : (enumerated? m key (s :: rest)).or result =
        (enumerated? m key rest).or ((shown? m key s).or result) := by
      simp [enumerated?, List.findSome?_append, Option.or_assoc]
    rw [hor, scanned, List.map_cons]
    cases hscan : s.scannable with
    | false =>
      have hshown : shown? m key s = s.value? m key := by simp [shown?, hscan]
      rw [hshown] at hrest ⊢
      rw [scanEntry_false hscan]
      exact ((hs s List.mem_cons_self).get key).gives.bind hrest
    | true =>
      have hshown : shown? m key s = s.listed? m key := by simp [shown?, hscan]
      rw [hshown] at hrest ⊢
      rw [scanEntry_true hscan]
      exact hrest

theorem decideAll_gives {sources : List Source} (hs : ∀ s ∈ sources, s.Steady m)
    (keys : List String) :
    (decideAll (scanned m sources) keys).Gives m
      (keys.filterMap (fun key => (enumerated? m key sources).map (fun p => (key, p)))) := by
  induction keys with
  | nil => exact Reading.gives_pure _
  | cons key rest ih =>
    have hdecide := decideFrom_gives hs key none
    rw [Option.or_none] at hdecide
    refine hdecide.bind (ih.bind ?_)
    cases hp : enumerated? m key sources with
    | none =>
      rw [List.filterMap_cons_none (by rw [hp]; rfl)]
      exact Reading.gives_pure _
    | some p =>
      rw [List.filterMap_cons_some (b := (key, p)) (by rw [hp]; rfl)]
      exact Reading.gives_pure _

theorem mem_scannedKeys {sources : List Source} {key : String} :
    key ∈ scannedKeys (scanned m sources) ↔ Enumerable m key sources := by
  rw [scannedKeys, Table.mem_keys_iff, Option.isSome_iff_ne_none, Ne,
    Table.get?_ofList_eq_none_iff, not_forall]
  simp only [not_not, List.mem_flatMap, scanned, List.mem_map]
  constructor
  · rintro ⟨⟨⟩, _, ⟨s, hs, rfl⟩, hin⟩
    cases hscan : s.scannable with
    | false => simp [scanEntry_false hscan] at hin
    | true =>
      simp only [scanEntry_true hscan, List.mem_map, List.mem_filter] at hin
      obtain ⟨⟨k, p⟩, ⟨hentry, hp⟩, heq⟩ := hin
      cases heq
      refine ⟨s, hs, hscan, ?_⟩
      rw [Source.listed?, Table.mem_entries_iff.mp hentry, Option.filter_some_pos hp]
      rfl
  · rintro ⟨s, hs, hscan, hlisted⟩
    obtain ⟨p, hp⟩ := Option.isSome_iff_exists.mp hlisted
    obtain ⟨hget, hpresent⟩ := Option.filter_eq_some_iff.mp hp
    refine ⟨(), scanEntry m s, ⟨s, hs, rfl⟩, ?_⟩
    simp only [scanEntry_true hscan, List.mem_map, List.mem_filter]
    exact ⟨(key, p), ⟨Table.mem_entries_iff.mpr hget, hpresent⟩, rfl⟩

theorem resolveAll_gives {sources : List Source} (hs : ∀ s ∈ sources, s.Steady m) :
    ∃ all, (resolveAll sources).Gives m all ∧ ∀ key,
      all.get? key = if Enumerable m key sources then enumerated? m key sources else none := by
  refine ⟨_, (scan_gives hs).bind ((decideAll_gives hs _).bind (Reading.gives_pure _)), ?_⟩
  intro key
  rw [Table.get?_ofList_filterMap]
  simp only [mem_scannedKeys]

theorem shown?_eq_value? {s : Source} {key : String}
    (ha : s.scannable = true → s.AgreesOn m key) : shown? m key s = s.value? m key := by
  rw [shown?]
  split
  · next hscan => exact (ha hscan).symm
  · rfl

theorem enumerated?_eq_highest? {sources : List Source} {key : String}
    (ha : ∀ s ∈ sources, s.scannable = true → s.AgreesOn m key) :
    enumerated? m key sources = highest? m key sources := by
  induction sources with
  | nil => rfl
  | cons s rest ih =>
    have hrest := ih (fun t ht => ha t (List.mem_cons_of_mem _ ht))
    simp only [enumerated?, highest?] at hrest
    simp only [enumerated?, highest?, List.reverse_cons, List.findSome?_append, hrest,
      List.findSome?_cons, List.findSome?_nil, shown?_eq_value? (ha s List.mem_cons_self)]

end Resolution

namespace Context

open Resolution

variable {c : Context} {m : Moment}

def property? (c : Context) (m : Moment) (key : String) : Option Property :=
  (highest? m key (ranked m c.sources)).bind (Filter.chain c.filters)

theorem property_gives (hc : c.Steady m) (key : String) :
    (c.property key).Gives m (c.property? m key) := by
  refine (rank_gives hc.sources).bind ?_
  refine (resolve_gives (fun s h => hc.sources s (mem_ranked.mp h)) key).bind ?_
  rw [property?]
  cases highest? m key (ranked m c.sources) with
  | none => exact Reading.gives_pure _
  | some p => exact Filter.chain_gives hc.filters p m

def text? (c : Context) (m : Moment) (key : String) : Option String :=
  (c.property? m key).bind (·.value)

theorem get_gives (hc : c.Steady m) (key : String) :
    (c.get key).Gives m (c.text? m key) :=
  (property_gives hc key).bind (Reading.gives_pure _)

theorem filterEach_gives {filters : List Filter} (hf : ∀ f ∈ filters, f.IsRule)
    (entries : List (String × Property)) :
    (filterEach filters entries).Gives m
      (Table.filterMapEntries (fun _ p => Filter.chain filters p) entries) := by
  induction entries with
  | nil => exact Reading.gives_pure _
  | cons e rest ih =>
    obtain ⟨key, p⟩ := e
    rw [Table.filterMapEntries_cons]
    refine (Filter.chain_gives hf p m).bind (ih.bind ?_)
    cases Filter.chain filters p <;> exact Reading.gives_pure _

theorem propertyTable_gives (hc : c.Steady m) :
    ∃ table, c.propertyTable.Gives m table ∧ ∀ key,
      table.get? key = if Enumerable m key c.sources then
        (enumerated? m key (ranked m c.sources)).bind (Filter.chain c.filters) else none := by
  have hranked : ∀ s ∈ ranked m c.sources, s.Steady m :=
    fun s hs => hc.sources s (mem_ranked.mp hs)
  obtain ⟨all, hall, hget⟩ := resolveAll_gives hranked
  refine ⟨all.filterMap (fun _ p => Filter.chain c.filters p), ?_, ?_⟩
  · have hfilter := filterEach_gives (m := m) hc.filters all.entries
    have htable : Table.ofList (Table.filterMapEntries (fun _ p => Filter.chain c.filters p)
        all.entries) = all.filterMap (fun _ p => Filter.chain c.filters p) :=
      Table.ofList_entries (all.filterMap (fun _ p => Filter.chain c.filters p))
    rw [← htable]
    exact (rank_gives hc.sources).bind (hall.bind (hfilter.bind (Reading.gives_pure _)))
  · intro key
    have henumerable : Enumerable m key (ranked m c.sources) ↔ Enumerable m key c.sources := by
      simp only [Enumerable, mem_ranked]
    rw [Table.get?_filterMap, hget]
    by_cases hkey : Enumerable m key c.sources
    · rw [if_pos (henumerable.mpr hkey), if_pos hkey]
    · rw [if_neg (mt henumerable.mp hkey), if_neg hkey, Option.bind_none]

theorem propertyTable_steady (hc : c.Steady m) : c.propertyTable.Steady m := by
  obtain ⟨table, htable, -⟩ := propertyTable_gives hc
  exact htable.steady

theorem propertyTable_get? (hc : c.Steady m) {key : String}
    (ha : ∀ s ∈ c.sources, s.scannable = true → s.AgreesOn m key) :
    (c.propertyTable.value m).get? key =
      if Enumerable m key c.sources then c.property? m key else none := by
  obtain ⟨table, htable, hget⟩ := propertyTable_gives hc
  have hhighest : enumerated? m key (ranked m c.sources) = highest? m key (ranked m c.sources) :=
    enumerated?_eq_highest? (fun s hs => ha s (mem_ranked.mp hs))
  rw [htable.value_eq, hget key, hhighest, property?]

theorem properties_gives (hc : c.Steady m) :
    c.properties.Gives m ((c.propertyTable.value m).filterMap (fun _ p => p.value)) :=
  (propertyTable_steady hc).gives.bind (Reading.gives_pure _)

theorem properties_steady (hc : c.Steady m) : c.properties.Steady m := (properties_gives hc).steady

theorem properties_get? (hc : c.Steady m) {key : String}
    (ha : ∀ s ∈ c.sources, s.scannable = true → s.AgreesOn m key) :
    (c.properties.value m).get? key =
      if Enumerable m key c.sources then c.text? m key else none := by
  rw [(properties_gives hc).value_eq, Table.get?_filterMap, propertyTable_get? hc ha]
  split <;> rfl

theorem property?_of_decides {key : String} {i : Nat} {s : Source}
    (h : Decides m c.sources key i s) :
    c.property? m key = (s.value? m key).bind (Filter.chain c.filters) := by
  obtain ⟨p, hp⟩ := Option.isSome_iff_exists.mp h.present
  rw [property?, highest?_eq_some_iff.mpr ⟨i, s, h, hp⟩, hp]

theorem single_steady {s : Source} (h : s.Steady m) (registry : Registry) :
    (Context.mk [s] [] registry).Steady m := by
  constructor
  · simpa using h
  · simp

def pass (c : Context) : Option Property → Reading (Option Property)
  | some p => Reading.thread (applyAll c.filters p)
  | none => pure none

theorem property_eq_pass (c : Context) (key : String) :
    c.property key = (do c.pass (← resolve (← rank c.sources) key)) := rfl

theorem property_run (hs : ∀ s ∈ c.sources, s.Steady m) (key : String) :
    Reading.run (c.property key) m.store m.filters =
      Reading.run (c.pass (highest? m key (ranked m c.sources))) m.store m.filters := by
  have hresolve : (resolve (ranked m c.sources) key).Gives m
      (highest? m key (ranked m c.sources)) :=
    resolve_gives (fun s h => hs s (mem_ranked.mp h)) key
  rw [property_eq_pass, Reading.run_bind, rank_gives hs, Reading.run_bind, hresolve]

theorem highest?_ranked_single (s : Source) (m : Moment) (key : String) :
    highest? m key (ranked m [s]) = s.value? m key := by
  rw [ranked, List.mergeSort_singleton, highest?]
  simp

theorem property?_single (s : Source) (registry : Registry) (m : Moment) (key : String) :
    (Context.mk [s] [] registry).property? m key = s.value? m key := by
  have hchain : Filter.chain [] = some := rfl
  rw [property?, highest?_ranked_single, hchain, Option.bind_fun_some]

theorem get_gives_single {s : Source} (h : s.Steady m) (registry : Registry) (key : String) :
    ((Context.mk [s] [] registry).get key).Gives m ((s.value? m key).bind (·.value)) := by
  rw [← property?_single]
  exact get_gives (single_steady h registry) key

theorem run_get_single {s : Source} (h : s.Steady m) (hc : c.sources = [s]) (key : String) :
    Reading.run (c.get key) m.store m.filters =
      Reading.run (do return (← c.pass (s.value? m key)).bind (·.value)) m.store m.filters := by
  have hs : ∀ t ∈ c.sources, t.Steady m := by simpa [hc] using h
  rw [get, Reading.run_bind, Reading.run_bind, property_run hs, hc, highest?_ranked_single]

theorem property?_isPresent {key : String} {p : Property} (h : c.property? m key = some p) :
    p.isPresent = true := by
  obtain ⟨q, hq, hp⟩ := Option.bind_eq_some_iff.mp h
  obtain ⟨-, s, -, hs⟩ := exists_decides hq
  exact Filter.chain_isPresent (Source.isPresent_of_value? hs) hp

theorem enumerable_iff {key : String}
    (ha : ∀ s ∈ c.sources, s.scannable = true → s.AgreesOn m key) :
    Enumerable m key c.sources ↔
      ∃ s ∈ c.sources, s.scannable = true ∧ (s.value? m key).isSome := by
  constructor
  · rintro ⟨s, hs, hscan, hlisted⟩
    exact ⟨s, hs, hscan, (ha s hs hscan) ▸ hlisted⟩
  · rintro ⟨s, hs, hscan, hvalue⟩
    exact ⟨s, hs, hscan, (ha s hs hscan) ▸ hvalue⟩

theorem properties_get?_single {s : Source} {registry : Registry} {key : String}
    (h : s.Steady m) (ha : s.Agrees m) :
    ((Context.mk [s] [] registry).properties.value m).get? key =
      if s.scannable then (s.value? m key).bind (·.value) else none := by
  have hagree : ∀ t ∈ [s], t.scannable = true → t.AgreesOn m key := by
    intro t ht _
    obtain rfl := List.mem_singleton.mp ht
    exact ha key
  have henumerable : Enumerable m key [s] ↔ s.scannable = true ∧ (s.value? m key).isSome := by
    have := enumerable_iff (c := Context.mk [s] [] registry) hagree
    simpa using this
  rw [properties_get? (single_steady h registry) hagree, text?, property?_single]
  simp only [henumerable]
  cases hscan : s.scannable <;> cases hv : s.value? m key <;> simp

/-- Reading all properties and reading one by one give the same, and a key is among all of them
when a source that can be scanned has it and no filter vetoes it. -/
theorem propertyTable_agrees (hc : c.Steady m)
    (ha : ∀ s ∈ c.sources, s.scannable = true → s.Agrees m) :
    ∃ table texts, c.propertyTable.Gives m table ∧ c.properties.Gives m texts ∧ ∀ key, ∃ found,
      (c.property key).Gives m found ∧ (c.get key).Gives m (found.bind (·.value)) ∧
      (table.contains key = true ↔
        (∃ s ∈ c.sources, s.scannable = true ∧ (s.value? m key).isSome) ∧ found.isSome) ∧
      (table.contains key = true → table.get? key = found ∧ (texts.get? key).isSome ∧
        texts.get? key = found.bind (·.value)) ∧
      ((∀ s ∈ c.sources, (s.value? m key).isSome → s.scannable = false) →
        table.get? key = none ∧ texts.get? key = none) ∧
      (∀ i s, Decides m c.sources key i s →
        found = (s.value? m key).bind (Filter.chain c.filters)) ∧
      (∀ i s p, Decides m c.sources key i s → s.value? m key = some p →
        Filter.chain c.filters p = none →
          table.get? key = none ∧ texts.get? key = none ∧ found = none) := by
  refine ⟨_, _, (propertyTable_steady hc).gives, (properties_steady hc).gives,
    fun key => ⟨c.property? m key, property_gives hc key, get_gives hc key, ?_⟩⟩
  have hakey : ∀ s ∈ c.sources, s.scannable = true → s.AgreesOn m key :=
    fun s hs hscan => ha s hs hscan key
  rw [Table.contains, propertyTable_get? hc hakey, properties_get? hc hakey,
    ← enumerable_iff hakey]
  refine ⟨?_, ?_, ?_, fun i s => property?_of_decides, ?_⟩
  · split
    · next hkey => exact (and_iff_right hkey).symm
    · next hkey => exact iff_of_false Bool.false_ne_true (fun h => hkey h.1)
  · split
    · intro h
      obtain ⟨p, hp⟩ := Option.isSome_iff_exists.mp h
      have hpresent : p.value.isSome = true := property?_isPresent hp
      refine ⟨rfl, ?_, rfl⟩
      rwa [text?, hp]
    · intro h
      cases h
  · intro hunseen
    have hkey : ¬ Enumerable m key c.sources := by
      rw [enumerable_iff hakey]
      rintro ⟨s, hs, hscan, hvalue⟩
      rw [hunseen s hs hvalue] at hscan
      cases hscan
    rw [if_neg hkey, if_neg hkey]
    exact ⟨rfl, rfl⟩
  · intro i s p hs hp hveto
    have hnone : c.property? m key = none := by
      rw [property?_of_decides hs, hp]
      exact hveto
    rw [text?, hnone]
    simp

theorem propertyTable_agrees_hidden :
    let m : Moment := ⟨.empty, []⟩
    let visible := Source.fixed 0 "visible" 1 true (.ofList [("a", "1"), ("secret", "2")]) .empty
    let hidden := Source.fixed 1 "hidden" 10 false (.ofList [("a", "3"), ("z", "4")]) .empty
    let veto := Filter.rule "veto" (fun p => if p.key = "secret" then none else some p)
    let c : Context := ⟨[visible, hidden], [veto], .empty 0⟩
    c.Steady m ∧ (∀ s ∈ c.sources, s.scannable = true → s.Agrees m) ∧
      ∃ table, c.propertyTable.Gives m table ∧
        table.get? "a" = some (Property.of "a" "3" "hidden") ∧
        table.get? "secret" = none ∧ table.get? "z" = none ∧ (c.get "z").Gives m (some "4") := by
  intro m visible hidden veto c
  have hc : c.Steady m := by
    constructor
    · simp only [c, List.forall_mem_cons]
      exact ⟨Source.fixed_steady .., Source.fixed_steady .., by simp⟩
    · simp only [c, List.forall_mem_cons]
      exact ⟨trivial, by simp⟩
  have ha : ∀ s ∈ c.sources, s.scannable = true → s.Agrees m := by
    simp only [c, List.forall_mem_cons]
    exact ⟨fun _ => (Source.fixed_tabled ..).agrees, fun _ => (Source.fixed_tabled ..).agrees,
      by simp⟩
  have hsecret : Decides m c.sources "secret" 0 visible := by
    refine ⟨rfl, rfl, fun j t hj ht => ?_⟩
    match j, hj with
    | 0, rfl => exact .inr ⟨rfl, Nat.le_refl 0⟩
    | 1, rfl => exact absurd ht (by decide)
  have hhidden : ∀ key, (hidden.value? m key).isSome → Decides m c.sources key 1 hidden := by
    refine fun key hkey => ⟨rfl, hkey, fun j t hj _ => ?_⟩
    match j, hj with
    | 0, rfl => exact .inl (by decide)
    | 1, rfl => exact .inr ⟨rfl, Nat.le_refl 1⟩
  obtain ⟨table, texts, htable, -, hkeys⟩ := propertyTable_agrees hc ha
  refine ⟨hc, ha, table, htable, ?_, ?_, ?_, ?_⟩
  · obtain ⟨found, -, -, hcontains, hget, -, hdecides, -⟩ := hkeys "a"
    have hfound : found = some (Property.of "a" "3" "hidden") := hdecides 1 hidden (hhidden "a" rfl)
    have hin := hcontains.mpr ⟨⟨visible, List.mem_cons_self, rfl, rfl⟩, by rw [hfound]; rfl⟩
    rw [(hget hin).1, hfound]
  · obtain ⟨found, -, -, -, -, -, -, hveto⟩ := hkeys "secret"
    exact (hveto 0 visible (Property.of "secret" "2" "visible") hsecret rfl rfl).1
  · obtain ⟨found, -, -, -, -, hunseen, -⟩ := hkeys "z"
    refine (hunseen ?_).1
    simp only [c, List.forall_mem_cons]
    exact ⟨fun h => absurd h (by decide), fun _ => rfl, by simp⟩
  · obtain ⟨found, -, hread, -, -, -, hdecides, -⟩ := hkeys "z"
    have hfound : found = some (Property.of "z" "4" "hidden") := hdecides 1 hidden (hhidden "z" rfl)
    rw [hfound] at hread
    exact hread

end Context

end LayeredConfig
