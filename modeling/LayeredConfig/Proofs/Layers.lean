import LayeredConfig.Proofs.Freezing
import LayeredConfig.Proofs.Wrappers

namespace LayeredConfig.Source

variable {m : Moment} {s : Source} {key : String}

def listedText? (s : Source) (m : Moment) (key : String) : Option String :=
  (s.listed? m key).bind (·.value)

theorem isSome_listedText? : (s.listedText? m key).isSome = (s.listed? m key).isSome :=
  isSome_bind_value _

theorem text?_eq_none_iff : s.text? m key = none ↔ s.value? m key = none := by
  rw [← Option.not_isSome_iff_eq_none, isSome_text?, Option.not_isSome_iff_eq_none]

theorem listedText?_eq_none_iff : s.listedText? m key = none ↔ s.listed? m key = none := by
  rw [← Option.not_isSome_iff_eq_none, isSome_listedText?, Option.not_isSome_iff_eq_none]

theorem or_bind_value {p q : Option Property} (hp : (p.bind (·.value)).isSome = p.isSome) :
    (p.or q).bind (·.value) = (p.bind (·.value)).or (q.bind (·.value)) := by
  cases p with
  | none => rfl
  | some p =>
    obtain ⟨v, hv⟩ := Option.isSome_iff_exists.mp hp
    rw [hv]
    exact hv

theorem addition?_bind_value (name : String) (items : Table String) (key : String) :
    (addition? name items key).bind (·.value) = items.get? key := by
  rw [addition?]
  cases items.get? key <;> rfl

theorem addition?_isSome (name : String) (items : Table String) (key : String) :
    ((addition? name items key).bind (·.value)).isSome = (addition? name items key).isSome := by
  rw [addition?_bind_value, addition?, Option.isSome_map]

structure Enrichment where
  id : Nat
  items : Table String
  overriding : Bool

inductive Layer where
  | kept (id : Nat) (keep : String → Bool)
  | enriched (e : Enrichment)

namespace Enrichment

def around (e : Enrichment) (s : Source) : Source := enriched e.id s e.items e.overriding

def overlay (e : Enrichment) (key : String) (below : Option String) : Option String :=
  if e.overriding then (e.items.get? key).or below else below.or (e.items.get? key)

theorem layered_bind_value (e : Enrichment) (name key : String) {below : Option Property}
    (hb : (below.bind (·.value)).isSome = below.isSome) :
    (layered e.overriding (addition? name e.items key) below).bind (·.value) =
      e.overlay key (below.bind (·.value)) := by
  rw [layered, overlay]
  split
  · rw [or_bind_value (addition?_isSome name e.items key), addition?_bind_value]
  · rw [or_bind_value hb, addition?_bind_value]

theorem around_text? (e : Enrichment) (s : Source) (key : String) :
    (e.around s).text? m key = e.overlay key (s.text? m key) := by
  rw [text?, around, enriched_value?]
  exact e.layered_bind_value _ key isSome_text?

theorem around_listedText? (e : Enrichment) (s : Source) (key : String) :
    (e.around s).listedText? m key = e.overlay key (s.listedText? m key) := by
  rw [listedText?, around, enriched_listed?]
  exact e.layered_bind_value _ key isSome_listedText?

end Enrichment

namespace Layer

def around : Layer → Source → Source
  | kept id keep, s => filtered id s keep
  | enriched e, s => e.around s

def overlay : Layer → String → Option String → Option String
  | kept _ keep, key, below => if keep key then below else none
  | enriched e, key, below => e.overlay key below

theorem around_text? (l : Layer) (s : Source) (key : String) :
    (l.around s).text? m key = l.overlay key (s.text? m key) := by
  cases l with
  | kept id keep =>
    simp only [around, overlay, text?, filtered_value?]
    split <;> rfl
  | enriched e => exact e.around_text? s key

theorem around_listedText? (l : Layer) (s : Source) (key : String) :
    (l.around s).listedText? m key = l.overlay key (s.listedText? m key) := by
  cases l with
  | kept id keep =>
    simp only [around, overlay, listedText?, filtered_listed?]
    split <;> rfl
  | enriched e => exact e.around_listedText? s key

theorem around_get_steady (h : (s.get key).Steady m) (l : Layer) :
    ((l.around s).get key).Steady m := by
  cases l with
  | kept id keep => exact filtered_get_steady h id keep
  | enriched e => exact enriched_get_steady h e.id e.items e.overriding

end Layer

def stack (s : Source) (layers : List Layer) : Source := layers.foldl (fun s l => l.around s) s

theorem stack_text? (s : Source) (layers : List Layer) (key : String) :
    (stack s layers).text? m key =
      layers.foldl (fun below l => l.overlay key below) (s.text? m key) := by
  induction layers generalizing s with
  | nil => rfl
  | cons l rest ih => exact (ih (l.around s)).trans (by rw [l.around_text?, List.foldl_cons])

theorem stack_listedText? (s : Source) (layers : List Layer) (key : String) :
    (stack s layers).listedText? m key =
      layers.foldl (fun below l => l.overlay key below) (s.listedText? m key) := by
  induction layers generalizing s with
  | nil => rfl
  | cons l rest ih => exact (ih (l.around s)).trans (by rw [l.around_listedText?, List.foldl_cons])

theorem stack_get_steady (h : (s.get key).Steady m) (layers : List Layer) :
    ((stack s layers).get key).Steady m := by
  induction layers generalizing s with
  | nil => exact h
  | cons l rest ih => exact ih (l.around_get_steady h)

theorem Enrichment.overlay_of_read {e : Enrichment} {below : Option String}
    (h : e.overriding = true ∨ below = none) :
    e.overlay key below = (e.items.get? key).or below := by
  rw [overlay]
  rcases h with h | rfl
  · rw [if_pos h]
  · rw [Option.none_or, Option.or_none, ite_self]

theorem Enrichment.overlay_of_not_read {e : Enrichment} {below : Option String}
    (h : ¬(e.overriding = true ∨ below = none)) : e.overlay key below = below := by
  obtain ⟨hover, hbelow⟩ := not_or.mp h
  obtain ⟨v, rfl⟩ := Option.ne_none_iff_exists'.mp hbelow
  rw [overlay, if_neg hover, Option.some_or]

def Asked (s : Source) (m m' : Moment) : Prop := m' = m ∨ m' = Reading.after m (s.get ordinalKey)

theorem Asked.eq {m' : Moment} (h : s.Asked m m') (hs : (s.get ordinalKey).Steady m) : m' = m := by
  rcases h with now | later
  · exact now
  · exact later.trans hs.after_eq

theorem exists_asked_getD (s : Source) (m : Moment) :
    ∃ m', s.Asked m m' ∧ (s.ownOrdinal? m).getD
      (s.ordinalAt (Reading.after m (s.get ordinalKey))) = s.ordinalAt m' := by
  cases hown : s.ownOrdinal? m with
  | none => exact ⟨_, .inr rfl, rfl⟩
  | some n =>
    refine ⟨m, .inl rfl, ?_⟩
    rw [s.ordinalAt_eq_getD m, hown, Option.getD_some, Option.getD_some]

theorem filtered_ordinalAt (s : Source) (m : Moment) (id : Nat) (keep : String → Bool) :
    ∃ m', s.Asked m m' ∧ (filtered id s keep).ordinalAt m = s.ordinalAt m' := by
  rw [ordinalAt_eq_getD, ownOrdinal?_eq_text?]
  change ∃ m', s.Asked m m' ∧ ((((Layer.kept id keep).around s).text? m ordinalKey).bind
    readOrdinal).getD (s.ordinalAt (Reading.after m
      (if keep ordinalKey then s.get ordinalKey else pure none))) = s.ordinalAt m'
  rw [Layer.around_text?, Layer.overlay]
  split
  · rw [← ownOrdinal?_eq_text?]
    exact exists_asked_getD s m
  · exact ⟨m, .inl rfl, rfl⟩

theorem enriched_ordinalAt (s : Source) (m : Moment) (e : Enrichment) :
    ∃ m', s.Asked m m' ∧ (e.around s).ordinalAt m =
      (if e.overriding = true ∨ s.value? m ordinalKey = none then
        (e.items.get? ordinalKey).bind readOrdinal else none).getD (s.ordinalAt m') := by
  have hordinal : (e.around s).ordinalAt m =
      ((e.overlay ordinalKey (s.text? m ordinalKey)).bind readOrdinal).getD
        (s.ordinalAt (Reading.after m (s.get ordinalKey))) := by
    rw [← e.around_text?, ← ownOrdinal?_eq_text?]
    exact ordinalAt_eq_getD _ m
  rw [hordinal]
  split
  · next hread =>
    rw [Enrichment.overlay_of_read (hread.imp_right text?_eq_none_iff.mpr)]
    cases e.items.get? ordinalKey with
    | some raw => exact ⟨_, .inr rfl, rfl⟩
    | none =>
      rw [Option.none_or, ← ownOrdinal?_eq_text?]
      exact exists_asked_getD s m
  · next hread =>
    rw [Enrichment.overlay_of_not_read (mt (Or.imp_right text?_eq_none_iff.mp) hread),
      ← ownOrdinal?_eq_text?]
    exact exists_asked_getD s m

/-- A layer upon any number of layers has the ordinal of what it lies upon, unless it puts a number
for the ordinal key that is read. Where reads change the filters of the thread, the ordinal is the
one that is found below now or after a read of the ordinal key. -/
theorem layer_ordinal_exact (s : Source) (layers : List Layer) (m : Moment) (id : Nat)
    (keep : String → Bool) (items : Table String) (overriding : Bool) :
    let t := stack s layers
    let own := if overriding = true ∨ t.value? m ordinalKey = none then
      (items.get? ordinalKey).bind readOrdinal else none
    ((s.get ordinalKey).Steady m →
      (filtered id t keep).ordinalAt m = t.ordinalAt m ∧
      (enriched id t items overriding).ordinalAt m = own.getD (t.ordinalAt m)) ∧
    (∃ m', t.Asked m m' ∧ (filtered id t keep).ordinalAt m = t.ordinalAt m') ∧
    ∃ m', t.Asked m m' ∧
      (enriched id t items overriding).ordinalAt m = own.getD (t.ordinalAt m') := by
  intro t own
  obtain ⟨m₁, hm₁, hkept⟩ := t.filtered_ordinalAt m id keep
  obtain ⟨m₂, hm₂, henriched⟩ := t.enriched_ordinalAt m ⟨id, items, overriding⟩
  refine ⟨fun hs => ⟨?_, ?_⟩, ⟨m₁, hm₁, hkept⟩, ⟨m₂, hm₂, henriched⟩⟩
  · rw [hkept, hm₁.eq (stack_get_steady hs layers)]
  · rw [hm₂.eq (stack_get_steady hs layers)] at henriched
    exact henriched

theorem layer_ordinal_exact_hidden :
    let m : Moment := ⟨.empty, []⟩
    let base := fixed 0 "base" 5 true (.ofList [("strata.ordinal", "high")]) .empty
    let under : Enrichment := ⟨1, .ofList [("strata.ordinal", "9")], false⟩
    let t := stack base [.enriched under, .kept 2 (fun key => key ≠ "strata.ordinal")]
    let items : Table String := .ofList [("strata.ordinal", " 7 ")]
    (base.get ordinalKey).Steady m ∧ (under.around base).ordinalAt m = 5 ∧
      (filtered 3 t (fun _ => true)).ordinalAt m = 5 ∧
      (enriched 3 t items false).ordinalAt m = 7 := by
  intro m base under t items
  have hbase : (base.get ordinalKey).Steady m := rfl
  have ht : t.ordinalAt m = 5 := rfl
  obtain ⟨hkept, henriched⟩ := (layer_ordinal_exact base
    [.enriched under, .kept 2 (fun key => key ≠ "strata.ordinal")] m 3 (fun _ => true) items
    false).1 hbase
  refine ⟨hbase, rfl, hkept.trans ht, henriched.trans ?_⟩
  rw [if_pos (.inr rfl)]
  rfl

def overText? (layers : List Enrichment) (key : String) : Option String :=
  (layers.filter (·.overriding)).reverse.findSome? (·.items.get? key)

def underText? (layers : List Enrichment) (key : String) : Option String :=
  (layers.filter (!·.overriding)).findSome? (·.items.get? key)

theorem overText?_cons (e : Enrichment) (rest : List Enrichment) (key : String) :
    overText? (e :: rest) key =
      (overText? rest key).or (if e.overriding then e.items.get? key else none) := by
  rw [overText?, overText?]
  cases hover : e.overriding with
  | true =>
    rw [List.filter_cons_of_pos hover, List.reverse_cons, List.findSome?_append,
      List.findSome?_singleton, if_pos rfl]
  | false =>
    rw [List.filter_cons_of_neg (by simp [hover]), if_neg Bool.false_ne_true, Option.or_none]

theorem underText?_cons (e : Enrichment) (rest : List Enrichment) (key : String) :
    underText? (e :: rest) key =
      (if e.overriding then none else e.items.get? key).or (underText? rest key) := by
  rw [underText?, underText?]
  cases hover : e.overriding with
  | true => rw [List.filter_cons_of_neg (by simp [hover]), if_pos rfl, Option.none_or]
  | false =>
    rw [List.filter_cons_of_pos (by simp [hover]), List.findSome?_cons, if_neg Bool.false_ne_true]
    cases e.items.get? key <;> rfl

theorem foldl_overlay (layers : List Enrichment) (key : String) (below : Option String) :
    layers.foldl (fun below e => e.overlay key below) below =
      ((overText? layers key).or below).or (underText? layers key) := by
  induction layers generalizing below with
  | nil => exact (Option.or_none).symm
  | cons e rest ih =>
    rw [List.foldl_cons, ih, Enrichment.overlay, overText?_cons, underText?_cons]
    cases e.overriding with
    | true => simp only [if_true, Option.none_or, Option.or_assoc]
    | false => simp only [Bool.false_eq_true, if_false, Option.or_none, Option.or_assoc]

/-- A key has the text of the outermost layer that is put over the source and has an entry for it,
else that of the source, else that of the innermost layer that is put under and has one; and it is
listed with the same text, or not at all. -/
theorem enrichments_exact {base : Source} {m : Moment} {key : String}
    (hbase : base.listedText? m key = base.text? m key) (layers : List Enrichment) :
    let t := stack base (layers.map .enriched)
    t.text? m key =
      ((overText? layers key).or (base.text? m key)).or (underText? layers key) ∧
    t.listedText? m key = t.text? m key ∧
    (t.value? m key = none ↔ t.text? m key = none) ∧
    (t.listed? m key = none ↔ t.text? m key = none) := by
  intro t
  have htext : t.text? m key =
      layers.foldl (fun below e => e.overlay key below) (base.text? m key) := by
    rw [stack_text?, List.foldl_map]
    rfl
  have hlisted : t.listedText? m key = t.text? m key := by
    rw [htext, stack_listedText?, List.foldl_map, hbase]
    rfl
  refine ⟨htext.trans (foldl_overlay layers key _), hlisted, text?_eq_none_iff.symm, ?_⟩
  rw [← hlisted]
  exact listedText?_eq_none_iff.symm

theorem enrichments_exact_mixed :
    let m : Moment := ⟨.empty, []⟩
    let base := given 0 "base" 0 (.ofList [("a", none), ("b", some "base")])
    let layers : List Enrichment := [⟨1, .ofList [("a", "under"), ("b", "under")], false⟩,
      ⟨2, .ofList [("c", "inner")], true⟩, ⟨3, .ofList [("a", "behind")], false⟩,
      ⟨4, .ofList [("c", "outer")], true⟩]
    let t := stack base (layers.map .enriched)
    base.listedText? m "a" = base.text? m "a" ∧ t.text? m "a" = some "under" ∧
      t.listedText? m "a" = some "under" ∧ t.text? m "b" = some "base" ∧
      t.text? m "c" = some "outer" ∧ t.listed? m "d" = none := by
  intro m base layers t
  have ha : base.listedText? m "a" = base.text? m "a" := rfl
  have hb : base.listedText? m "b" = base.text? m "b" := rfl
  have hc : base.listedText? m "c" = base.text? m "c" := rfl
  have hd : base.listedText? m "d" = base.text? m "d" := rfl
  obtain ⟨htext, hlisted, -, -⟩ := enrichments_exact ha layers
  obtain ⟨hover, -, -, hnone⟩ := enrichments_exact hd layers
  refine ⟨ha, htext, hlisted.trans htext, (enrichments_exact hb layers).1,
    (enrichments_exact hc layers).1, hnone.mpr hover⟩

end LayeredConfig.Source
