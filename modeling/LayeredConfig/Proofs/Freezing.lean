import LayeredConfig.Proofs.Places
import LayeredConfig.Proofs.Ties

/-!
Freezing. A snapshot has the texts of its source and, although the ordinal is read from it a second
time, the effective ordinal of its source. It can therefore stand in the place of the source: every
key is decided at the same place and with the same text, and the enumeration is the same where the
source could be scanned.
-/

namespace LayeredConfig

namespace Source

variable {m : Moment} {s t : Source} {key : String}

def text? (s : Source) (m : Moment) (key : String) : Option String :=
  (s.value? m key).bind (·.value)

/-- What is asked of a source that is frozen: it agrees with itself, its properties carry the keys
under which they are listed, and it is a snapshot wherever it says that it is one. -/
structure Faithful (s : Source) (m : Moment) : Prop where
  steady : s.Steady m
  agrees : s.Agrees m
  keyed : ∀ key p, s.listed? m key = some p → p.key = key
  genuine : ∀ snapshot, s.frozen = some snapshot → s = ofSnapshot snapshot

theorem filter_isPresent_bind_value (p : Option Property) :
    (p.filter Property.isPresent).bind (·.value) = p.bind (·.value) := by
  cases p with
  | none => rfl
  | some p => cases h : p.value <;> simp [Option.filter, Property.isPresent, h]

theorem isSome_bind_value (p : Option Property) :
    ((p.filter Property.isPresent).bind (·.value)).isSome =
      (p.filter Property.isPresent).isSome := by
  cases p with
  | none => rfl
  | some p => cases h : p.value <;> simp [Option.filter, Property.isPresent, h]

theorem isSome_text? : (s.text? m key).isSome = (s.value? m key).isSome := isSome_bind_value _

theorem ownOrdinal?_eq_text? : s.ownOrdinal? m = (s.text? m ordinalKey).bind readOrdinal := by
  rw [text?, value?, filter_isPresent_bind_value]
  rfl

theorem Tabled.text?_eq {t : Table Property} (h : s.Tabled m t) (key : String) :
    s.text? m key = (t.get? key).bind (·.value) := by
  rw [text?, value?, (h.1 key).value_eq, filter_isPresent_bind_value]

theorem mem_presentEntries {table : Table Property} {v : String}
    (hk : ∀ key p, table.get? key = some p → p.isPresent = true → p.key = key) :
    (key, v) ∈ table.values.filterMap (fun p => p.value.map (fun v => (p.key, v))) ↔
      ∃ p, table.get? key = some p ∧ p.value = some v := by
  simp only [List.mem_filterMap, Table.values, List.mem_map, Option.map_eq_some_iff,
    Prod.mk.injEq]
  constructor
  · rintro ⟨_, ⟨⟨listed, p⟩, hentry, rfl⟩, w, hw, hkey, rfl⟩
    have hget := Table.mem_entries_iff.mp hentry
    have hlisted := hk listed p hget (Option.isSome_of_eq_some hw)
    exact ⟨p, by rw [← hkey, hlisted, hget], hw⟩
  · rintro ⟨p, hget, hv⟩
    have hkey := hk key p hget (Option.isSome_of_eq_some hv)
    exact ⟨p, ⟨(key, p), Table.mem_entries_iff.mpr hget, rfl⟩, v, hv, hkey, rfl⟩

theorem get?_presentEntries {table : Table Property}
    (hk : ∀ key p, table.get? key = some p → p.isPresent = true → p.key = key) (key : String) :
    (presentEntries table).get? key = (table.get? key).bind (·.value) := by
  apply Option.ext
  intro v
  rw [presentEntries, Table.get?_ofList_eq_some_iff, mem_presentEntries hk, Option.bind_eq_some_iff]
  intro k v w hv hw
  obtain ⟨p, hp, hv⟩ := (mem_presentEntries hk).mp hv
  obtain ⟨q, hq, hw⟩ := (mem_presentEntries hk).mp hw
  rw [hp] at hq
  cases hq
  exact Option.some.inj (hv.symm.trans hw)

section Snapshots

variable (snapshot : Snapshot)

theorem ofSnapshot_steady : (ofSnapshot snapshot).Steady m :=
  (ofSnapshot_tabled snapshot).steady rfl

theorem text?_ofSnapshot (m : Moment) (key : String) :
    (ofSnapshot snapshot).text? m key = snapshot.value key := by
  rw [(ofSnapshot_tabled snapshot).text?_eq, Table.get?_mapValues, Snapshot.value]
  cases snapshot.entries.get? key <;> rfl

theorem ordinalAt_ofSnapshot (m : Moment) : (ofSnapshot snapshot).ordinalAt m =
    ((snapshot.value ordinalKey).bind readOrdinal).getD snapshot.ordinal := by
  rw [ordinalAt_eq (ofSnapshot_steady snapshot), ownOrdinal?_eq_text?, text?_ofSnapshot]
  rfl

end Snapshots

theorem capture_gives (h : s.Steady m) (id : Nat) (now : Time.Instant) :
    (s.capture id now).Gives m
      ⟨id, s.name, s.ordinalAt m, presentEntries (s.properties.value m), now⟩ :=
  h.properties.gives.bind ((ordinal_steady h).gives.bind (Reading.gives_pure _))

structure Pictures (snapshot : Snapshot) (s : Source) (m : Moment) : Prop where
  name : snapshot.name = s.name
  ordinal : ∀ later, (ofSnapshot snapshot).ordinalAt later = s.ordinalAt m
  value : ∀ key, snapshot.value key = s.text? m key

theorem Faithful.value_eq (h : s.Faithful m) (key : String) :
    (presentEntries (s.properties.value m)).get? key = s.text? m key := by
  rw [get?_presentEntries, text?, h.agrees key, listed?, filter_isPresent_bind_value]
  intro key p hget hp
  exact h.keyed key p (by rw [listed?, hget, Option.filter_some_pos hp])

theorem Faithful.freeze_gives (h : s.Faithful m) (id : Nat) (now : Time.Instant) :
    ∃ snapshot, (s.freeze id now).Gives m snapshot ∧ Pictures snapshot s m := by
  rw [freeze]
  cases hfrozen : s.frozen with
  | some snapshot =>
    refine ⟨snapshot, Reading.gives_pure _, ?_⟩
    rw [h.genuine snapshot hfrozen]
    refine ⟨rfl, fun later => ?_, fun key => (text?_ofSnapshot snapshot m key).symm⟩
    rw [ordinalAt_ofSnapshot, ordinalAt_ofSnapshot]
  | none =>
    refine ⟨_, capture_gives h.steady id now, rfl, fun later => ?_, h.value_eq⟩
    -- The ordinal is read from the snapshot once more, behind which stands what it was before.
    have hown : ((presentEntries (s.properties.value m)).get? ordinalKey).bind readOrdinal =
        s.ownOrdinal? m := by
      rw [h.value_eq, ownOrdinal?_eq_text?]
    rw [ordinalAt_ofSnapshot, Snapshot.value, hown]
    cases hn : s.ownOrdinal? m with
    | none => rfl
    | some n => rw [ordinalAt_eq h.steady, hn, Option.getD_some, Option.getD_some]

theorem faithful_of_mapValues {α : Type} {values : Table α} {f : String → α → Property}
    (h : s.Tabled m (values.mapValues f)) (hd : s.declared.Steady m)
    (hf : ∀ key v, (f key v).key = key) (hs : s.frozen = none) : s.Faithful m := by
  refine ⟨h.steady hd, h.agrees, fun key p hp => ?_, by simp [hs]⟩
  obtain ⟨hget, -⟩ := Option.filter_eq_some_iff.mp hp
  rw [h.2.value_eq, Table.get?_mapValues, Option.map_eq_some_iff] at hget
  obtain ⟨v, -, rfl⟩ := hget
  exact hf key v

theorem fixed_faithful (id : Nat) (name : String) (ordinal : Int) (scannable : Bool)
    (values metadata : Table String) :
    (fixed id name ordinal scannable values metadata).Faithful m :=
  faithful_of_mapValues (fixed_tabled ..) rfl (fun _ _ => rfl) rfl

inductive Stands (m : Moment) (s : Source) : Source → Prop
  | itself : Stands m s s
  | snapshot (id : Nat) (now : Time.Instant) (snapshot : Snapshot) :
      s.Faithful m → (s.freeze id now).Gives m snapshot → Stands m s (ofSnapshot snapshot)

structure Alike (m : Moment) (s t : Source) : Prop where
  name : t.name = s.name
  ordinal : t.ordinalAt m = s.ordinalAt m
  text : ∀ key, t.text? m key = s.text? m key

theorem Alike.symm (h : Alike m s t) : Alike m t s :=
  ⟨h.name.symm, h.ordinal.symm, fun key => (h.text key).symm⟩

theorem Alike.isSome_value? (h : Alike m s t) (key : String) :
    (t.value? m key).isSome = (s.value? m key).isSome := by
  rw [← isSome_text?, ← isSome_text?, h.text key]

theorem Faithful.pictures {id : Nat} {now : Time.Instant} {snapshot : Snapshot}
    (h : s.Faithful m) (hf : (s.freeze id now).Gives m snapshot) : Pictures snapshot s m := by
  obtain ⟨other, hother, hp⟩ := h.freeze_gives id now
  have heq : other = snapshot := hother.value_eq.symm.trans hf.value_eq
  exact heq ▸ hp

theorem Stands.alike (h : Stands m s t) : Alike m s t := by
  cases h with
  | itself => exact ⟨rfl, rfl, fun _ => rfl⟩
  | snapshot id now snapshot hs hf =>
    have hp := hs.pictures hf
    exact ⟨hp.name, hp.ordinal m, fun key => (text?_ofSnapshot ..).trans (hp.value key)⟩

theorem Stands.steady (h : Stands m s t) (hs : s.Steady m) : t.Steady m := by
  cases h with
  | itself => exact hs
  | snapshot => exact ofSnapshot_steady _

end Source

namespace Resolution

open Source

variable {m : Moment} {sources others : List Source} {key : String}

theorem Decides.of_alike {i : Nat} {s : Source} (h : List.Forall₂ (Alike m) sources others)
    (hd : Decides m sources key i s) : ∃ t, Decides m others key i t ∧ Alike m s t := by
  obtain ⟨t, ht, hst⟩ := exists_getElem?_of_forall₂ h hd.here
  refine ⟨t, ⟨ht, ?_, fun j u hj hu => ?_⟩, hst⟩
  · rw [hst.isSome_value? key]
    exact hd.present
  · obtain ⟨v, hv, huv⟩ := exists_getElem?_of_forall₂ (h.imp (fun _ _ => Alike.symm)).flip hj
    rw [hst.ordinal, ← huv.ordinal]
    exact hd.greatest j v hv (huv.isSome_value? key ▸ hu)

theorem tied_of_forall₂ {R : Source → Source → Prop}
    (hR : ∀ s t, R s t → t.ordinalAt m = s.ordinalAt m) (h : List.Forall₂ R sources others)
    (o : Int) : List.Forall₂ R (tied m o sources) (tied m o others) := by
  induction h with
  | nil => exact .nil
  | @cons s t rest rest' hst _ ih =>
    simp only [tied, List.filter_cons, hR s t hst]
    split
    · exact .cons hst ih
    · exact ih

theorem lastAnswer_of_forall₂ {β : Type} {f : Source → Option β}
    (h : List.Forall₂ (fun s t => f t = f s) sources others) :
    lastAnswer f others = lastAnswer f sources := by
  induction h with
  | nil => rfl
  | @cons s t rest rest' hst _ ih =>
    rw [← List.singleton_append, lastAnswer_append, ih, ← List.singleton_append (l := rest),
      lastAnswer_append]
    simp [lastAnswer, hst]

theorem lastAnswer_bind {β γ : Type} {f : Source → Option β} {g : β → Option γ}
    (hg : ∀ s b, f s = some b → (g b).isSome = true) (sources : List Source) :
    (lastAnswer f sources).bind g = lastAnswer (fun s => (f s).bind g) sources := by
  simp only [lastAnswer]
  induction sources.reverse with
  | nil => rfl
  | cons s rest ih =>
    rw [List.findSome?_cons, List.findSome?_cons]
    cases hb : f s with
    | none => exact ih
    | some b =>
      obtain ⟨c, hc⟩ := Option.isSome_iff_exists.mp (hg s b hb)
      simp only [Option.bind_some, hc]

def shownText? (m : Moment) (key : String) (s : Source) : Option String :=
  (shown? m key s).bind (·.value)

theorem shown?_isPresent {s : Source} {p : Property} (h : shown? m key s = some p) :
    p.isPresent = true := by
  rw [shown?] at h
  split at h
  · exact (Option.filter_eq_some_iff.mp h).2
  · exact (Option.filter_eq_some_iff.mp h).2

theorem highest?_bind_value (key : String) (sources : List Source) :
    (highest? m key sources).bind (·.value) = lastAnswer (fun s => s.text? m key) sources :=
  lastAnswer_bind (fun _ _ => isPresent_of_value?) sources

theorem enumerated?_bind_value (key : String) (sources : List Source) :
    (enumerated? m key sources).bind (·.value) = lastAnswer (shownText? m key) sources :=
  lastAnswer_bind (fun _ _ => shown?_isPresent) sources

theorem shownText?_of_agrees {s : Source} (h : s.Agrees m) (key : String) :
    shownText? m key s = s.text? m key := by
  rw [shownText?, shown?_eq_value? (fun _ => h key), text?]

theorem shownText?_of_stands {s t : Source} (h : Stands m s t) (key : String) :
    shownText? m key t = shownText? m key s := by
  cases h with
  | itself => rfl
  | snapshot id now snapshot hs hf =>
    rw [shownText?_of_agrees (ofSnapshot_tabled snapshot).agrees, shownText?_of_agrees hs.agrees]
    exact (Stands.snapshot id now snapshot hs hf).alike.text key

theorem lastAnswer_ranked_of_stands {f : Source → Option String}
    (hf : ∀ s t, Stands m s t → f t = f s) (h : List.Forall₂ (Stands m) sources others) :
    lastAnswer f (ranked m others) = lastAnswer f (ranked m sources) := by
  -- Equal ordinals leave the sources of each tie in the same places, so ties are compared.
  apply lastAnswer_ranked_congr
  intro o
  have htied := tied_of_forall₂ (fun s t hst => (Stands.alike hst).ordinal) h o
  exact lastAnswer_of_forall₂ (htied.imp hf)

theorem isSome_listed?_of_stands {s t : Source} (h : Stands m s t)
    (hscan : t = s ∨ s.scannable = true) : t.scannable = s.scannable ∧
      (t.listed? m key).isSome = (s.listed? m key).isSome := by
  cases h with
  | itself => exact ⟨rfl, rfl⟩
  | snapshot id now snapshot hs hf =>
    rcases hscan with hself | hscan
    · rw [hself]
      exact ⟨rfl, rfl⟩
    · refine ⟨hscan.symm, ?_⟩
      rw [← (ofSnapshot_tabled snapshot).agrees key, ← hs.agrees key]
      exact (Stands.snapshot id now snapshot hs hf).alike.isSome_value? key

theorem enumerable_of_stands (h : List.Forall₂ (Stands m) sources others)
    (hscan : ∀ (i : Nat) (s : Source), sources[i]? = some s →
      others[i]? = some s ∨ s.scannable = true) :
    Enumerable m key others ↔ Enumerable m key sources := by
  have hplaces : ∀ (i : Nat) s t, sources[i]? = some s → others[i]? = some t →
      t = s ∨ s.scannable = true := by
    intro i s t hs ht
    refine (hscan i s hs).imp_left (fun hs' => ?_)
    exact Option.some.inj (ht.symm.trans hs')
  constructor
  · rintro ⟨t, ht, htscan, htlisted⟩
    obtain ⟨i, hi⟩ := List.mem_iff_getElem?.mp ht
    obtain ⟨s, hs, hst⟩ := exists_getElem?_of_forall₂ h.flip hi
    obtain ⟨hscannable, hlisted⟩ := isSome_listed?_of_stands hst (hplaces i s t hs hi)
    exact ⟨s, List.mem_of_getElem? hs, hscannable ▸ htscan, hlisted ▸ htlisted⟩
  · rintro ⟨s, hs, hsscan, hslisted⟩
    obtain ⟨i, hi⟩ := List.mem_iff_getElem?.mp hs
    obtain ⟨t, ht, hst⟩ := exists_getElem?_of_forall₂ h hi
    obtain ⟨hscannable, hlisted⟩ := isSome_listed?_of_stands hst (hplaces i s t hi ht)
    exact ⟨t, List.mem_of_getElem? ht, hscannable ▸ hsscan, hlisted ▸ hslisted⟩

end Resolution

namespace Context

open Resolution

variable {c d : Context} {m : Moment}

theorem steady_of_stands (hc : c.Steady m) (hf : d.filters = [])
    (h : List.Forall₂ (Source.Stands m) c.sources d.sources) : d.Steady m := by
  constructor
  · intro t ht
    obtain ⟨i, hi⟩ := List.mem_iff_getElem?.mp ht
    obtain ⟨s, hs, hst⟩ := exists_getElem?_of_forall₂ h.flip hi
    exact Source.Stands.steady hst (hc.sources s (List.mem_of_getElem? hs))
  · simp [hf]

theorem text?_eq_lastAnswer (hf : c.filters = []) (key : String) :
    c.text? m key = lastAnswer (fun s => s.text? m key) (ranked m c.sources) := by
  have hchain : Filter.chain [] = some := rfl
  rw [text?, property?, hf, hchain, Option.bind_fun_some, highest?_bind_value]

theorem properties_get?_eq_lastAnswer (hc : c.Steady m) (hf : c.filters = []) (key : String) :
    (c.properties.value m).get? key = if Enumerable m key c.sources then
      lastAnswer (shownText? m key) (ranked m c.sources) else none := by
  have hchain : Filter.chain [] = some := rfl
  obtain ⟨table, htable, hget⟩ := propertyTable_gives hc
  rw [(properties_gives hc).value_eq, htable.value_eq, Table.get?_filterMap, hget, hf, hchain,
    Option.bind_fun_some]
  split
  · exact enumerated?_bind_value key _
  · rfl

theorem decides_name_iff (h : List.Forall₂ (Source.Stands m) c.sources d.sources) (key : String)
    (i : Nat) (name : String) :
    (∃ s, Decides m c.sources key i s ∧ s.name = name) ↔
      ∃ t, Decides m d.sources key i t ∧ t.name = name := by
  have halike := h.imp (fun _ _ => Source.Stands.alike)
  constructor
  · rintro ⟨s, hs, rfl⟩
    obtain ⟨t, ht, hst⟩ := hs.of_alike halike
    exact ⟨t, ht, hst.name⟩
  · rintro ⟨t, ht, rfl⟩
    obtain ⟨s, hs, hts⟩ := ht.of_alike (halike.imp (fun _ _ => Source.Alike.symm)).flip
    exact ⟨s, hs, hts.name⟩

theorem text?_of_decides (hf : c.filters = []) {key : String} {i : Nat} {s : Source}
    (h : Decides m c.sources key i s) : c.text? m key = s.text? m key := by
  have hchain : Filter.chain [] = some := rfl
  rw [text?, property?_of_decides h, hf, hchain, Option.bind_fun_some, Source.text?]

/-- A snapshot has what its source has, and may stand in the place of the source. -/
theorem freeze_transparent (hc : c.Steady m) (hf : c.filters = []) :
    (∀ s, Source.Faithful s m → ∀ id now, ∃ snapshot, (s.freeze id now).Gives m snapshot ∧
      snapshot.name = s.name ∧
      (∀ later, (Source.ofSnapshot snapshot).ordinalAt later = s.ordinalAt m) ∧
      (∀ key, snapshot.value key = (s.value? m key).bind (·.value)) ∧
      ∀ id' now' later, ((Source.ofSnapshot snapshot).freeze id' now').Gives later snapshot) ∧
    ∀ d : Context, d.filters = [] → List.Forall₂ (Source.Stands m) c.sources d.sources →
      (∀ key, ∃ text, (c.get key).Gives m text ∧ (d.get key).Gives m text ∧
        (∀ i s, Decides m c.sources key i s → text = (s.value? m key).bind (·.value)) ∧
        ∀ i name, (∃ s, Decides m c.sources key i s ∧ s.name = name) ↔
          ∃ t, Decides m d.sources key i t ∧ t.name = name) ∧
      ((∀ (i : Nat) (s : Source), c.sources[i]? = some s →
          d.sources[i]? = some s ∨ s.scannable = true) →
        ∃ table, c.properties.Gives m table ∧ d.properties.Gives m table) := by
  constructor
  · intro s hs id now
    obtain ⟨snapshot, hfreeze, hp⟩ := hs.freeze_gives id now
    exact ⟨snapshot, hfreeze, hp.name, hp.ordinal, hp.value, fun _ _ _ => Reading.gives_pure _⟩
  intro d hdf h
  have hd := steady_of_stands hc hdf h
  constructor
  · intro key
    have htext : d.text? m key = c.text? m key := by
      rw [text?_eq_lastAnswer hf, text?_eq_lastAnswer hdf]
      exact lastAnswer_ranked_of_stands (fun s t hst => (Source.Stands.alike hst).text key) h
    exact ⟨_, get_gives hc key, htext ▸ get_gives hd key, fun i s => text?_of_decides hf,
      decides_name_iff h key⟩
  · intro hscan
    have hproperties : d.properties.value m = c.properties.value m := by
      apply Table.ext_get?
      intro key
      have hshown := lastAnswer_ranked_of_stands (fun s t hst => shownText?_of_stands hst key) h
      rw [properties_get?_eq_lastAnswer hd hdf, properties_get?_eq_lastAnswer hc hf]
      simp only [enumerable_of_stands h hscan, hshown]
    exact ⟨_, (properties_steady hc).gives, hproperties ▸ (properties_steady hd).gives⟩

theorem freeze_transparent_ordinals :
    let m : Moment := ⟨.empty, []⟩
    let now : Time.Instant := default
    let declared := Source.fixed 0 "declared" 7 true (.ofList [("k", "1")]) .empty
    let own := Source.fixed 1 "own" 1 true
      (.ofList [("k", "2"), ("strata.ordinal", " 7 ")]) .empty
    let unread := Source.fixed 2 "unread" 3 true
      (.ofList [("k", "3"), ("strata.ordinal", "high")]) .empty
    let c : Context := ⟨[declared, own, unread], [], .empty 0⟩
    c.Steady m ∧ c.filters = [] ∧ ∃ frozen kept,
      (own.freeze 3 now).Gives m frozen ∧ (unread.freeze 4 now).Gives m kept ∧
      (Source.ofSnapshot frozen).ordinalAt m = 7 ∧ (Source.ofSnapshot kept).ordinalAt m = 3 ∧
      let d : Context := ⟨[declared, .ofSnapshot frozen, .ofSnapshot kept], [], .empty 0⟩
      d.filters = [] ∧ List.Forall₂ (Source.Stands m) c.sources d.sources ∧
        (d.get "k").Gives m (some "2") ∧ (∃ t, Decides m d.sources "k" 1 t ∧ t.name = "own") ∧
        ∃ table, c.properties.Gives m table ∧ d.properties.Gives m table := by
  intro m now declared own unread c
  have hc : c.Steady m := by
    constructor
    · simp only [c, List.forall_mem_cons]
      exact ⟨Source.fixed_steady .., Source.fixed_steady .., Source.fixed_steady .., by simp⟩
    · simp [c]
  have hown : own.Faithful m := Source.fixed_faithful ..
  have hunread : unread.Faithful m := Source.fixed_faithful ..
  have hdecides : Decides m c.sources "k" 1 own := by
    refine ⟨rfl, rfl, fun j t hj _ => ?_⟩
    match j, hj with
    | 0, rfl => exact .inr ⟨rfl, by omega⟩
    | 1, rfl => exact .inr ⟨rfl, by omega⟩
    | 2, rfl => exact .inl (by decide)
  obtain ⟨hsnapshots, hstands⟩ := freeze_transparent hc rfl
  obtain ⟨frozen, hfrozen, -, hfrozenOrdinal, -, -⟩ := hsnapshots own hown 3 now
  obtain ⟨kept, hkept, -, hkeptOrdinal, -, -⟩ := hsnapshots unread hunread 4 now
  have hplaces : List.Forall₂ (Source.Stands m) c.sources
      [declared, .ofSnapshot frozen, .ofSnapshot kept] :=
    .cons .itself (.cons (.snapshot 3 now frozen hown hfrozen)
      (.cons (.snapshot 4 now kept hunread hkept) .nil))
  refine ⟨hc, rfl, frozen, kept, hfrozen, hkept, hfrozenOrdinal m, hkeptOrdinal m, rfl, hplaces, ?_⟩
  obtain ⟨hkeys, hall⟩ := hstands ⟨_, [], .empty 0⟩ rfl hplaces
  obtain ⟨text, -, hget, htext, hwinner⟩ := hkeys "k"
  have hvalue : text = some "2" := htext 1 own hdecides
  refine ⟨hvalue ▸ hget, (hwinner 1 "own").mp ⟨own, hdecides, rfl⟩, hall ?_⟩
  intro i s hs
  refine .inr ?_
  match i, hs with
  | 0, rfl => rfl
  | 1, rfl => rfl
  | 2, rfl => rfl

end Context

end LayeredConfig
