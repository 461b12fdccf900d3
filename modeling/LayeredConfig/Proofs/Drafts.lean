import LayeredConfig.Proofs.Differences

namespace LayeredConfig.Draft

inductive Act where
  | set (key value : String)
  | setAll (values : List (String × String))
  | removeKeys (keys : List String)
  | compareWith (other : Snapshot)
  | declare (key : String) (e : ChangeEntry)

def step (d : Draft) : Act → Draft
  | .set key value => d.set key value
  | .setAll values => d.setAll values
  | .removeKeys keys => d.removeKeys keys
  | .compareWith other => d.compareWith other
  | .declare key e => d.declare key e

def run (d : Draft) (acts : List Act) : Draft := acts.foldl step d

namespace Act

def verdict? (base : Option String) (key : String) : Act → Option (Option ChangeEntry)
  | .set k value => if k = key then some (ChangeEntry.between base (some value)) else none
  | .setAll values =>
    ((Table.ofList values).get? key).map (fun value => ChangeEntry.between base (some value))
  | .removeKeys keys => if key ∈ keys then base.map (fun old => some (.removed old)) else none
  | .compareWith other =>
    if base = none ∧ other.value key = none then none
    else some (ChangeEntry.between base (other.value key))
  | .declare k e => if k = key then some (some e) else none

def Relative : Act → Prop
  | .declare _ _ => False
  | _ => True

def Gives (key : String) : Act → Prop
  | .set k _ => k = key
  | .setAll values => ∃ value, (key, value) ∈ values
  | .removeKeys _ => False
  | .compareWith other => (other.value key).isSome
  | .declare k e => k = key ∧ e.new?.isSome

end Act

structure Follows {α : Type} (key : String) (step : Draft → α → Draft)
    (rule : Option String → α → Option (Option ChangeEntry)) : Prop where
  base : ∀ d a, (step d a).base = d.base
  entry : ∀ d a,
    (step d a).entries.get? key = (rule (d.baseValue key) a).getD (d.entries.get? key)

section Follows

variable {α : Type} {step : Draft → α → Draft} {key : String}
  {rule : Option String → α → Option (Option ChangeEntry)}

theorem Follows.congr {rule' : Option String → α → Option (Option ChangeEntry)}
    (h : Follows key step rule) (hs : ∀ base a, rule base a = rule' base a) :
    Follows key step rule' :=
  ⟨h.base, fun d a => hs (d.baseValue key) a ▸ h.entry d a⟩

theorem Follows.foldl (h : Follows key step rule) :
    Follows key (fun d (l : List α) => l.foldl step d)
      (fun base l => l.reverse.findSome? (rule base)) := by
  refine ⟨fun d l => ?_, fun d l => ?_⟩
  · induction l generalizing d with
    | nil => rfl
    | cons a rest ih => rw [List.foldl_cons, ih, h.base]
  · induction l generalizing d with
    | nil => rfl
    | cons a rest ih =>
      have hvalue : (step d a).baseValue key = d.baseValue key := by
        rw [baseValue, h.base, baseValue]
      rw [List.foldl_cons, ih, hvalue, h.entry, List.reverse_cons, List.findSome?_append]
      cases rest.reverse.findSome? (rule (d.baseValue key)) with
      | some v => rfl
      | none => simp

end Follows

theorem set_follows (key : String) :
    Follows key (fun d (e : String × String) => d.set e.1 e.2) (fun base e =>
      if e.1 = key then some (ChangeEntry.between base (some e.2)) else none) := by
  refine ⟨fun d e => base_record .., fun d e => ?_⟩
  rw [set, get?_record]
  by_cases h : e.1 = key
  · rw [if_pos h, if_pos h, h]
    rfl
  · rw [if_neg h, if_neg h]
    rfl

theorem setAll_follows (key : String) :
    Follows key setAll (fun base values =>
      ((Table.ofList values).get? key).map
        (fun value => ChangeEntry.between base (some value))) := by
  refine (set_follows key).foldl.congr fun base values => ?_
  rw [Table.get?_ofList, List.map_findSome?]
  congr 1
  funext e
  by_cases h : e.1 = key <;> simp [h]

def removeKey (d : Draft) (key : String) : Draft :=
  match d.baseValue key with
  | some old => d.record key (some old) none
  | none => d

theorem removeKey_follows (key : String) :
    Follows key removeKey (fun base k =>
      if k = key then base.map (fun old => some (.removed old)) else none) := by
  refine ⟨fun d k => ?_, fun d k => ?_⟩
  · rw [removeKey]
    split
    · exact base_record ..
    · rfl
  · rw [removeKey]
    by_cases h : k = key
    · subst h
      cases hb : d.baseValue k with
      | none => simp
      | some old => simp [get?_record, ChangeEntry.between]
    · cases d.baseValue k with
      | none => simp [h]
      | some old => simp [get?_record, h]

theorem findSome?_ite_eq {β : Type} (o : Option β) (key : String) (keys : List String) :
    keys.findSome? (fun k => if k = key then o else none) = if key ∈ keys then o else none := by
  induction keys with
  | nil => simp
  | cons k rest ih =>
    rw [List.findSome?_cons, ih]
    by_cases h : k = key
    · subst h
      cases o <;> simp
    · simp [h, Ne.symm h]

theorem removeKeys_follows (key : String) :
    Follows key removeKeys (fun base keys =>
      if key ∈ keys then base.map (fun old => some (.removed old)) else none) := by
  refine (removeKey_follows key).foldl.congr fun base keys => ?_
  rw [findSome?_ite_eq]
  simp only [List.mem_reverse]

theorem mem_keysWith (d : Draft) (other : Snapshot) (key : String) :
    key ∈ d.keysWith other ↔ ¬(d.baseValue key = none ∧ other.value key = none) := by
  have hbase : key ∈ (d.base.map (fun b => b.entries.keys)).getD [] ↔ d.baseValue key ≠ none := by
    rw [baseValue]
    cases d.base with
    | none => simp
    | some b => simp [Table.mem_keys_iff, Snapshot.value, Option.isSome_iff_ne_none]
  rw [keysWith, Table.mem_namesInOrder, List.mem_append, hbase, Table.mem_keys_iff,
    Option.isSome_iff_ne_none, Classical.not_and_iff_not_or_not]
  rfl

theorem compareWith_follows (key : String) :
    Follows key compareWith (fun base other =>
      if base = none ∧ other.value key = none then none
      else some (ChangeEntry.between base (other.value key))) := by
  refine ⟨fun d other => ?_, fun d other => ?_⟩
  · rw [compareWith]
    induction d.keysWith other generalizing d with
    | nil => rfl
    | cons k rest ih => rw [List.foldl_cons, ih, base_record]
  · rw [compareWith, get?_foldl_record]
    by_cases h : d.baseValue key = none ∧ other.value key = none
    · rw [if_pos h, if_neg (fun hk => (mem_keysWith d other key).mp hk h)]
      rfl
    · rw [if_neg h, if_pos ((mem_keysWith d other key).mpr h)]
      rfl

theorem step_follows (key : String) : Follows key Draft.step (Act.verdict? · key) := by
  refine ⟨fun d a => ?_, fun d a => ?_⟩
  · cases a with
    | set k value => exact (set_follows key).base d (k, value)
    | setAll values => exact (setAll_follows key).base d values
    | removeKeys keys => exact (removeKeys_follows key).base d keys
    | compareWith other => exact (compareWith_follows key).base d other
    | declare k e => rfl
  · cases a with
    | set k value => exact (set_follows key).entry d (k, value)
    | setAll values => exact (setAll_follows key).entry d values
    | removeKeys keys => exact (removeKeys_follows key).entry d keys
    | compareWith other => exact (compareWith_follows key).entry d other
    | declare k e =>
      rw [Draft.step, declare, Table.get?_insert, Act.verdict?]
      split <;> rfl

theorem run_follows (key : String) :
    Follows key run (fun base acts => acts.reverse.findSome? (Act.verdict? base key)) :=
  (step_follows key).foldl

theorem get?_build_run (type : ResourceType) (base : Option Snapshot) (acts : List Act)
    (version : String) (now : Time.Instant) (key : String) :
    ChangeSet.get? ((run { new type with base := base } acts).build version now) key =
      (acts.reverse.findSome? (Act.verdict? (base.bind (·.value key)) key)).getD none :=
  (run_follows key).entry { new type with base := base } acts

namespace Act

variable {a : Act} {base : Option String} {key : String}

theorem Relative.verdict?_eq_between (ha : a.Relative) {v : Option ChangeEntry}
    (h : a.verdict? base key = some v) : ∃ new, v = ChangeEntry.between base new := by
  cases a with
  | set k value =>
    rw [verdict?, Option.ite_none_right_eq_some] at h
    exact ⟨some value, (Option.some.inj h.2).symm⟩
  | setAll values =>
    obtain ⟨value, -, hv⟩ := Option.map_eq_some_iff.mp h
    exact ⟨some value, hv.symm⟩
  | removeKeys keys =>
    rw [verdict?, Option.ite_none_right_eq_some] at h
    obtain ⟨old, rfl, rfl⟩ := Option.map_eq_some_iff.mp h.2
    exact ⟨none, rfl⟩
  | compareWith other =>
    rw [verdict?, Option.ite_none_left_eq_some] at h
    exact ⟨other.value key, (Option.some.inj h.2).symm⟩
  | declare k e => exact ha.elim

theorem Relative.verdict?_of_missing (ha : a.Relative) (key : String) :
    (a.Gives key ∧ ∃ new, a.verdict? none key = some (some (.added new))) ∨
      (¬a.Gives key ∧ a.verdict? none key = none) := by
  cases a with
  | set k value =>
    by_cases h : k = key
    · exact .inl ⟨h, value, if_pos h⟩
    · exact .inr ⟨h, if_neg h⟩
  | setAll values =>
    cases hget : (Table.ofList values).get? key with
    | none =>
      have hnone := Table.get?_ofList_eq_none_iff.mp hget
      exact .inr ⟨fun ⟨value, hvalue⟩ => hnone value hvalue, by rw [verdict?, hget]; rfl⟩
    | some value =>
      have hgives : ∃ value, (key, value) ∈ values := by
        rw [Table.get?_ofList] at hget
        obtain ⟨⟨k, v⟩, hmem, hv⟩ := List.exists_of_findSome?_eq_some hget
        rw [Option.ite_none_right_eq_some] at hv
        obtain ⟨rfl, -⟩ := hv
        exact ⟨v, List.mem_reverse.mp hmem⟩
      exact .inl ⟨hgives, value, by rw [verdict?, hget]; rfl⟩
  | removeKeys keys => exact .inr ⟨id, by simp [verdict?]⟩
  | compareWith other =>
    cases hvalue : other.value key with
    | none => exact .inr ⟨by simp [Gives, hvalue], by simp [verdict?, hvalue]⟩
    | some value =>
      exact .inl ⟨by simp [Gives, hvalue], value, by simp [verdict?, hvalue, ChangeEntry.between]⟩
  | declare k e => exact ha.elim

theorem lastVerdict_of_missing {acts : List Act} (hrelative : ∀ a ∈ acts, a.Relative)
    (key : String) :
    ((∃ a ∈ acts, a.Gives key) ∧
      ∃ new, acts.reverse.findSome? (verdict? none key) = some (some (.added new))) ∨
    ((¬∃ a ∈ acts, a.Gives key) ∧ acts.reverse.findSome? (verdict? none key) = none) := by
  cases hlast : acts.reverse.findSome? (verdict? none key) with
  | none =>
    refine .inr ⟨fun ⟨a, ha, hgives⟩ => ?_, rfl⟩
    have hnone := List.findSome?_eq_none_iff.mp hlast a (List.mem_reverse.mpr ha)
    rcases (hrelative a ha).verdict?_of_missing key with ⟨-, new, hnew⟩ | ⟨hno, -⟩
    · rw [hnone] at hnew
      cases hnew
    · exact hno hgives
  | some v =>
    obtain ⟨a, ha, hv⟩ := List.exists_of_findSome?_eq_some hlast
    have ha := List.mem_reverse.mp ha
    rcases (hrelative a ha).verdict?_of_missing key with ⟨hgives, new, hnew⟩ | ⟨-, hnone⟩
    · exact .inl ⟨⟨a, ha, hgives⟩, new, hv.symm.trans hnew⟩
    · rw [hnone] at hv
      cases hv

end Act

/-- The last act that decides the entry of a key is the one whose entry is built. Acts relative to
the base leave entries from the value in the base to another one. -/
theorem run_decided (type : ResourceType) (base : Option Snapshot) (acts : List Act)
    (version : String) (now : Time.Instant) (key : String) :
    let old := base.bind (·.value key)
    let entry := ChangeSet.get? ((run { new type with base := base } acts).build version now) key
    (∀ before a after v, acts = before ++ a :: after → a.verdict? old key = some v →
      (∀ later ∈ after, later.verdict? old key = none) → entry = v) ∧
    ((∀ a ∈ acts, a.verdict? old key = none) → entry = none) ∧
    ((∀ a ∈ acts, a.Relative) → ∀ e, entry = some e → e.old? = old ∧ e.new? ≠ old) := by
  intro old entry
  have hentry : entry = (acts.reverse.findSome? (Act.verdict? old key)).getD none :=
    get?_build_run type base acts version now key
  refine ⟨?_, ?_, ?_⟩
  · intro before a after v hacts ha hlater
    have hnone : after.reverse.findSome? (Act.verdict? old key) = none := by
      rw [List.findSome?_eq_none_iff]
      exact fun later h => hlater later (List.mem_reverse.mp h)
    rw [hentry, hacts, List.reverse_append, List.reverse_cons, List.findSome?_append,
      List.findSome?_append, hnone]
    simp [ha]
  · intro h
    have hnone : acts.reverse.findSome? (Act.verdict? old key) = none := by
      rw [List.findSome?_eq_none_iff]
      exact fun a ha => h a (List.mem_reverse.mp ha)
    rw [hentry, hnone]
    rfl
  · intro hrelative e he
    rw [hentry] at he
    cases hv : acts.reverse.findSome? (Act.verdict? old key) with
    | none =>
      rw [hv] at he
      cases he
    | some v =>
      obtain ⟨a, ha, hverdict⟩ := List.exists_of_findSome?_eq_some hv
      obtain ⟨new, hnew⟩ := (hrelative a (List.mem_reverse.mp ha)).verdict?_eq_between hverdict
      rw [hv, hnew] at he
      obtain ⟨hne, hold, rfl⟩ := ChangeEntry.between_eq_some_iff.mp he
      exact ⟨hold, hne.symm⟩

theorem run_decided_cancelled :
    let base : Snapshot := ⟨0, "base", 0, .ofList [("a", "1")], default⟩
    let acts : List Act := [.declare "a" (.updated "x" "y"), .setAll [("a", "2"), ("a", "1")],
      .removeKeys ["b"]]
    ChangeSet.get? ((run { new .propertySource with base := some base } acts).build "c1" default)
      "a" = none := by
  intro base acts
  have hdecided := (run_decided .propertySource (some base) acts "c1" default "a").1
  apply hdecided [.declare "a" (.updated "x" "y")] (.setAll [("a", "2"), ("a", "1")])
    [.removeKeys ["b"]] none rfl
  · rfl
  · simp [Act.verdict?]

/-- A key that is removed last is gone, except that one which the base does not have stays as an
act before has set it. -/
theorem removal_last_affected_iff (type : ResourceType) (base : Snapshot) {acts : List Act}
    (hrelative : ∀ a ∈ acts, a.Relative) {keys : List String} {key : String} (hkey : key ∈ keys)
    (version : String) (now : Time.Instant) :
    let c := ((withBase type base).run (acts ++ [.removeKeys keys])).build version now
    (c.isKeyAffected key = true ↔ base.value key = none ∧ ∃ a ∈ acts, a.Gives key) ∧
    ((c.applyTo base.entries).get? key = none ↔ c.isKeyAffected key = false) := by
  intro c
  have hentry : c.get? key =
      ((acts ++ [Act.removeKeys keys]).reverse.findSome?
        (Act.verdict? (base.value key) key)).getD none :=
    get?_build_run type (some base) (acts ++ [Act.removeKeys keys]) version now key
  have happlied : (c.applyTo base.entries).get? key =
      ((c.get? key).map ChangeEntry.new?).getD (base.value key) :=
    ChangeSet.get?_applyTo c base.entries key
  rw [List.reverse_concat, List.findSome?_cons, Act.verdict?, if_pos hkey] at hentry
  rw [happlied, ChangeSet.isKeyAffected]
  cases hbase : base.value key with
  | some old =>
    rw [hbase] at hentry
    rw [hentry]
    simp [ChangeEntry.new?]
  | none =>
    rw [hbase] at hentry
    have hbefore : c.get? key = (acts.reverse.findSome? (Act.verdict? none key)).getD none :=
      hentry
    rcases Act.lastVerdict_of_missing hrelative key with ⟨hgives, new, hnew⟩ | ⟨hno, hnone⟩
    · rw [hbefore, hnew]
      simp [hgives, ChangeEntry.new?]
    · rw [hbefore, hnone]
      simp [hno]

theorem removal_last_affected_iff_both :
    let base : Snapshot := ⟨0, "base", 0, .ofList [("a", "1")], default⟩
    let acts : List Act := [.setAll [("a", "2"), ("b", "2")], .compareWith base]
    let c := ((withBase .propertySource base).run (acts ++ [.removeKeys ["b", "a"]])).build "c1"
      default
    (∀ a ∈ acts, a.Relative) ∧
      (c.isKeyAffected "a" = false ∧ (c.applyTo base.entries).get? "a" = none) ∧
      c.isKeyAffected "b" = true := by
  intro base acts c
  have hrelative : ∀ a ∈ acts, a.Relative := by
    simp only [acts, List.forall_mem_cons]
    exact ⟨trivial, trivial, by simp⟩
  have hkeys : "a" ∈ ["b", "a"] ∧ "b" ∈ ["b", "a"] := by decide
  have ha := removal_last_affected_iff .propertySource base hrelative hkeys.1 "c1" default
  have hb := removal_last_affected_iff .propertySource base hrelative hkeys.2 "c1" default
  have hgone : c.isKeyAffected "a" = false := by
    rw [← Bool.not_eq_true, ha.1]
    exact fun h => absurd h.1 (by decide)
  refine ⟨hrelative, ⟨hgone, ha.2.mpr hgone⟩, hb.1.mpr ⟨rfl, ?_⟩⟩
  exact ⟨.setAll [("a", "2"), ("b", "2")], List.mem_cons_self, "2", by simp⟩

theorem removal_last_kept :
    let base : Snapshot := ⟨0, "base", 0, .empty, default⟩
    let acts : List Act := [.set "k" "v"]
    let c := ((withBase .propertySource base).run (acts ++ [.removeKeys ["k"]])).build "c1" default
    (∀ a ∈ acts, a.Relative) ∧ c.isKeyAffected "k" = true ∧
      (c.applyTo base.entries).get? "k" = some "v" := by
  intro base acts c
  refine ⟨?_, rfl, rfl⟩
  simp only [acts, List.forall_mem_cons]
  exact ⟨trivial, by simp⟩

end LayeredConfig.Draft
