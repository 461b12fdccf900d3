import Mathlib.Logic.ExistsUnique
import LayeredConfig.ChangeSet.Written
import LayeredConfig.Json.Writer
import LayeredConfig.Proofs.Drafts
import LayeredConfig.Time.Reading

namespace LayeredConfig

namespace ChangeEntry

abbrev Values := Option String × Option String

def values (e : ChangeEntry) : Values := (e.old?, e.new?)

def kindOf : Values → ChangeKind
  | (none, _) => .added
  | (some _, none) => .removed
  | (some _, some _) => .updated

theorem values_ne (e : ChangeEntry) : e.values ≠ (none, none) := by
  cases e <;> simp [values, old?, new?]

theorem kind_eq_kindOf (e : ChangeEntry) : e.kind = kindOf e.values := by cases e <;> rfl

theorem isSome_new?_iff (e : ChangeEntry) :
    e.new?.isSome = true ↔ e.kind = .added ∨ e.kind = .updated := by
  cases e <;> simp [new?, kind]

theorem ofValues_eq_ok_iff {key : String} {old new : Option String} {e : ChangeEntry} :
    ofValues key old new = .ok e ↔ e.values = (old, new) := by
  rcases old with _ | o <;> rcases new with _ | n <;> cases e <;>
    simp [ofValues, values, old?, new?, eq_comm]

theorem values_of_between {old new : Option String} {e : ChangeEntry}
    (h : between old new = some e) : e.values = (old, new) ∧ e.new? ≠ e.old? := by
  obtain ⟨hne, rfl, rfl⟩ := between_eq_some_iff.mp h
  exact ⟨rfl, hne.symm⟩

def writtenValues? (j : Json) : Option Values := do
  match ← j.recordFields ["old_value", "new_value"] with
  | [old, new] => return (← writtenValue old, ← writtenValue new)
  | _ => none

theorem ofJson?_eq_some_iff {j : Json} {e : ChangeEntry} :
    ofJson? j = some e ↔ writtenValues? j = some e.values := by
  rw [ofJson?, writtenValues?]
  simp only [Option.bind_eq_bind, Option.bind_eq_some_iff]
  refine exists_congr fun fields => and_congr_right fun _ => ?_
  split
  · simp only [Option.bind_eq_some_iff]
    refine exists_congr fun o => and_congr_right fun _ => ?_
    refine exists_congr fun n => and_congr_right fun _ => ?_
    have hvalues : ofValues "<deserialized>" o n = .ok e ↔ (o, n) = e.values :=
      ofValues_eq_ok_iff.trans eq_comm
    rw [Option.pure_def, Option.some_inj, ← hvalues]
    cases ofValues "<deserialized>" o n <;> simp
  · simp

end ChangeEntry

theorem Json.asEntries_map {α β : Type} {value : Json → Option α} {value' : Json → Option β}
    {f : α → β} (hf : ∀ j a, value j = some a → value' j = some (f a)) {j : Json}
    {l : List (String × α)} (h : j.asEntries value = some l) :
    j.asEntries value' = some (l.map (fun e => (e.1, f e.2))) := by
  cases j with
  | object fields =>
    obtain ⟨named, hnamed, hl⟩ := Option.bind_eq_some_iff.mp h
    rw [asEntries, hnamed, Option.bind_some]
    clear h hnamed
    induction named generalizing l with
    | nil =>
      cases hl
      rfl
    | cons field rest ih =>
      rw [List.mapM_cons] at hl
      obtain ⟨e, he, hl⟩ := Option.bind_eq_some_iff.mp hl
      obtain ⟨es, hes, hl⟩ := Option.bind_eq_some_iff.mp hl
      obtain ⟨a, ha, rfl⟩ := Option.map_eq_some_iff.mp he
      cases hl
      simp [List.mapM_cons, hf _ _ ha, ih hes]
  | _ => cases h

namespace ChangeSet

open ChangeEntry

variable {c : ChangeSet} {kind : ChangeKind} {key : String}

theorem isKind_iff : c.isKind kind key = true ↔ ∃ e, c.get? key = some e ∧ e.kind = kind := by
  simp [isKind, Option.any_eq_true]

theorem mem_keysOf_iff : key ∈ c.keysOf kind ↔ c.isKind kind key = true := by
  rw [keysOf, Table.mem_keys_iff, Table.get?_filter, Option.isSome_filter]
  rfl

theorem mem_keys_iff : key ∈ c.entries.keys ↔ ∃ e, c.get? key = some e := by
  rw [Table.mem_keys_iff, Option.isSome_iff_exists]
  rfl

theorem filter_kinds_perm (l : List (String × ChangeEntry)) :
    (l.filter (fun e => e.2.kind == .added) ++ (l.filter (fun e => e.2.kind == .updated) ++
      l.filter (fun e => e.2.kind == .removed))).Perm l := by
  induction l with
  | nil => rfl
  | cons e rest ih =>
    cases hkind : e.2.kind with
    | added => simpa [hkind] using ih
    | updated =>
      simp only [List.filter_cons, hkind]
      exact List.perm_middle.trans (ih.cons e)
    | removed =>
      simp only [List.filter_cons, hkind]
      rw [← List.append_assoc]
      refine List.perm_middle.trans (List.Perm.cons e ?_)
      rwa [List.append_assoc]

theorem keysOf_perm (c : ChangeSet) :
    (c.keysOf .added ++ (c.keysOf .updated ++ c.keysOf .removed)).Perm c.entries.keys := by
  have h := (filter_kinds_perm c.entries.entries).map Prod.fst
  rw [List.map_append, List.map_append] at h
  exact h

structure Classified (c : ChangeSet) : Prop where
  valued : ∀ key e, c.get? key = some e → e.values ≠ (none, none)
  kind : ∀ key kind, c.isKind kind key = true ↔
    ∃ e, c.get? key = some e ∧ kindOf e.values = kind
  one : ∀ key, key ∈ c.entries.keys ↔ ∃! kind, c.isKind kind key = true
  keys : ∀ kind key, key ∈ c.keysOf kind ↔ c.isKind kind key = true
  disjoint : ∀ kind kind', kind ≠ kind' → ∀ key ∈ c.keysOf kind, key ∉ c.keysOf kind'
  all : (c.keysOf .added ++ (c.keysOf .updated ++ c.keysOf .removed)).Perm c.entries.keys
  count : c.count .added + c.count .updated + c.count .removed = c.entries.size
  affected : ∀ key, c.isKeyAffected key = true ↔
    c.isKind .added key = true ∨ c.isKind .updated key = true

theorem isKind_unique {kind' : ChangeKind} (h : c.isKind kind key = true)
    (h' : c.isKind kind' key = true) : kind = kind' := by
  obtain ⟨e, he, rfl⟩ := isKind_iff.mp h
  obtain ⟨e', he', rfl⟩ := isKind_iff.mp h'
  rw [he] at he'
  cases he'
  rfl

theorem classified (c : ChangeSet) : c.Classified where
  valued _ e _ := e.values_ne
  kind key kind := by simp only [isKind_iff, kind_eq_kindOf]
  one key := by
    constructor
    · intro hkey
      obtain ⟨e, he⟩ := mem_keys_iff.mp hkey
      have hkind : c.isKind e.kind key = true := isKind_iff.mpr ⟨e, he, rfl⟩
      exact ⟨e.kind, hkind, fun _ h => isKind_unique h hkind⟩
    · rintro ⟨kind, hkind, -⟩
      obtain ⟨e, he, -⟩ := isKind_iff.mp hkind
      exact mem_keys_iff.mpr ⟨e, he⟩
  keys _ _ := mem_keysOf_iff
  disjoint kind kind' hne key hkey hkey' :=
    hne (isKind_unique (mem_keysOf_iff.mp hkey) (mem_keysOf_iff.mp hkey'))
  all := c.keysOf_perm
  count := by
    have hlength := c.keysOf_perm.length_eq
    rw [List.length_append, List.length_append, ← Nat.add_assoc, Table.keys, List.length_map]
      at hlength
    exact hlength
  affected key := by
    cases he : c.get? key <;> simp [isKeyAffected, isKind, he, isSome_new?_iff]

def writtenEntries? (j : Json) : Option (List (String × Values)) := do
  match ← j.recordFields ["resource_type", "version", "timestamp", "entries"] with
  | [_, _, _, some entries] => entries.asEntries writtenValues?
  | _ => none

theorem writtenEntries?_of_ofJson? [Time.Reader] {j : Json} (h : ofJson? j = some c) :
    ∃ l, writtenEntries? j = some (l.map (fun e => (e.1, e.2.values))) ∧
      c.entries = Table.ofList l := by
  obtain ⟨fields, hfields, h⟩ := Option.bind_eq_some_iff.mp h
  split at h
  · next type version time entries =>
    obtain ⟨_, -, h⟩ := Option.bind_eq_some_iff.mp h
    obtain ⟨_, -, h⟩ := Option.bind_eq_some_iff.mp h
    obtain ⟨_, -, h⟩ := Option.bind_eq_some_iff.mp h
    obtain ⟨l, hl, h⟩ := Option.bind_eq_some_iff.mp h
    cases h
    refine ⟨l, ?_, rfl⟩
    rw [writtenEntries?, hfields]
    exact Json.asEntries_map (fun _ _ => ofJson?_eq_some_iff.mp) hl
  · cases h

end ChangeSet

namespace Draft

inductive Operation where
  | act (a : Act)
  | version (text : String)
  | time (t : Time.Instant)

def operate (d : Draft) : Operation → Draft
  | .act a => d.step a
  | .version text => d.withVersion text
  | .time t => d.withTime t

def operateAll (d : Draft) (operations : List Operation) : Draft := operations.foldl operate d

def Operation.verdict? (base : Option String) (key : String) :
    Operation → Option (Option ChangeEntry)
  | .act a => a.verdict? base key
  | .version _ => none
  | .time _ => none

theorem operate_follows (key : String) : Follows key operate (Operation.verdict? · key) := by
  refine ⟨fun d o => ?_, fun d o => ?_⟩
  · cases o with
    | act a => exact (step_follows key).base d a
    | version text => rfl
    | time t => rfl
  · cases o with
    | act a => exact (step_follows key).entry d a
    | version text => rfl
    | time t => rfl

theorem Act.values_of_verdict? {a : Act} {base : Option String} {key : String} {e : ChangeEntry}
    (h : a.verdict? base key = some (some e)) :
    a = .declare key e ∨ e.old? = base ∧ e.new? ≠ e.old? := by
  have hrelative : a.Relative → e.old? = base ∧ e.new? ≠ e.old? := by
    intro ha
    obtain ⟨new, hnew⟩ := ha.verdict?_eq_between h
    obtain ⟨hvalues, hne⟩ := ChangeEntry.values_of_between hnew.symm
    exact ⟨congrArg Prod.fst hvalues, hne⟩
  cases a with
  | declare k e' =>
    rw [verdict?, Option.ite_none_right_eq_some] at h
    obtain ⟨rfl, h⟩ := h
    cases h
    exact .inl rfl
  | _ => exact .inr (hrelative trivial)

theorem values_of_operate {d : Draft} (hd : d.entries = .empty) (operations : List Operation)
    {key : String} {e : ChangeEntry}
    (h : (d.operateAll operations).entries.get? key = some e) :
    .act (.declare key e) ∈ operations ∨ e.old? = d.baseValue key ∧ e.new? ≠ e.old? := by
  rw [operateAll, (operate_follows key).foldl.entry d operations, hd, Table.get?_empty] at h
  cases hlast : operations.reverse.findSome? (Operation.verdict? (d.baseValue key) key) with
  | none =>
    rw [hlast] at h
    cases h
  | some v =>
    rw [hlast] at h
    obtain rfl : v = some e := h
    obtain ⟨o, ho, hv⟩ := List.exists_of_findSome?_eq_some hlast
    cases o with
    | act a =>
      rcases Act.values_of_verdict? hv with rfl | hvalues
      · exact .inl (List.mem_reverse.mp ho)
      · exact .inr hvalues
    | version text => cases hv
    | time t => cases hv

end Draft

/-- Whether it is built by a draft, is a difference or is read from a text, a change set is
classified. What is told or written for a key is kept as it is, and else an entry leads from the
value in the base to another one; of what is written, no entry without a value is read, and every
other one is. -/
theorem ChangeSet.classified_exact [Json.Codec] [Time.Reader] :
    (∀ d : Draft, d.entries = .empty → ∀ operations version now,
      let c := (d.operateAll operations).build version now
      c.Classified ∧ ∀ key e, c.get? key = some e →
        .act (.declare key e) ∈ operations ∨ e.old? = d.baseValue key ∧ e.new? ≠ e.old?) ∧
    (∀ old new version now, ∀ c ∈ [diff old new version now, diffConfiguration old new version now],
      c.Classified ∧ ∀ key e, c.get? key = some e →
        e.values = (old.value key, new.value key) ∧ e.new? ≠ e.old?) ∧
    (∀ text c, (Json.Codec.read text).bind ofJson? = some c →
      c.Classified ∧ ∃ written, (Json.Codec.read text).bind writtenEntries? = some written ∧
        (∀ e ∈ written, e.2 ≠ (none, none)) ∧
        ∀ key, (c.get? key).map ChangeEntry.values = (Table.ofList written).get? key) ∧
    ∀ j e, ChangeEntry.ofJson? j = some e ↔ ChangeEntry.writtenValues? j = some e.values := by
  refine ⟨fun d hd operations version now => ⟨classified _, fun key e he =>
    Draft.values_of_operate hd operations he⟩, fun old new version now c hc =>
    ⟨classified _, fun key e he => ?_⟩, fun text c hc => ⟨classified _, ?_⟩,
    fun _ _ => ChangeEntry.ofJson?_eq_some_iff⟩
  · have hentry : c.get? key = ChangeEntry.between (old.value key) (new.value key) := by
      simp only [List.mem_cons, List.not_mem_nil, or_false] at hc
      rcases hc with rfl | rfl
      · exact get?_diff old new version now key
      · exact get?_diffConfiguration old new version now key
    exact ChangeEntry.values_of_between (hentry.symm.trans he)
  · obtain ⟨j, hj, hc⟩ := Option.bind_eq_some_iff.mp hc
    obtain ⟨l, hl, hentries⟩ := writtenEntries?_of_ofJson? hc
    refine ⟨l.map (fun e => (e.1, e.2.values)), ?_, ?_, fun key => ?_⟩
    · rw [hj, Option.bind_some, hl]
    · intro e he
      obtain ⟨e', -, rfl⟩ := List.mem_map.mp he
      exact e'.2.values_ne
    · rw [get?, hentries, Table.get?_ofList_map]

theorem ChangeSet.classified_exact_repeated :
    let base : Snapshot := ⟨0, "base", 0, .ofList [("a", "1")], default⟩
    let d := Draft.withBase .propertySource base
    let operations : List Draft.Operation :=
      [.act (.set "a" "2"), .version "v", .act (.declare "b" (.removed "x"))]
    let text := "[\"Configuration\",\"v\",\"1970-01-01T00:00:00Z\"," ++
      "\x7b\"a\":[null,\"1\"],\"b\":[\"x\",\"y\"],\"a\":[\"2\",null]\x7d]"
    let c : ChangeSet := ⟨.configuration, none, "v", ⟨0, 0⟩,
      .ofList [("a", .removed "2"), ("b", .updated "x" "y")]⟩
    (d.entries = .empty ∧ ((d.operateAll operations).build "c1" default).Classified) ∧
      (diff base base "c1" default).Classified ∧
      (Json.read text).bind ofJson? = some c ∧ c.Classified := by
  intro base d operations text c
  have hd : d.entries = .empty := rfl
  have hread : (Json.read text).bind ofJson? = some c := by decide +kernel
  obtain ⟨hdrafts, hdifferences, htexts, -⟩ := classified_exact
  refine ⟨⟨hd, (hdrafts d hd operations "c1" default).1⟩, ?_, hread, (htexts text c hread).1⟩
  exact (hdifferences base base "c1" default _ List.mem_cons_self).1

end LayeredConfig
