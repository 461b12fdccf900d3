import LayeredConfig.ChangeSet.Draft

namespace LayeredConfig

def ChangeEntry.between : Option String → Option String → Option ChangeEntry
  | none, none => none
  | none, some new => some (.added new)
  | some old, none => some (.removed old)
  | some old, some new => if old = new then none else some (.updated old new)

theorem ChangeEntry.between_self (value : Option String) : between value value = none := by
  cases value with
  | none => rfl
  | some v => exact if_pos rfl

namespace Draft

theorem base_record (d : Draft) (key : String) (old new : Option String) :
    (d.record key old new).base = d.base := by
  rcases old with _ | o <;> rcases new with _ | n <;> simp only [record]
  split <;> rfl

theorem get?_record (d : Draft) (key : String) (old new : Option String) (j : String) :
    (d.record key old new).entries.get? j =
      if key = j then ChangeEntry.between old new else d.entries.get? j := by
  rcases old with _ | o <;> rcases new with _ | n <;> simp only [record, ChangeEntry.between]
  · exact Table.get?_erase ..
  · exact Table.get?_insert ..
  · exact Table.get?_insert ..
  · by_cases h : o = n
    · rw [if_pos h, if_pos h]
      exact Table.get?_erase ..
    · rw [if_neg h, if_neg h]
      exact Table.get?_insert ..

theorem get?_foldl_record (other : Snapshot) (keys : List String) (d : Draft) (j : String) :
    (keys.foldl (fun d key => d.record key (d.baseValue key) (other.value key)) d).entries.get? j =
      if j ∈ keys then ChangeEntry.between (d.baseValue j) (other.value j)
      else d.entries.get? j := by
  induction keys generalizing d with
  | nil => rfl
  | cons key rest ih =>
    have hbase :
        (d.record key (d.baseValue key) (other.value key)).baseValue j = d.baseValue j := by
      rw [baseValue, base_record, baseValue]
    rw [List.foldl_cons, ih, hbase, get?_record]
    by_cases hrest : j ∈ rest
    · rw [if_pos hrest, if_pos (List.mem_cons_of_mem _ hrest)]
    · rw [if_neg hrest]
      by_cases hkey : key = j
      · subst hkey
        rw [if_pos rfl, if_pos List.mem_cons_self]
      · have hne : j ∉ key :: rest := by
          simp only [List.mem_cons, not_or]
          exact ⟨fun h => hkey h.symm, hrest⟩
        rw [if_neg hkey, if_neg hne]

theorem get?_compareWith (type : ResourceType) (old new : Snapshot) (key : String) :
    ((withBase type old).compareWith new).entries.get? key =
      ChangeEntry.between (old.value key) (new.value key) := by
  -- A key that neither snapshot has gets no entry, like one whose values are equal.
  rw [compareWith, get?_foldl_record]
  split
  · rfl
  · next hkeys =>
    simp only [keysWith, withBase, Option.map_some, Option.getD_some, Table.mem_namesInOrder,
      List.mem_append, Table.mem_keys_iff, not_or, Bool.not_eq_true, Option.isSome_eq_false_iff,
      Option.isNone_iff_eq_none] at hkeys
    rw [Snapshot.value, Snapshot.value, hkeys.1, hkeys.2]
    rfl

end Draft

theorem get?_diffConfiguration (old new : Snapshot) (version : String) (now : Time.Instant)
    (key : String) : (diffConfiguration old new version now).entries.get? key =
      ChangeEntry.between (old.value key) (new.value key) :=
  Draft.get?_compareWith .configuration old new key

def ChangeEntry.reversed : ChangeEntry → ChangeEntry
  | added new => removed new
  | updated old new => updated new old
  | removed old => added old

theorem ChangeEntry.between_swap (old new : Option String) :
    between new old = (between old new).map reversed := by
  rcases old with _ | o <;> rcases new with _ | n
  · rfl
  · rfl
  · rfl
  · by_cases h : o = n
    · simp [between, h]
    · simp [between, reversed, h, Ne.symm h]

theorem ChangeEntry.between_eq_none_iff {old new : Option String} :
    between old new = none ↔ old = new := by
  rcases old with _ | o <;> rcases new with _ | n <;> simp [between]

theorem ChangeEntry.between_eq_some_iff {old new : Option String} {e : ChangeEntry} :
    between old new = some e ↔ old ≠ new ∧ e.old? = old ∧ e.new? = new := by
  rcases old with _ | o <;> rcases new with _ | n <;> rcases e with n' | ⟨o', n'⟩ | o' <;>
    simp [between, old?, new?, eq_comm]

namespace ChangeSet

def applyEntry (t : Table String) (e : String × ChangeEntry) : Table String :=
  match e.2.new? with
  | some new => t.insert e.1 new
  | none => t.erase e.1

theorem get?_applyEntry (t : Table String) (e : String × ChangeEntry) (key : String) :
    (applyEntry t e).get? key = if e.1 = key then e.2.new? else t.get? key := by
  rw [applyEntry]
  cases e.2.new? with
  | none => exact Table.get?_erase ..
  | some new => exact Table.get?_insert ..

theorem get?_foldl_applyEntry {entries : List (String × ChangeEntry)}
    (hs : entries.Pairwise (fun a b => a.1 < b.1)) (t : Table String) (key : String) :
    (entries.foldl applyEntry t).get? key =
      ((Table.lookup key entries).map ChangeEntry.new?).getD (t.get? key) := by
  induction entries generalizing t with
  | nil => rfl
  | cons e rest ih =>
    obtain ⟨k, e⟩ := e
    have hrest := List.pairwise_cons.mp hs
    rw [List.foldl_cons, ih hrest.2, get?_applyEntry]
    by_cases hk : k = key
    · subst hk
      have hlookup : Table.lookup k rest = none := by
        apply Table.lookup_eq_none_of_forall
        intro x hx heq
        exact absurd (hrest.1 x hx) (heq ▸ String.lt_irrefl _)
      simp [Table.lookup, hlookup]
    · simp [Table.lookup, hk]

theorem get?_applyTo (c : ChangeSet) (t : Table String) (key : String) :
    (c.applyTo t).get? key = ((c.entries.get? key).map ChangeEntry.new?).getD (t.get? key) :=
  get?_foldl_applyEntry c.entries.sorted t key

end ChangeSet

theorem get?_diff (old new : Snapshot) (version : String) (now : Time.Instant) (key : String) :
    (diff old new version now).entries.get? key =
      ChangeEntry.between (old.value key) (new.value key) :=
  Draft.get?_compareWith .propertySource old new key

theorem diffConfiguration_entries (old new : Snapshot) (version version' : String)
    (now now' : Time.Instant) :
    (diffConfiguration old new version' now').entries = (diff old new version now).entries := by
  apply Table.ext_get?
  intro key
  rw [get?_diffConfiguration]
  exact (get?_diff old new version now key).symm

theorem diff_swap (old new : Snapshot) (version version' : String) (now now' : Time.Instant) :
    (diff new old version' now').entries =
      (diff old new version now).entries.mapValues (fun _ e => e.reversed) := by
  apply Table.ext_get?
  intro key
  have hforth := get?_diff old new version now key
  have hback := get?_diff new old version' now' key
  rw [Table.get?_mapValues, hforth, hback, ChangeEntry.between_swap]

theorem applyTo_diff (old new : Snapshot) (version : String) (now : Time.Instant) :
    (diff old new version now).applyTo old.entries = new.entries := by
  apply Table.ext_get?
  intro key
  rw [ChangeSet.get?_applyTo, get?_diff]
  cases he : ChangeEntry.between (old.value key) (new.value key) with
  | none => exact ChangeEntry.between_eq_none_iff.mp he
  | some e => exact (ChangeEntry.between_eq_some_iff.mp he).2.2

theorem diff_isKind_iff (old new : Snapshot) (version : String) (now : Time.Instant)
    (key : String) :
    let c := diff old new version now
    (c.isKind .added key = true ↔ old.value key = none ∧ new.value key ≠ none) ∧
    (c.isKind .removed key = true ↔ old.value key ≠ none ∧ new.value key = none) ∧
    (c.isKind .updated key = true ↔
      old.value key ≠ none ∧ new.value key ≠ none ∧ old.value key ≠ new.value key) := by
  intro c
  have hentry : c.entries.get? key = ChangeEntry.between (old.value key) (new.value key) :=
    get?_diff old new version now key
  simp only [ChangeSet.isKind, ChangeSet.get?, hentry]
  rcases old.value key with _ | o <;> rcases new.value key with _ | n
  · simp [ChangeEntry.between]
  · simp [ChangeEntry.between, ChangeEntry.kind]
  · simp [ChangeEntry.between, ChangeEntry.kind]
  · by_cases h : o = n <;> simp [ChangeEntry.between, ChangeEntry.kind, h]

theorem diff_isEmpty_iff (old new : Snapshot) (version : String) (now : Time.Instant) :
    (diff old new version now).entries.isEmpty = true ↔ old.entries = new.entries := by
  rw [Table.isEmpty_iff]
  constructor
  · intro h
    apply Table.ext_get?
    intro key
    apply ChangeEntry.between_eq_none_iff.mp
    rw [← h key]
    exact (get?_diff old new version now key).symm
  · intro h key
    have hsame : old.value key = new.value key := congrArg (fun t => t.get? key) h
    have hentry := get?_diff old new version now key
    rw [hsame, ChangeEntry.between_self] at hentry
    exact hentry

/-- The difference of two snapshots notes every key on which they differ, with what each of them
has for it, and no other key. It takes the old entries to the new ones, and back when it is
reversed. -/
theorem diff_exact (old new : Snapshot) (version : String) (now : Time.Instant) :
    let c := diff old new version now
    (∀ key,
      ((c.entries.get? key).isSome = true ↔ old.value key ≠ new.value key) ∧
      (∀ e, c.entries.get? key = some e → e.old? = old.value key ∧ e.new? = new.value key) ∧
      (c.isKind .added key = true ↔ old.value key = none ∧ new.value key ≠ none) ∧
      (c.isKind .removed key = true ↔ old.value key ≠ none ∧ new.value key = none) ∧
      (c.isKind .updated key = true ↔
        old.value key ≠ none ∧ new.value key ≠ none ∧ old.value key ≠ new.value key)) ∧
    c.applyTo old.entries = new.entries ∧
    (c.entries.isEmpty = true ↔ old.entries = new.entries) ∧
    ∀ version' now',
      (diffConfiguration old new version' now').entries = c.entries ∧
      (diff new old version' now').entries = c.entries.mapValues (fun _ e => e.reversed) := by
  intro c
  refine ⟨fun key => ⟨?_, ?_, diff_isKind_iff old new version now key⟩,
    applyTo_diff old new version now, diff_isEmpty_iff old new version now, ?_⟩
  · rw [Option.isSome_iff_ne_none, get?_diff, Ne, ChangeEntry.between_eq_none_iff]
  · intro e he
    rw [get?_diff] at he
    exact (ChangeEntry.between_eq_some_iff.mp he).2
  · intro version' now'
    exact ⟨diffConfiguration_entries old new version version' now now',
      diff_swap old new version version' now now'⟩

end LayeredConfig
