/-!
Tables from names to values, held in the order of the names. Main statements: looking a name up
after an insertion or a removal (`get?_insert`, `get?_erase`), and that a table is determined by
what looking names up gives (`Table.ext_get?`).
-/

namespace LayeredConfig

theorem name_lt_trichotomy (a b : String) : a < b ∨ a = b ∨ b < a := by
  by_cases h : a < b
  · exact .inl h
  · by_cases h' : b < a
    · exact .inr (.inr h')
    · exact .inr (.inl (String.le_antisymm (String.not_lt.1 h') (String.not_lt.1 h)))

structure Table (α : Type) where
  entries : List (String × α)
  sorted : entries.Pairwise (fun a b => a.1 < b.1)

namespace Table

variable {α β : Type}

theorem ext_entries {t u : Table α} (h : t.entries = u.entries) : t = u := by
  cases t
  cases u
  cases h
  rfl

def insertEntry (k : String) (v : α) : List (String × α) → List (String × α)
  | [] => [(k, v)]
  | (k', v') :: rest =>
    if k < k' then (k, v) :: (k', v') :: rest
    else if k = k' then (k, v) :: rest
    else (k', v') :: insertEntry k v rest

def lookup (k : String) : List (String × α) → Option α
  | [] => none
  | (k', v) :: rest => if k' = k then some v else lookup k rest

theorem mem_insertEntry {k : String} {v : α} {e : String × α} {l : List (String × α)}
    (h : e ∈ insertEntry k v l) : e = (k, v) ∨ e ∈ l := by
  induction l with
  | nil => simpa [insertEntry] using h
  | cons x rest ih =>
    obtain ⟨k', v'⟩ := x
    simp only [insertEntry] at h
    split at h
    · simpa using h
    · split at h
      · rcases List.mem_cons.1 h with h | h
        · exact .inl h
        · exact .inr (List.mem_cons_of_mem _ h)
      · rcases List.mem_cons.1 h with h | h
        · exact .inr (h ▸ List.mem_cons_self)
        · rcases ih h with h | h
          · exact .inl h
          · exact .inr (List.mem_cons_of_mem _ h)

theorem pairwise_insertEntry (k : String) (v : α) {l : List (String × α)}
    (h : l.Pairwise (fun a b => a.1 < b.1)) :
    (insertEntry k v l).Pairwise (fun a b => a.1 < b.1) := by
  induction l with
  | nil => simp [insertEntry]
  | cons x rest ih =>
    obtain ⟨k', v'⟩ := x
    have hhead := (List.pairwise_cons.1 h).1
    have htail := (List.pairwise_cons.1 h).2
    simp only [insertEntry]
    split
    · next hlt =>
      refine List.pairwise_cons.2 ⟨?_, h⟩
      intro e he
      rcases List.mem_cons.1 he with rfl | he
      · exact hlt
      · exact String.lt_trans hlt (hhead e he)
    · next hlt =>
      split
      · next heq =>
        subst heq
        exact List.pairwise_cons.2 ⟨hhead, htail⟩
      · next hne =>
        refine List.pairwise_cons.2 ⟨?_, ih htail⟩
        intro e he
        rcases mem_insertEntry he with rfl | he
        · rcases name_lt_trichotomy k k' with hk | hk | hk
          · exact absurd hk hlt
          · exact absurd hk hne
          · exact hk
        · exact hhead e he

theorem lookup_insertEntry (k : String) (v : α) (l : List (String × α)) (j : String) :
    lookup j (insertEntry k v l) = if k = j then some v else lookup j l := by
  induction l with
  | nil => simp [insertEntry, lookup]
  | cons x rest ih =>
    obtain ⟨k', v'⟩ := x
    simp only [insertEntry]
    split
    · simp [lookup]
    · split
      · next heq =>
        subst heq
        by_cases hj : k = j <;> simp [lookup, hj]
      · next hne =>
        by_cases hj : k' = j
        · subst hj
          simp [lookup, hne]
        · simp [lookup, hj, ih]

theorem lookup_eq_none_of_forall {k : String} {l : List (String × α)}
    (h : ∀ e ∈ l, e.1 ≠ k) : lookup k l = none := by
  induction l with
  | nil => rfl
  | cons x rest ih =>
    obtain ⟨k', v'⟩ := x
    have h1 : k' ≠ k := h (k', v') List.mem_cons_self
    simp [lookup, h1, ih (fun e he => h e (List.mem_cons_of_mem _ he))]

theorem lookup_eq_some_iff {k : String} {v : α} {l : List (String × α)}
    (h : l.Pairwise (fun a b => a.1 < b.1)) : lookup k l = some v ↔ (k, v) ∈ l := by
  induction l with
  | nil => simp [lookup]
  | cons x rest ih =>
    obtain ⟨k', v'⟩ := x
    have hhead := (List.pairwise_cons.1 h).1
    by_cases hk : k' = k
    · subst hk
      constructor
      · intro hl
        simp [lookup] at hl
        simp [hl]
      · intro hm
        rcases List.mem_cons.1 hm with hm | hm
        · cases hm
          simp [lookup]
        · exact absurd (hhead _ hm) (String.lt_irrefl _)
    · have hne : ¬ k = k' := fun he => hk he.symm
      simp [lookup, hk, hne, ih (List.pairwise_cons.1 h).2]

theorem getLast?_eq_some_iff {l : List (String × α)} {e : String × α}
    (h : l.Pairwise (fun a b => a.1 < b.1)) :
    l.getLast? = some e ↔ e ∈ l ∧ ∀ x ∈ l, x.1 ≤ e.1 := by
  constructor
  · intro hlast
    obtain ⟨before, rfl⟩ := List.getLast?_eq_some_iff.1 hlast
    refine ⟨by simp, fun x hx => ?_⟩
    rcases List.mem_append.1 hx with hx | hx
    · exact String.not_lt.1 (String.lt_asymm ((List.pairwise_append.1 h).2.2 x hx e (by simp)))
    · obtain rfl := List.mem_singleton.1 hx
      exact String.le_refl _
  · rintro ⟨he, hgreatest⟩
    obtain ⟨before, after, rfl⟩ := List.append_of_mem he
    cases after with
    | nil => simp
    | cons x after =>
      have hlt := (List.pairwise_cons.1 (List.pairwise_append.1 h).2.1).1 x List.mem_cons_self
      exact absurd hlt (String.not_lt.2 (hgreatest x (by simp)))

def empty : Table α := ⟨[], List.Pairwise.nil⟩

instance : Inhabited (Table α) := ⟨empty⟩

instance : EmptyCollection (Table α) := ⟨empty⟩

def get? (t : Table α) (k : String) : Option α := lookup k t.entries

def contains (t : Table α) (k : String) : Bool := (t.get? k).isSome

def insert (t : Table α) (k : String) (v : α) : Table α :=
  ⟨insertEntry k v t.entries, pairwise_insertEntry k v t.sorted⟩

def filter (p : String → α → Bool) (t : Table α) : Table α :=
  ⟨t.entries.filter (fun e => p e.1 e.2), t.sorted.filter _⟩

def erase (t : Table α) (k : String) : Table α := t.filter (fun j _ => j ≠ k)

def insertMany (t : Table α) (l : List (String × α)) : Table α :=
  l.foldl (fun t e => t.insert e.1 e.2) t

def ofList (l : List (String × α)) : Table α := empty.insertMany l

def mapValues (f : String → α → β) (t : Table α) : Table β :=
  ⟨t.entries.map (fun e => (e.1, f e.1 e.2)), by
    simpa only [List.pairwise_map] using t.sorted⟩

def filterMapEntries (f : String → α → Option β) (l : List (String × α)) : List (String × β) :=
  l.filterMap (fun e => (f e.1 e.2).map (fun b => (e.1, b)))

theorem filterMapEntries_cons (f : String → α → Option β) (k : String) (v : α)
    (l : List (String × α)) : filterMapEntries f ((k, v) :: l) =
      match f k v with
      | some w => (k, w) :: filterMapEntries f l
      | none => filterMapEntries f l := by
  cases h : f k v <;> simp [filterMapEntries, h]

def filterMap (f : String → α → Option β) (t : Table α) : Table β :=
  ⟨filterMapEntries f t.entries, by
    refine List.Pairwise.filterMap _ ?_ t.sorted
    intro a a' haa b hb c hc
    simp only [Option.map_eq_some_iff] at hb hc
    obtain ⟨_, _, rfl⟩ := hb
    obtain ⟨_, _, rfl⟩ := hc
    exact haa⟩

def keys (t : Table α) : List String := t.entries.map (·.1)

def values (t : Table α) : List α := t.entries.map (·.2)

def size (t : Table α) : Nat := t.entries.length

def isEmpty (t : Table α) : Bool := t.entries.isEmpty

def namesInOrder (names : List String) : List String :=
  (ofList (names.map (fun n => (n, ())))).keys

@[simp] theorem get?_empty (k : String) : (empty : Table α).get? k = none := rfl

@[simp] theorem entries_empty : (empty : Table α).entries = [] := rfl

theorem mem_entries_iff {t : Table α} {k : String} {v : α} :
    (k, v) ∈ t.entries ↔ t.get? k = some v :=
  (lookup_eq_some_iff t.sorted).symm

theorem get?_insert (t : Table α) (k : String) (v : α) (j : String) :
    (t.insert k v).get? j = if k = j then some v else t.get? j :=
  lookup_insertEntry k v t.entries j

theorem get?_filter (p : String → α → Bool) (t : Table α) (j : String) :
    (t.filter p).get? j = (t.get? j).filter (p j) := by
  rcases hj : t.get? j with _ | v
  · rw [Option.filter_none]
    apply lookup_eq_none_of_forall
    rintro ⟨k, v⟩ he rfl
    have : (k, v) ∈ t.entries := (List.mem_filter.1 he).1
    rw [mem_entries_iff.1 this] at hj
    cases hj
  · by_cases hp : p j v = true
    · rw [Option.filter_some, if_pos hp]
      exact mem_entries_iff.1 (List.mem_filter.2 ⟨mem_entries_iff.2 hj, hp⟩)
    · rw [Option.filter_some, if_neg hp]
      apply lookup_eq_none_of_forall
      rintro ⟨k, w⟩ he rfl
      obtain ⟨hm, hpw⟩ := List.mem_filter.1 he
      rw [mem_entries_iff.1 hm] at hj
      cases hj
      exact hp hpw

theorem get?_erase (t : Table α) (k j : String) :
    (t.erase k).get? j = if k = j then none else t.get? j := by
  rw [erase, get?_filter]
  by_cases h : k = j
  · subst h
    cases t.get? k <;> simp
  · have h' : j ≠ k := fun he => h he.symm
    cases t.get? j <;> simp [h, h']

theorem get?_mapValues (f : String → α → β) (t : Table α) (j : String) :
    (t.mapValues f).get? j = (t.get? j).map (f j) := by
  have : ∀ l : List (String × α),
      lookup j (l.map (fun e => (e.1, f e.1 e.2))) = (lookup j l).map (f j) := by
    intro l
    induction l with
    | nil => rfl
    | cons x rest ih =>
      obtain ⟨k', v'⟩ := x
      by_cases h : k' = j
      · subst h
        simp [lookup]
      · simp [lookup, h, ih]
  exact this t.entries

theorem get?_filterMap (f : String → α → Option β) (t : Table α) (j : String) :
    (t.filterMap f).get? j = (t.get? j).bind (f j) := by
  rcases hj : t.get? j with _ | v
  · apply lookup_eq_none_of_forall
    rintro ⟨k, w⟩ he rfl
    obtain ⟨e, hm, hf⟩ := List.mem_filterMap.1 he
    obtain ⟨_, _, heq⟩ := Option.map_eq_some_iff.1 hf
    cases heq
    obtain ⟨k, v⟩ := e
    rw [mem_entries_iff.1 hm] at hj
    cases hj
  · rcases hf : f j v with _ | w
    · rw [Option.bind_some, hf]
      apply lookup_eq_none_of_forall
      rintro ⟨k, w⟩ he rfl
      obtain ⟨e, hm, hg⟩ := List.mem_filterMap.1 he
      obtain ⟨_, hw, heq⟩ := Option.map_eq_some_iff.1 hg
      cases heq
      obtain ⟨k, v'⟩ := e
      rw [mem_entries_iff.1 hm] at hj
      cases hj
      rw [hf] at hw
      cases hw
    · rw [Option.bind_some, hf]
      refine mem_entries_iff.1 (List.mem_filterMap.2 ⟨(j, v), mem_entries_iff.2 hj, ?_⟩)
      simp [hf]

theorem mem_keys_iff {t : Table α} {k : String} : k ∈ t.keys ↔ (t.get? k).isSome := by
  constructor
  · intro h
    obtain ⟨⟨k', v⟩, hm, rfl⟩ := List.mem_map.1 h
    rw [mem_entries_iff.1 hm]
    rfl
  · intro h
    obtain ⟨v, hv⟩ := Option.isSome_iff_exists.1 h
    exact List.mem_map.2 ⟨(k, v), mem_entries_iff.2 hv, rfl⟩

theorem eq_of_mem_iff {l m : List (String × α)} (hl : l.Pairwise (fun a b => a.1 < b.1))
    (hm : m.Pairwise (fun a b => a.1 < b.1)) (h : ∀ e, e ∈ l ↔ e ∈ m) : l = m := by
  induction l generalizing m with
  | nil =>
    cases m with
    | nil => rfl
    | cons x rest => exact absurd ((h x).2 List.mem_cons_self) List.not_mem_nil
  | cons x rest ih =>
    cases m with
    | nil => exact absurd ((h x).1 List.mem_cons_self) List.not_mem_nil
    | cons y rest' =>
      have hx := List.pairwise_cons.1 hl
      have hy := List.pairwise_cons.1 hm
      have hxy : x = y := by
        rcases List.mem_cons.1 ((h x).1 List.mem_cons_self) with he | he
        · exact he
        · rcases List.mem_cons.1 ((h y).2 List.mem_cons_self) with he' | he'
          · exact he'.symm
          · exact absurd (hx.1 y he') (String.lt_asymm (hy.1 x he))
      subst hxy
      congr 1
      refine ih hx.2 hy.2 (fun e => ?_)
      constructor
      · intro he
        rcases List.mem_cons.1 ((h e).1 (List.mem_cons_of_mem _ he)) with heq | hin
        · subst heq
          exact absurd (hx.1 e he) (String.lt_irrefl _)
        · exact hin
      · intro he
        rcases List.mem_cons.1 ((h e).2 (List.mem_cons_of_mem _ he)) with heq | hin
        · subst heq
          exact absurd (hy.1 e he) (String.lt_irrefl _)
        · exact hin

theorem ext_get? {t u : Table α} (h : ∀ k, t.get? k = u.get? k) : t = u := by
  apply ext_entries
  refine eq_of_mem_iff t.sorted u.sorted ?_
  rintro ⟨k, v⟩
  rw [mem_entries_iff, mem_entries_iff, h k]

theorem isEmpty_iff {t : Table α} : t.isEmpty = true ↔ ∀ k, t.get? k = none := by
  rw [isEmpty, List.isEmpty_iff]
  constructor
  · intro h k
    rw [get?, h]
    rfl
  · intro h
    exact congrArg entries (ext_get? (u := empty) h)

theorem get?_insertMany (t : Table α) (l : List (String × α)) (j : String) :
    (t.insertMany l).get? j =
      (l.reverse.findSome? (fun e => if e.1 = j then some e.2 else none)).or (t.get? j) := by
  induction l generalizing t with
  | nil => rfl
  | cons e rest ih =>
    have hstep : t.insertMany (e :: rest) = (t.insert e.1 e.2).insertMany rest := rfl
    rw [hstep, ih, get?_insert, List.reverse_cons, List.findSome?_append]
    by_cases h : e.1 = j <;> simp [h]

theorem get?_ofList (l : List (String × α)) (j : String) :
    (ofList l).get? j = l.reverse.findSome? (fun e => if e.1 = j then some e.2 else none) := by
  rw [ofList, get?_insertMany, get?_empty, Option.or_none]

theorem get?_ofList_map (f : α → β) (l : List (String × α)) (j : String) :
    (ofList (l.map (fun e => (e.1, f e.2)))).get? j = ((ofList l).get? j).map f := by
  rw [get?_ofList, get?_ofList, ← List.map_reverse, List.findSome?_map, List.map_findSome?]
  congr 1
  funext e
  by_cases h : e.1 = j <;> simp [h]

theorem get?_ofList_eq_none_iff {l : List (String × α)} {j : String} :
    (ofList l).get? j = none ↔ ∀ v, (j, v) ∉ l := by
  rw [get?_ofList, List.findSome?_eq_none_iff]
  constructor
  · intro h v hv
    have := h (j, v) (List.mem_reverse.2 hv)
    simp at this
  · rintro h ⟨k, v⟩ hv
    have hne : k ≠ j := fun he => h v (he ▸ List.mem_reverse.1 hv)
    simp [hne]

theorem get?_ofList_eq_some {l : List (String × α)} {j : String} {v : α} (hv : (j, v) ∈ l)
    (hu : ∀ w, (j, w) ∈ l → w = v) : (ofList l).get? j = some v := by
  rcases hw : (ofList l).get? j with _ | w
  · exact absurd hv (get?_ofList_eq_none_iff.1 hw v)
  · rw [get?_ofList] at hw
    obtain ⟨⟨k, x⟩, he, hx⟩ := List.exists_of_findSome?_eq_some hw
    split at hx
    · next hk =>
      cases hx
      cases hk
      rw [hu x (List.mem_reverse.1 he)]
    · cases hx

theorem get?_ofList_eq_some_iff {l : List (String × α)}
    (hu : ∀ k v w, (k, v) ∈ l → (k, w) ∈ l → v = w) {j : String} {v : α} :
    (ofList l).get? j = some v ↔ (j, v) ∈ l := by
  constructor
  · intro h
    have hsome : ¬∀ w, (j, w) ∉ l := by
      rw [← get?_ofList_eq_none_iff, h]
      simp
    obtain ⟨w, hw⟩ : ∃ w, (j, w) ∈ l := by simpa using hsome
    rw [get?_ofList_eq_some hw (fun x hx => hu j x w hx hw)] at h
    exact Option.some.inj h ▸ hw
  · intro h
    exact get?_ofList_eq_some h (fun w hw => hu j w v hw h)

theorem ofList_eq_of_perm {l m : List (String × α)}
    (hu : ∀ k v w, (k, v) ∈ l → (k, w) ∈ l → v = w) (h : m.Perm l) : ofList m = ofList l := by
  apply ext_get?
  intro j
  apply Option.ext
  intro v
  rw [get?_ofList_eq_some_iff hu, get?_ofList_eq_some_iff, h.mem_iff]
  intro k v w hv hw
  exact hu k v w (h.mem_iff.1 hv) (h.mem_iff.1 hw)

theorem get?_ofList_filterMap (f : String → Option α) (keys : List String) (j : String) :
    (ofList (keys.filterMap (fun k => (f k).map (fun v => (k, v))))).get? j =
      if j ∈ keys then f j else none := by
  have hmem : ∀ v, (j, v) ∈ keys.filterMap (fun k => (f k).map (fun v => (k, v))) ↔
      j ∈ keys ∧ f j = some v := by
    simp only [List.mem_filterMap, Option.map_eq_some_iff, Prod.mk.injEq]
    refine fun v => ⟨?_, fun ⟨hj, hv⟩ => ⟨j, hj, v, hv, rfl, rfl⟩⟩
    rintro ⟨k, hk, w, hw, rfl, rfl⟩
    exact ⟨hk, hw⟩
  split
  · next hj =>
    rcases hv : f j with _ | v
    · refine get?_ofList_eq_none_iff.2 (fun v h => ?_)
      have := ((hmem v).1 h).2
      rw [hv] at this
      cases this
    · refine get?_ofList_eq_some ((hmem v).2 ⟨hj, hv⟩) (fun w h => ?_)
      exact Option.some.inj (((hmem w).1 h).2.symm.trans hv)
  · next hj => exact get?_ofList_eq_none_iff.2 (fun v h => hj ((hmem v).1 h).1)

theorem mem_namesInOrder {names : List String} {n : String} :
    n ∈ namesInOrder names ↔ n ∈ names := by
  rw [namesInOrder, mem_keys_iff, Option.isSome_iff_ne_none, Ne, get?_ofList_eq_none_iff]
  simp

theorem ofList_entries (t : Table α) : ofList t.entries = t := by
  apply ext_get?
  intro j
  rcases hj : t.get? j with _ | v
  · refine get?_ofList_eq_none_iff.2 (fun v hv => ?_)
    rw [mem_entries_iff.1 hv] at hj
    cases hj
  · refine get?_ofList_eq_some (mem_entries_iff.2 hj) (fun w hw => ?_)
    rw [mem_entries_iff.1 hw] at hj
    exact Option.some.inj hj

theorem get?_insertMany_entries (t u : Table α) (k : String) :
    (t.insertMany u.entries).get? k = (u.get? k).or (t.get? k) := by
  rw [get?_insertMany, ← get?_ofList, ofList_entries]

instance [DecidableEq α] : DecidableEq (Table α) := fun t u =>
  if h : t.entries = u.entries then isTrue (ext_entries h)
  else isFalse (fun he => h (he ▸ rfl))

end Table

end LayeredConfig
