import LayeredConfig.Proofs.Flattening
import LayeredConfig.Toml.Reader

namespace LayeredConfig.Toml

/-- A document that is read has each field once in every table. -/
class LawfulReader [Reader] : Prop where
  distinct {content : String} {fields : List (String × Value)} :
    Reader.read content = .ok fields → (Value.table fields).EveryTable DistinctNames

mutual

inductive Item.Distinct : Item → Prop
  | value {v : Value} (h : v.EveryTable DistinctNames) : (Item.value v).Distinct
  | elements {tables : List Branch} (h : ∀ b ∈ tables, b.Distinct) : (Item.elements tables).Distinct
  | table {b : Branch} (h : b.Distinct) : (Item.table b).Distinct

inductive Branch.Distinct : Branch → Prop
  | mk {origin : Origin} {items : List (String × Item)} (names : (items.map Prod.fst).Nodup)
      (below : ∀ e ∈ items, e.2.Distinct) : (Branch.mk origin items).Distinct

end

namespace Branch

theorem distinct_new (o : Origin) : (new o).Distinct := .mk List.nodup_nil (by simp)

theorem map_fst_setIn (k : String) (i : Item) (l : List (String × Item)) :
    (setIn k i l).map Prod.fst = l.map Prod.fst ∨
      k ∉ l.map Prod.fst ∧ (setIn k i l).map Prod.fst = l.map Prod.fst ++ [k] := by
  induction l with
  | nil => exact .inr ⟨by simp, rfl⟩
  | cons e rest ih =>
    rw [setIn]
    split
    · next hk => exact .inl (by simp [hk])
    · next hk =>
      rcases ih with h | ⟨hnew, h⟩
      · exact .inl (by simp [h])
      · exact .inr ⟨by simp [hnew, Ne.symm hk], by simp [h]⟩

theorem mem_setIn {k : String} {i : Item} {l : List (String × Item)} {e : String × Item}
    (h : e ∈ setIn k i l) : e = (k, i) ∨ e ∈ l := by
  induction l with
  | nil => simpa [setIn] using h
  | cons x rest ih =>
    rw [setIn] at h
    split at h
    · rcases List.mem_cons.1 h with h | h
      · exact .inl h
      · exact .inr (List.mem_cons_of_mem x h)
    · rcases List.mem_cons.1 h with h | h
      · exact .inr (h ▸ List.mem_cons_self)
      · exact (ih h).imp_right (List.mem_cons_of_mem x)

variable {b b' : Branch}

theorem Distinct.set (hb : b.Distinct) (k : String) {i : Item} (hi : i.Distinct) :
    (b.set k i).Distinct := by
  obtain ⟨hnames, hbelow⟩ := hb
  refine .mk ?_ fun e he => ?_
  · rcases map_fst_setIn k i _ with h | ⟨hnew, h⟩
    · rw [h]
      exact hnames
    · rw [h]
      exact List.nodup_append.2 ⟨hnames, by simp, by
        rintro x hx y hy rfl
        exact hnew (List.mem_singleton.1 hy ▸ hx)⟩
  · rcases mem_setIn he with rfl | he
    · exact hi
    · exact hbelow e he

theorem Distinct.remove (hb : b.Distinct) (k : String) : (b.remove k).Distinct := by
  obtain ⟨hnames, hbelow⟩ := hb
  exact .mk ((List.filter_sublist.map _).nodup hnames)
    fun e he => hbelow e (List.mem_filter.1 he).1

theorem Distinct.of_find? (hb : b.Distinct) {k : String} {i : Item} (h : b.find? k = some i) :
    i.Distinct := by
  obtain ⟨hnames, hbelow⟩ := hb
  obtain ⟨e, he, rfl⟩ := Option.map_eq_some_iff.1 h
  exact hbelow e (List.mem_of_find?_eq_some he)

theorem Distinct.changeAt {dotted : Bool} {change : Branch → Option Branch}
    (hchange : ∀ b b', b.Distinct → change b = some b' → b'.Distinct) {path : List String}
    (hb : b.Distinct) (h : changeAt dotted change path b = some b') : b'.Distinct := by
  induction path generalizing b b' with
  | nil => exact hchange b b' hb h
  | cons k path ih =>
    rw [Branch.changeAt] at h
    split at h
    · obtain ⟨child, hchild, rfl⟩ := Option.map_eq_some_iff.1 h
      exact hb.set k (.table (ih (distinct_new _) hchild))
    · cases h
    · next tables hfind =>
      split at h
      · cases h
      · next last before hreverse =>
        obtain ⟨child, hchild, rfl⟩ := Option.map_eq_some_iff.1 h
        cases hb.of_find? hfind with
        | elements htables =>
          obtain ⟨hlast, hbefore⟩ : last.Distinct ∧ ∀ b ∈ before, b.Distinct := by
            refine List.forall_mem_cons.1 fun b hb => htables b ?_
            rwa [← List.mem_reverse, hreverse]
          refine hb.set k (.elements fun b hb => ?_)
          rcases List.mem_cons.1 (List.mem_reverse.1 hb) with rfl | hb
          · exact ih hlast hchild
          · exact hbefore b hb
    · next child hfind =>
      split at h
      · cases h
      · obtain ⟨changed, hchild, rfl⟩ := Option.map_eq_some_iff.1 h
        cases hb.of_find? hfind with
        | table htable => exact hb.set k (.table (ih htable hchild))

theorem Distinct.define (hb : b.Distinct) {path : List String} {k : String} {v : Value}
    (hv : v.EveryTable DistinctNames) (h : b.define path k v = some b') : b'.Distinct := by
  refine hb.changeAt (fun t t' ht hchange => ?_) h
  split at hchange
  · cases hchange
  · split at hchange
    · cases hchange
    · cases hchange
      exact ht.set k (.value hv)

end Branch

theorem branchValues_eq_map (tables : List Branch) :
    branchValues tables = tables.map Branch.toValue := by
  induction tables with
  | nil => rfl
  | cons b rest ih => rw [branchValues, ih, List.map_cons]

theorem itemValues_eq_map (items : List (String × Item)) :
    itemValues items = items.map (fun e => (e.1, e.2.toValue)) := by
  induction items with
  | nil => rfl
  | cons e rest ih => rw [itemValues, ih, List.map_cons]

theorem sortFields_perm (fields : List (String × Value)) : (sortFields fields).Perm fields :=
  List.mergeSort_perm fields _

mutual

theorem Item.Distinct.toValue {i : Item} : i.Distinct → i.toValue.EveryTable DistinctNames
  | .value h => h
  | .elements h => by
    rw [Item.toValue, everyTable_array_iff, branchValues_eq_map, List.forall_mem_map]
    exact fun b hb => (h b hb).toValue
  | .table h => h.toValue

theorem Branch.Distinct.toValue {b : Branch} : b.Distinct → b.toValue.EveryTable DistinctNames
  | @Branch.Distinct.mk origin items names below => by
    rw [Branch.toValue, everyTable_table_iff, itemValues_eq_map]
    have hsorted := sortFields_perm (items.map (fun e => (e.1, e.2.toValue)))
    constructor
    · rw [DistinctNames, (hsorted.map Prod.fst).nodup_iff, List.map_map]
      exact names
    · intro e he
      obtain ⟨x, hx, rfl⟩ := List.mem_map.1 (hsorted.mem_iff.1 he)
      exact (below x hx).toValue

end

structure Assembly.Distinct (a : Assembly) : Prop where
  root : a.root.Distinct
  current : a.current.Distinct

namespace Assembly

variable {a a' : Assembly}

theorem distinct_start : start.Distinct := ⟨Branch.distinct_new _, Branch.distinct_new _⟩

theorem Distinct.settle (ha : a.Distinct) {root : Branch} (h : a.settle = some root) :
    root.Distinct := by
  rw [Assembly.settle] at h
  split at h
  · cases h
    exact ha.current
  · refine ha.root.changeAt (fun t t' ht hchange => ?_) h
    split at hchange
    · split at hchange
      · cases hchange
        exact ht.set _ (.elements (by simpa using ha.current))
      · next tables hfind =>
        cases hchange
        cases ht.of_find? hfind with
        | elements htables =>
          refine ht.set _ (.elements fun b hb => ?_)
          rcases List.mem_append.1 hb with hb | hb
          · exact htables b hb
          · exact List.mem_singleton.1 hb ▸ ha.current
      · cases hchange
    · split at hchange
      · cases hchange
        exact ht.set _ (.table ha.current)
      · cases hchange

theorem Distinct.define (ha : a.Distinct) {path : List String} {k : String} {v : Value}
    (hv : v.EveryTable DistinctNames) (h : a.define path k v = some a') : a'.Distinct := by
  obtain ⟨b, hb, rfl⟩ := Option.map_eq_some_iff.1 h
  exact ⟨ha.root, ha.current.define hv hb⟩

theorem distinct_of_lookup {path : List String} {k : String} {b : Branch} {i : Item}
    (hb : b.Distinct) (h : openTable.lookup path k b = some (some i)) : i.Distinct := by
  induction path generalizing b with
  | nil => exact hb.of_find? (Option.some.inj h)
  | cons p path ih =>
    rw [openTable.lookup] at h
    split at h
    · next child hfind =>
      cases hb.of_find? hfind with
      | table htable => exact ih htable h
    · next tables hfind =>
      split at h
      · next last hlast =>
        cases hb.of_find? hfind with
        | elements htables => exact ih (htables last (List.mem_of_getLast? hlast)) h
      · cases h
    · cases h

theorem Distinct.openTable (ha : a.Distinct) {path : List String}
    (h : a.openTable path = some a') : a'.Distinct := by
  simp only [Assembly.openTable, Option.bind_eq_bind, Option.bind_eq_some_iff] at h
  obtain ⟨root, hroot, ⟨parents, k⟩, -, way, hway, existing, hexisting, h⟩ := h
  have hroot := (ha.settle hroot).changeAt (fun b b' hb hb' => Option.some.inj hb' ▸ hb) hway
  split at h
  · cases h
    exact ⟨hroot, Branch.distinct_new _⟩
  · next t =>
    split at h
    · obtain ⟨rest, hrest, h⟩ := Option.bind_eq_some_iff.1 h
      cases h
      have hremoved : ∀ b b' : Branch, b.Distinct → some (b.remove k) = some b' → b'.Distinct :=
        fun b b' hb hb' => Option.some.inj hb' ▸ hb.remove k
      cases distinct_of_lookup hroot hexisting with
      | table htable =>
        obtain ⟨hnames, hbelow⟩ := htable
        exact ⟨hroot.changeAt hremoved hrest, .mk hnames hbelow⟩
    · cases h
  · cases h

theorem Distinct.openElement (ha : a.Distinct) {path : List String}
    (h : a.openElement path = some a') : a'.Distinct := by
  simp only [Assembly.openElement, Option.bind_eq_bind, Option.bind_eq_some_iff] at h
  obtain ⟨root, hroot, ⟨parents, k⟩, -, way, hway, h⟩ := h
  cases h
  refine ⟨(ha.settle hroot).changeAt (fun b b' hb hb' => ?_) hway, Branch.distinct_new _⟩
  split at hb'
  · cases hb'
    exact hb.set k (.elements (by simp))
  · cases hb'
    exact hb
  · cases hb'

end Assembly

def ReadsDistinct (element : List Char → Read Value) : Prop :=
  ∀ s v rest, element s = some (v, rest) → v.EveryTable DistinctNames

section ReadsDistinct

variable {element : List Char → Read Value}

theorem ReadsDistinct.arrayItems (he : ReadsDistinct element) {fuel : Nat} {s rest : List Char}
    {items : List Value} (h : arrayItems element fuel s = some (items, rest)) :
    ∀ v ∈ items, v.EveryTable DistinctNames := by
  induction fuel generalizing s items with
  | zero => cases h
  | succ fuel ih =>
    rw [Toml.arrayItems] at h
    split at h
    · cases h
      simp
    · obtain ⟨⟨v, s'⟩, hv, h⟩ := Option.bind_eq_some_iff.1 h
      split at h
      · obtain ⟨⟨more, s''⟩, hmore, heq⟩ := Option.map_eq_some_iff.1 h
        cases heq
        exact List.forall_mem_cons.2 ⟨he _ _ _ hv, ih hmore⟩
      · cases h
        exact List.forall_mem_cons.2 ⟨he _ _ _ hv, by simp⟩
      · cases h

theorem ReadsDistinct.definition? (he : ReadsDistinct element) {s rest : List Char}
    {path : List String} {v : Value} (h : definition? element s = some ((path, v), rest)) :
    v.EveryTable DistinctNames := by
  obtain ⟨⟨k, s'⟩, -, h⟩ := Option.bind_eq_some_iff.1 h
  split at h
  · obtain ⟨⟨w, s''⟩, hw, heq⟩ := Option.map_eq_some_iff.1 h
    cases heq
    exact he _ _ _ hw
  · cases h

theorem ReadsDistinct.inlineItems (he : ReadsDistinct element) {fuel : Nat} {b b' : Branch}
    {s rest : List Char} (hb : b.Distinct) (h : inlineItems element fuel b s = some (b', rest)) :
    b'.Distinct := by
  induction fuel generalizing b s with
  | zero => cases h
  | succ fuel ih =>
    obtain ⟨⟨⟨keys, v⟩, s'⟩, hdefinition, h⟩ := Option.bind_eq_some_iff.1 h
    have hv := he.definition? hdefinition
    split at h
    · cases h
    · obtain ⟨extended, hextended, h⟩ := Option.bind_eq_some_iff.1 h
      have hextended := hb.define hv hextended
      split at h
      · exact ih hextended h
      · cases h
        exact hextended
      · cases h

theorem ReadsDistinct.inlineTable? (he : ReadsDistinct element) {s rest : List Char} {v : Value}
    (h : inlineTable? element s = some (v, rest)) : v.EveryTable DistinctNames := by
  rw [Toml.inlineTable?] at h
  split at h
  · cases h
    exact everyTable_table_iff.2 ⟨List.nodup_nil, by simp⟩
  · obtain ⟨⟨b, s'⟩, hb, heq⟩ := Option.map_eq_some_iff.1 h
    cases heq
    exact (he.inlineItems (Branch.distinct_new _) hb).toValue

theorem distinct_of_read_scalar {α : Type} {read : Read α} {f : α → Scalar} {v : Value}
    {rest : List Char} (h : read.map (fun r => (Value.scalar (f r.1), r.2)) = some (v, rest)) :
    v.EveryTable DistinctNames := by
  obtain ⟨r, -, heq⟩ := Option.map_eq_some_iff.1 h
  cases heq
  exact everyTable_scalar _

theorem readsDistinct_value? (depth : Nat) : ReadsDistinct (value? depth) := by
  induction depth using Nat.strongRecOn with
  | ind depth ih =>
    intro s v rest h
    unfold value? at h
    split at h
    · exact distinct_of_read_scalar h
    · exact distinct_of_read_scalar h
    · cases depth with
      | zero => cases h
      | succ depth =>
        obtain ⟨⟨items, s'⟩, hitems, heq⟩ := Option.map_eq_some_iff.1 h
        cases heq
        exact everyTable_array_iff.2 ((ih depth depth.lt_succ_self).arrayItems hitems)
    · cases depth with
      | zero => cases h
      | succ depth => exact (ih depth depth.lt_succ_self).inlineTable? h
    · cases h
      exact everyTable_scalar _
    · cases h
      exact everyTable_scalar _
    · exact distinct_of_read_scalar (f := id) h

end ReadsDistinct

variable {a a' : Assembly} {s rest : List Char}

theorem Assembly.Distinct.header? (ha : a.Distinct) (h : header? a s = some (a', rest)) :
    a'.Distinct := by
  unfold Toml.header? at h
  split at h
  · obtain ⟨⟨path, s'⟩, -, h⟩ := Option.bind_eq_some_iff.1 h
    split at h
    · obtain ⟨opened, hopened, h⟩ := Option.bind_eq_some_iff.1 h
      obtain ⟨s'', -, heq⟩ := Option.map_eq_some_iff.1 h
      cases heq
      exact ha.openElement hopened
    · cases h
  · obtain ⟨⟨path, s'⟩, -, h⟩ := Option.bind_eq_some_iff.1 h
    split at h
    · obtain ⟨opened, hopened, h⟩ := Option.bind_eq_some_iff.1 h
      obtain ⟨s'', -, heq⟩ := Option.map_eq_some_iff.1 h
      cases heq
      exact ha.openTable hopened
    · cases h

theorem Assembly.Distinct.line? (ha : a.Distinct) (h : line? a s = some (a', rest)) :
    a'.Distinct := by
  unfold Toml.line? at h
  split at h
  · exact ha.header? h
  · obtain ⟨⟨⟨keys, v⟩, s'⟩, hdefinition, h⟩ := Option.bind_eq_some_iff.1 h
    have hv := (readsDistinct_value? _).definition? hdefinition
    split at h
    · cases h
    · obtain ⟨extended, hextended, h⟩ := Option.bind_eq_some_iff.1 h
      obtain ⟨s'', -, heq⟩ := Option.map_eq_some_iff.1 h
      cases heq
      exact ha.define hv hextended

theorem Assembly.Distinct.lines {fuel : Nat} (ha : a.Distinct) (h : lines fuel a s = some a') :
    a'.Distinct := by
  induction fuel generalizing a s with
  | zero => cases h
  | succ fuel ih =>
    rw [Toml.lines] at h
    split at h
    · cases h
      exact ha
    · obtain ⟨s', -, h⟩ := Option.bind_eq_some_iff.1 h
      exact ih ha h
    · split at h
      · exact ih ha h
      · obtain ⟨⟨next, s'⟩, hnext, h⟩ := Option.bind_eq_some_iff.1 h
        exact ih (ha.line? hnext) h

theorem distinct_of_readDocument {content : String} {fields : List (String × Value)}
    (h : readDocument content = some fields) : (Value.table fields).EveryTable DistinctNames := by
  obtain ⟨a, ha, h⟩ := Option.bind_eq_some_iff.1 h
  obtain ⟨root, hroot, h⟩ := Option.map_eq_some_iff.1 h
  have hdistinct := ((Assembly.distinct_start.lines ha).settle hroot).toValue
  obtain ⟨origin, items⟩ := root
  cases h
  exact hdistinct

-- A definition adds a field only under a name that its table lacks, and else changes one in place.
instance : LawfulReader where
  distinct {content fields} h := by
    cases hread : readDocument content with
    | none =>
      simp only [Reader.read, hread] at h
      cases h
    | some _ =>
      simp only [Reader.read, hread] at h
      cases h
      exact distinct_of_readDocument hread

/-- What the flat view of a document holds: the text of each entry under the dotted path of the
entry, nothing else, and no two entries under one key. It is the same in whatever order the entries
are written, or the tables walked. A document that is read need not be asked for distinct names. -/
theorem flat_exact [Reader] [LawfulReader] {fields : List (String × Value)}
    (hparts : (Value.table fields).EveryTable NamedByParts)
    (hnames : (Value.table fields).EveryTable DistinctNames ∨
      ∃ content, Reader.read content = .ok fields) :
    (∀ key text, (flat fields).get? key = some text ↔
      ∃ p, (Value.table fields).Entry p text ∧ key = dotted p) ∧
    (∀ p q text other, (Value.table fields).Entry p text → (Value.table fields).Entry q other →
      dotted p = dotted q → p = q ∧ text = other) ∧
    (∀ written, written.Perm (flattenFields "" fields) → Table.ofList written = flat fields) ∧
    ∀ other, (Value.table fields).Reordered (.table other) → flat other = flat fields := by
  have hd : (Value.table fields).WellNamed :=
    ⟨hnames.elim id (fun ⟨_, hread⟩ => LawfulReader.distinct hread), hparts⟩
  have hwritten : ∀ written, written.Perm (flattenFields "" fields) →
      Table.ofList written = flat fields :=
    fun written h => Table.ofList_eq_of_perm (eq_of_mem_flattenFields hd) h
  refine ⟨fun key text => get?_flat_eq_some_iff hd,
    fun p q text other hp hq => hp.eq_of_dotted_eq hd hq, hwritten, fun other h => ?_⟩
  have hperm := h.flatten_perm ""
  rw [Value.flatten, Value.flatten] at hperm
  exact hwritten _ hperm.symm

def routes : List (String × Value) :=
  [("routes", .array [.scalar (.integer 8), .table [("to", .scalar (.text "x"))], .array []]),
   ("debug", .scalar (.boolean true))]

theorem flat_exact_routes :
    (Value.table routes).WellNamed ∧
    (flat routes).entries =
      [("debug", "true"), ("routes", "8"), ("routes.1.to", "x"), ("routes.2", "")] ∧
    (∃ p, (Value.table routes).Entry p "x" ∧ "routes.1.to" = dotted p) ∧
    flat routes.reverse = flat routes := by
  have hd : (Value.table routes).WellNamed := by
    simp [routes, wellNamed_table_iff, wellNamed_array_iff, wellNamed_scalar, DistinctNames,
      NamedByParts, Section.IsPart]
  obtain ⟨hexact, -, -, hwalked⟩ := flat_exact hd.parts (.inl hd.distinct)
  exact ⟨hd, by decide, (hexact "routes.1.to" "x").1 (by decide),
    hwalked _ (.fields (List.reverse_perm routes).symm)⟩

end LayeredConfig.Toml
