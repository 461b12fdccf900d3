import LayeredConfig.Proofs.Enumeration
import LayeredConfig.Proofs.Flattening
import LayeredConfig.Proofs.Folding

namespace LayeredConfig

theorem Leaf.infer_toString {n : Int} (h : Number.i64.contains n = true) :
    infer (toString n) = .integer n := by
  have hread := Number.readInteger_toString h
  -- No truth value reads as an integer, so none is the text of one.
  have hword : ∀ word, Number.readInteger Number.i64 10 word.toList = none → toString n ≠ word := by
    rintro word hnone rfl
    rw [hread] at hnone
    cases hnone
  rw [infer, if_neg (hword "true" (by decide)), if_neg (hword "false" (by decide)), hread]

namespace Tree

@[elab_as_elim]
theorem induct {motive : Tree → Prop} (leaf : ∀ v, motive (.leaf v))
    (node : ∀ l, (∀ e ∈ l, motive e.2) → motive (.node l)) : ∀ t, motive t
  | .leaf v => leaf v
  | .node l => node l (fun e _ => induct leaf node e.2)
decreasing_by
  have := List.sizeOf_lt_of_mem ‹e ∈ l›
  have : sizeOf e = 1 + sizeOf e.1 + sizeOf e.2 := rfl
  simp only [Tree.node.sizeOf_spec]
  omega

theorem spotAt_node_cons (l : List (String × Tree)) (name : String) (p : List String) :
    (node l).spotAt (name :: p) = (child? name l).bind (fun c => c.spotAt p) := by
  rw [spotAt, at?, children]
  cases child? name l <;> rfl

theorem eq_of_child?_eq {l m : List (String × Tree)} (hl : l.Pairwise (fun a b => a.1 < b.1))
    (hm : m.Pairwise (fun a b => a.1 < b.1)) (h : ∀ name, child? name l = child? name m) :
    l = m := by
  refine Table.eq_of_mem_iff hl hm fun e => ?_
  rw [← Table.lookup_eq_some_iff hl, ← Table.lookup_eq_some_iff hm]
  exact Eq.congr_left (h e.1)

theorem eq_of_spotAt_eq {t u : Tree} (ht : t.Ordered) (hu : u.Ordered)
    (h : ∀ p, t.spotAt p = u.spotAt p) : t = u := by
  induction t using induct generalizing u with
  | leaf v =>
    cases u with
    | leaf w => simpa [spotAt, at?, spot] using h []
    | node m => cases h []
  | node l ih =>
    cases u with
    | leaf w => cases h []
    | node m =>
      obtain ⟨hl, hbelow⟩ := ordered_node_iff.1 ht
      obtain ⟨hm, hbelow'⟩ := ordered_node_iff.1 hu
      refine congrArg node (eq_of_child?_eq hl hm fun name => ?_)
      have hhere := h [name]
      rw [spotAt_singleton, spotAt_singleton] at hhere
      cases hcl : child? name l with
      | none =>
        rw [hcl] at hhere
        exact (Option.map_eq_none_iff.1 hhere.symm).symm
      | some c =>
        cases hcm : child? name m with
        | none => simp [hcl, hcm] at hhere
        | some d =>
          have hspots : ∀ p, c.spotAt p = d.spotAt p := by
            intro p
            simpa only [spotAt_node_cons, hcl, hcm, Option.bind_some] using h (name :: p)
          have hmem : (name, c) ∈ l := (Table.lookup_eq_some_iff hl).1 hcl
          exact congrArg some (ih _ hmem (hbelow _ _ hcl) (hbelow' _ _ hcm) hspots)

theorem exists_leaf {t : Tree} (h : ∀ p, t.at? p ≠ some (node [])) :
    ∃ p v, t.at? p = some (leaf v) := by
  induction t using induct with
  | leaf v => exact ⟨[], v, rfl⟩
  | node l ih =>
    cases l with
    | nil => exact absurd rfl (h [])
    | cons e rest =>
      have hchild : child? e.1 (e :: rest) = some e.2 := if_pos rfl
      have hbelow : ∀ p, (node (e :: rest)).at? (e.1 :: p) = e.2.at? p := by
        intro p
        rw [at?, children, hchild, Option.bind_some]
      obtain ⟨p, v, hv⟩ := ih e List.mem_cons_self fun p hp => h (e.1 :: p) ((hbelow p).trans hp)
      exact ⟨e.1 :: p, v, (hbelow p).trans hv⟩

end Tree

namespace Section

open LayeredConfig.Tree

theorem ofProperties_empty (properties : Table String) :
    ofProperties "" properties = ⟨"", properties⟩ := by
  have hlead : Text.trimWhile isDot "".toList = [] := by decide
  simp only [ofProperties, hlead]
  have hbelow : ∀ e : String × String,
      (below? [] e.1.toList).map (fun rest => (String.ofList rest, e.2)) = some e := by
    intro e
    rw [below?, if_pos rfl, Option.map_some, String.ofList_toList]
  simp only [hbelow, List.filterMap_some, Table.ofList_entries]

structure EndsAtLeaves (s : Section) (t : Tree) : Prop where
  sound : ∀ key raw, s.get? key = some raw →
    t.at? (segments key) = some (leaf (Leaf.infer raw))
  complete : ∀ p v, t.at? p = some (leaf v) → ∃ key ∈ s.data.keys, segments key = p

variable {s : Section} {t : Tree}

theorem EndsAtLeaves.exists_leaf (h : s.EndsAtLeaves t) {key : String} (hkey : key ∈ s.data.keys) :
    ∃ v, t.at? (segments key) = some (leaf v) := by
  obtain ⟨raw, hraw⟩ := Option.isSome_iff_exists.1 (Table.mem_keys_iff.1 hkey)
  exact ⟨_, h.sound key raw hraw⟩

theorem EndsAtLeaves.spotAt_of_none (h : s.EndsAtLeaves t) {p : List String} (hp : p ≠ [])
    (hat : t.at? p = none) : s.toTree.spotAt p = none := by
  rw [spotAt_toTree_eq_none_iff s hp]
  rintro ⟨key, hkey, rest, hrest⟩
  obtain ⟨v, hv⟩ := h.exists_leaf hkey
  rw [← hrest, at?_append, hat] at hv
  cases hv

theorem EndsAtLeaves.spotAt_of_leaf (h : s.EndsAtLeaves t) {p : List String} (hp : p ≠ [])
    {v : Leaf} (hat : t.at? p = some (leaf v)) : s.toTree.spotAt p = some (.leaf v) := by
  have hlast : ¬∃ key ∈ s.data.keys, LeadsBeyond p key := by
    rintro ⟨key, hkey, ⟨rest, hrest⟩, hlonger⟩
    have hnonempty : rest ≠ [] := by
      rintro rfl
      exact hlonger (by simpa using hrest)
    have hbelow := spotAt_eq_none_iff.1 (spotAt_of_children_eq_nil (t := leaf v) rfl hnonempty)
    obtain ⟨w, hw⟩ := h.exists_leaf hkey
    rw [← hrest, at?_append, hat, Option.bind_some, hbelow] at hw
    cases hw
  rw [spotAt_toTree s hp, if_neg hlast]
  cases hleaf : lastLeaf p s.data.entries with
  | none => exact absurd (h.complete p v hat) ((lastLeaf_eq_none_iff s p).1 hleaf)
  | some spot =>
    cases spot with
    | node => exact absurd hleaf (lastLeaf_ne_node p _)
    | leaf w =>
      obtain ⟨key, raw, hkey, hraw, rfl⟩ := (lastLeaf_eq_leaf_iff s p w).1 hleaf
      have hsound := h.sound key raw hraw
      rw [hkey.ends, hat] at hsound
      cases hsound
      rfl

theorem EndsAtLeaves.spotAt_of_node (h : s.EndsAtLeaves t)
    (hinhabited : ∀ p, p ≠ [] → t.at? p ≠ some (node [])) {p : List String} (hp : p ≠ [])
    {l : List (String × Tree)} (hat : t.at? p = some (node l)) :
    s.toTree.spotAt p = some .node := by
  have hnone : ∀ q, (node l).at? q ≠ some (node []) := by
    intro q hq
    apply hinhabited (p ++ q) (by simp [hp])
    rw [at?_append, hat, Option.bind_some, hq]
  -- The key that ends at a leaf below the node leads beyond the node.
  obtain ⟨q, v, hv⟩ := Tree.exists_leaf hnone
  obtain ⟨key, hkey, hends⟩ := h.complete (p ++ q) v (by rw [at?_append, hat]; exact hv)
  rw [spotAt_toTree s hp, if_pos]
  refine ⟨key, hkey, hends ▸ List.prefix_append p q, ?_⟩
  rw [hends]
  intro heq
  have hnil : q = [] := by simpa using heq
  rw [hnil] at hv
  cases hv

theorem EndsAtLeaves.toTree_eq (h : s.EndsAtLeaves t) (ht : t.Ordered)
    (hroot : t.spotAt [] = some .node) (hinhabited : ∀ p, p ≠ [] → t.at? p ≠ some (node [])) :
    s.toTree = t := by
  refine eq_of_spotAt_eq s.toTree_ordered ht fun p => ?_
  by_cases hp : p = []
  · rw [hp, hroot]
    rfl
  · cases hat : t.at? p with
    | none => rw [h.spotAt_of_none hp hat, spotAt_eq_none_iff.2 hat]
    | some u =>
      cases u with
      | leaf v => rw [h.spotAt_of_leaf hp hat, spotAt_eq_leaf_iff.2 hat]
      | node l => rw [h.spotAt_of_node hinhabited hp hat, spotAt_eq_node_iff.2 ⟨l, hat⟩]

end Section

theorem Context.sectionOf_empty {c : Context} {mo : Moment} {properties : Table String}
    (h : c.properties.Gives mo properties) : (c.sectionOf "").Gives mo ⟨"", properties⟩ := by
  rw [← Section.ofProperties_empty]
  exact h.bind (Reading.gives_pure _)

namespace Toml

open LayeredConfig.Tree

def Scalar.leaf? : Scalar → Option Leaf
  | .text s => some (.text s)
  | .integer n => some (.integer n)
  | .boolean b => some (.boolean b)
  | .float _ => none
  | .moment _ => none

mutual

def Value.tree? : Value → Option Tree
  | .scalar s => s.leaf?.map leaf
  | .array _ => none
  | .table fields => (fieldTrees? fields).map node

def fieldTrees? : List (String × Value) → Option (List (String × Tree))
  | [] => some []
  | (name, v) :: rest =>
    v.tree?.bind (fun t => (fieldTrees? rest).map (fun l => setChild name t l))

end

theorem fieldTrees?_cons_eq_some_iff {name : String} {v : Value} {rest : List (String × Value)}
    {l : List (String × Tree)} : fieldTrees? ((name, v) :: rest) = some l ↔
      ∃ t l', v.tree? = some t ∧ fieldTrees? rest = some l' ∧ l = setChild name t l' := by
  simp only [fieldTrees?, Option.bind_eq_some_iff, Option.map_eq_some_iff]
  constructor
  · rintro ⟨t, ht, l', hl', rfl⟩
    exact ⟨t, l', ht, hl', rfl⟩
  · rintro ⟨t, l', ht, hl', rfl⟩
    exact ⟨t, ht, l', hl', rfl⟩

theorem exists_fieldTrees?_iff {fields : List (String × Value)} :
    (∃ l, fieldTrees? fields = some l) ↔ ∀ e ∈ fields, ∃ t, e.2.tree? = some t := by
  induction fields with
  | nil => exact iff_of_true ⟨[], rfl⟩ (by simp)
  | cons e rest ih =>
    rw [List.forall_mem_cons, ← ih]
    constructor
    · rintro ⟨l, h⟩
      obtain ⟨t, l', ht, hl', -⟩ := fieldTrees?_cons_eq_some_iff.1 h
      exact ⟨⟨t, ht⟩, l', hl'⟩
    · rintro ⟨⟨t, ht⟩, l', hl'⟩
      exact ⟨_, fieldTrees?_cons_eq_some_iff.2 ⟨t, l', ht, hl', rfl⟩⟩

theorem exists_tree? {v : Value} (harrays : ∀ p items, ¬At v p (.array items))
    (hscalars : ∀ p s, At v p (.scalar s) → ∃ l, s.leaf? = some l) : ∃ t, v.tree? = some t := by
  induction v using Value.induct with
  | scalar s =>
    obtain ⟨l, hl⟩ := hscalars [] s (.here _)
    exact ⟨leaf l, by rw [Value.tree?, hl, Option.map_some]⟩
  | array items => exact absurd (.here _) (harrays [] items)
  | table fields ih =>
    obtain ⟨l, hl⟩ := exists_fieldTrees?_iff.2 fun e he =>
      ih e he (fun p items h => harrays (.field e.1 :: p) items (.field he h))
        (fun p s h => hscalars (.field e.1 :: p) s (.field he h))
    exact ⟨node l, by rw [Value.tree?, hl, Option.map_some]⟩

theorem child?_fieldTrees? {fields : List (String × Value)} {l : List (String × Tree)}
    (hdistinct : DistinctNames fields) (h : fieldTrees? fields = some l) {name : String}
    {t : Tree} :
    child? name l = some t ↔ ∃ v, (name, v) ∈ fields ∧ v.tree? = some t := by
  induction fields generalizing l with
  | nil =>
    cases h
    simp [child?, Table.lookup]
  | cons e rest ih =>
    obtain ⟨first, w⟩ := e
    obtain ⟨u, l', hu, hl', rfl⟩ := fieldTrees?_cons_eq_some_iff.1 h
    obtain ⟨hfresh, hrest⟩ := List.nodup_cons.1 hdistinct
    rw [child?_setChild]
    by_cases hname : first = name
    · subst hname
      rw [if_pos rfl]
      constructor
      · rintro ⟨⟩
        exact ⟨w, List.mem_cons_self, hu⟩
      · rintro ⟨v, hv, ht⟩
        rcases List.mem_cons.1 hv with hv | hv
        · cases hv
          exact hu.symm.trans ht
        · exact absurd (List.mem_map_of_mem hv) hfresh
    · rw [if_neg hname, ih hrest hl']
      simp [Ne.symm hname]

theorem ordered_fieldTrees? {fields : List (String × Value)} {l : List (String × Tree)}
    (h : fieldTrees? fields = some l)
    (hbelow : ∀ e ∈ fields, ∀ t, e.2.tree? = some t → t.Ordered) : (node l).Ordered := by
  induction fields generalizing l with
  | nil =>
    cases h
    exact ordered_empty
  | cons e rest ih =>
    obtain ⟨t, l', ht, hl', rfl⟩ := fieldTrees?_cons_eq_some_iff.1 h
    obtain ⟨hfirst, hrest⟩ := List.forall_mem_cons.1 hbelow
    exact (ih hl' hrest).setChild _ (hfirst t ht)

theorem ordered_tree? {v : Value} {t : Tree} (h : v.tree? = some t) : t.Ordered := by
  induction v using Value.induct generalizing t with
  | scalar s =>
    obtain ⟨l, -, rfl⟩ := Option.map_eq_some_iff.1 h
    exact ordered_leaf l
  | array items => cases h
  | table fields ih =>
    obtain ⟨l, hl, rfl⟩ := Option.map_eq_some_iff.1 h
    exact ordered_fieldTrees? hl fun e he u hu => ih e he hu

theorem At.exists_names {v w : Value} {p : List Step} (h : At v p w) {t : Tree}
    (ht : v.tree? = some t) :
    ∃ (names : List String) (u : Tree), p = names.map Step.field ∧ w.tree? = some u := by
  induction h generalizing t with
  | here => exact ⟨[], t, rfl, ht⟩
  | @field fields name v w p hv _ ih =>
    obtain ⟨l, hl, -⟩ := Option.map_eq_some_iff.1 ht
    obtain ⟨u, hu⟩ := exists_fieldTrees?_iff.1 ⟨l, hl⟩ _ hv
    obtain ⟨names, x, rfl, hx⟩ := ih hu
    exact ⟨name :: names, x, rfl, hx⟩
  | element => cases ht

theorem at?_eq_some_iff {v : Value} {t : Tree} (hd : v.WellNamed) (h : v.tree? = some t)
    {names : List String} {u : Tree} :
    t.at? names = some u ↔ ∃ w, At v (names.map Step.field) w ∧ w.tree? = some u := by
  induction names generalizing v t with
  | nil =>
    rw [at?, Option.some.injEq, List.map_nil]
    constructor
    · rintro rfl
      exact ⟨v, .here v, h⟩
    · rintro ⟨w, hw, hu⟩
      obtain rfl := hw.eq_here
      exact Option.some.inj (h.symm.trans hu)
  | cons name names ih =>
    rw [at?, List.map_cons]
    constructor
    · intro hat
      obtain ⟨c, hc, hu⟩ := Option.bind_eq_some_iff.1 hat
      cases v with
      | scalar s =>
        obtain ⟨l, -, rfl⟩ := Option.map_eq_some_iff.1 h
        cases hc
      | array items => cases h
      | table fields =>
        obtain ⟨l, hl, rfl⟩ := Option.map_eq_some_iff.1 h
        obtain ⟨hdistinct, -, hbelow⟩ := wellNamed_table_iff.1 hd
        obtain ⟨x, hx, hxc⟩ := (child?_fieldTrees? hdistinct hl).1 hc
        obtain ⟨w, hw, hwu⟩ := (ih (hbelow _ hx) hxc).1 hu
        exact ⟨w, .field hx hw, hwu⟩
    · rintro ⟨w, hw, hu⟩
      cases hw with
      | @field fields _ x _ _ hx hw =>
        obtain ⟨l, hl, rfl⟩ := Option.map_eq_some_iff.1 h
        obtain ⟨hdistinct, -, hbelow⟩ := wellNamed_table_iff.1 hd
        obtain ⟨c, hc⟩ := exists_fieldTrees?_iff.1 ⟨l, hl⟩ _ hx
        refine Option.bind_eq_some_iff.2 ⟨c, (child?_fieldTrees? hdistinct hl).2 ⟨x, hx, hc⟩, ?_⟩
        exact (ih (hbelow _ hx) hc).2 ⟨w, hw, hu⟩

def Scalar.Kept : Scalar → Prop
  | .text s => Leaf.infer s = .text s
  | .integer n => Number.i64.contains n = true
  | .boolean _ => True
  | .float _ => False
  | .moment _ => False

instance : (s : Scalar) → Decidable s.Kept
  | .text s => inferInstanceAs (Decidable (Leaf.infer s = .text s))
  | .integer n => inferInstanceAs (Decidable (Number.i64.contains n = true))
  | .boolean _ => inferInstanceAs (Decidable True)
  | .float _ | .moment _ => inferInstanceAs (Decidable False)

theorem Scalar.Kept.leaf?_eq {s : Scalar} (h : s.Kept) :
    s.leaf? = some (Leaf.infer s.render) := by
  cases s with
  | text s => exact congrArg some (Eq.symm h)
  | integer n => exact congrArg some (Leaf.infer_toString h).symm
  | boolean b => cases b <;> rfl
  | float bits => exact h.elim
  | moment s => exact h.elim

/-- Nested tables of scalars that are kept, none of them empty but perhaps the outermost. -/
structure Value.Foldable (doc : Value) : Prop where
  named : doc.WellNamed
  tables : ∀ p items, ¬At doc p (.array items)
  inhabited : ∀ p, p ≠ [] → ¬At doc p (.table [])
  kept : ∀ p s, At doc p (.scalar s) → s.Kept

theorem Value.Foldable.exists_tree {doc : Value} (hd : doc.Foldable) : ∃ t, doc.tree? = some t :=
  exists_tree? hd.tables fun p s h => ⟨_, (hd.kept p s h).leaf?_eq⟩

theorem entry_iff_of_tree? {doc : Value} {t : Tree} (ht : doc.tree? = some t) {p : List Step}
    {text : String} : doc.Entry p text ↔ ∃ (names : List String) (s : Scalar),
      p = names.map Step.field ∧ At doc p (.scalar s) ∧ text = s.render := by
  constructor
  · intro h
    cases h with
    | scalar h =>
      obtain ⟨names, -, hp, -⟩ := h.exists_names ht
      exact ⟨names, _, hp, h, rfl⟩
    | array h =>
      obtain ⟨names, u, -, hu⟩ := h.exists_names ht
      cases hu
  · rintro ⟨names, s, rfl, h, rfl⟩
    refine .scalar h ?_
    rintro ⟨i, hi⟩
    simp at hi

theorem flat_endsAtLeaves {fields : List (String × Value)} (hd : (Value.table fields).Foldable)
    {t : Tree} (ht : (Value.table fields).tree? = some t) :
    (Section.mk "" (flat fields)).EndsAtLeaves t := by
  have hsegments : ∀ (names : List String) (v : Value),
      At (.table fields) (names.map Step.field) v →
        Section.segments (dotted (names.map Step.field)) = names := by
    intro names v hv
    rw [hv.segments_dotted hd.named, List.map_map]
    exact List.map_id names
  constructor
  · intro key raw hraw
    obtain ⟨p, hp, rfl⟩ := (get?_flat_eq_some_iff hd.named).1 hraw
    obtain ⟨names, s, rfl, hat, rfl⟩ := (entry_iff_of_tree? ht).1 hp
    rw [hsegments names _ hat, at?_eq_some_iff hd.named ht]
    refine ⟨_, hat, ?_⟩
    rw [Value.tree?, (hd.kept _ _ hat).leaf?_eq, Option.map_some]
  · intro names v hv
    obtain ⟨w, hw, hleaf⟩ := (at?_eq_some_iff hd.named ht).1 hv
    cases w with
    | scalar s =>
      refine ⟨dotted (names.map Step.field), ?_, hsegments names _ hw⟩
      rw [Table.mem_keys_iff, (get?_flat_eq_some_iff hd.named).2
        ⟨_, (entry_iff_of_tree? ht).2 ⟨names, s, rfl, hw, rfl⟩, rfl⟩]
      rfl
    | array items => cases hleaf
    | table below =>
      obtain ⟨l, -, hl⟩ := Option.map_eq_some_iff.1 hleaf
      cases hl

theorem at?_ne_empty {doc : Value} (hd : doc.Foldable) {t : Tree} (ht : doc.tree? = some t)
    {names : List String} (hnames : names ≠ []) : t.at? names ≠ some (node []) := by
  intro hempty
  obtain ⟨w, hw, hnode⟩ := (at?_eq_some_iff hd.named ht).1 hempty
  cases w with
  | scalar s =>
    obtain ⟨l, -, hl⟩ := Option.map_eq_some_iff.1 hnode
    cases hl
  | array items => cases hnode
  | table fields =>
    obtain ⟨l, hl, hnil⟩ := Option.map_eq_some_iff.1 hnode
    cases hnil
    cases fields with
    | nil => exact hd.inhabited _ (by simpa using hnames) hw
    | cons e rest =>
      obtain ⟨u, l, -, -, hset⟩ := fieldTrees?_cons_eq_some_iff.1 hl
      have hchild := child?_setChild e.1 u l e.1
      rw [← hset, if_pos rfl] at hchild
      cases hchild

theorem toTree_flat {fields : List (String × Value)} (hd : (Value.table fields).Foldable)
    {t : Tree} (ht : (Value.table fields).tree? = some t) :
    (Section.mk "" (flat fields)).toTree = t := by
  apply (flat_endsAtLeaves hd ht).toTree_eq (ordered_tree? ht)
  · obtain ⟨l, -, rfl⟩ := Option.map_eq_some_iff.1 ht
    rfl
  · exact fun names hnames => at?_ne_empty hd ht hnames

theorem properties_document (id : Nat) (name : String) (ordinal : Int) (path : Option String)
    (cell : Nat) (registry : Registry) (mo : Moment) :
    (Context.mk [Source.document id name ordinal path cell] [] registry).properties.Gives mo
      (mo.store.document cell) := by
  have htabled := Source.document_tabled (m := mo) id name ordinal path cell
  have hsteady := htabled.steady rfl
  have hgives := (Context.properties_steady (Context.single_steady hsteady registry)).gives
  have htable :
      (Context.mk [Source.document id name ordinal path cell] [] registry).properties.value mo =
        mo.store.document cell := by
    apply Table.ext_get?
    intro key
    rw [Context.properties_get?_single hsteady htabled.agrees, Source.document_text]
    rfl
  rw [htable] at hgives
  exact hgives

theorem sectionOf_document {fields : List (String × Value)} (hd : (Value.table fields).Foldable)
    (id : Nat) (name : String) (ordinal : Int) (path : Option String) (cell : Nat)
    (registry : Registry) (mo : Moment) (hcell : mo.store.document cell = flat fields) :
    ∃ t s, (Value.table fields).tree? = some t ∧ s.toTree = t ∧
      ((Context.mk [Source.document id name ordinal path cell] [] registry).sectionOf "").Gives
        mo s := by
  obtain ⟨t, ht⟩ := hd.exists_tree
  have hsection :=
    Context.sectionOf_empty (properties_document id name ordinal path cell registry mo)
  rw [hcell] at hsection
  exact ⟨t, _, ht, toTree_flat hd ht, hsection⟩

def limits : List (String × Value) :=
  [("range", .table [("min", .scalar (.integer (-9223372036854775808))),
    ("max", .scalar (.integer 9223372036854775807))]),
   ("name", .scalar (.text "strata")), ("debug", .scalar (.boolean true))]

theorem sectionOf_document_limits :
    (Value.table limits).Foldable ∧
    ∃ s, ((Context.mk [Source.document 0 "toml" 100 none 0] [] (.empty 0)).sectionOf "").Gives
        ⟨{ Store.empty with documents := [flat limits] }, []⟩ s ∧
      s.toTree = node [("debug", leaf (.boolean true)), ("name", leaf (.text "strata")),
        ("range", node [("max", leaf (.integer 9223372036854775807)),
          ("min", leaf (.integer (-9223372036854775808)))])] := by
  have hd : (Value.table limits).Foldable := by
    constructor
    · simp [limits, wellNamed_table_iff, wellNamed_scalar, DistinctNames, NamedByParts,
        Section.IsPart]
    · simp [limits, at_table_iff, at_scalar_iff]
    · simp [limits, at_table_iff, at_scalar_iff]
    · intro p s h
      have hs : s = .integer (-9223372036854775808) ∨ s = .integer 9223372036854775807 ∨
          s = .text "strata" ∨ s = .boolean true := by
        simp [limits, at_table_iff, at_scalar_iff] at h
        grind
      rcases hs with rfl | rfl | rfl | rfl <;> decide
  obtain ⟨t, s, ht, rfl, hs⟩ := sectionOf_document hd 0 "toml" 100 none 0 (.empty 0)
    ⟨{ Store.empty with documents := [flat limits] }, []⟩ rfl
  exact ⟨hd, s, hs, (Option.some.inj ht).symm⟩

end Toml

end LayeredConfig
