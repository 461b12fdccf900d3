import LayeredConfig.Section.Basic

namespace LayeredConfig

namespace Tree

inductive Spot where
  | leaf (l : Leaf)
  | node
deriving DecidableEq

def spot : Tree → Spot
  | leaf l => .leaf l
  | node _ => .node

def spotAt (t : Tree) (p : List String) : Option Spot := (t.at? p).map spot

theorem spotAt_eq_none_iff {t : Tree} {p : List String} : t.spotAt p = none ↔ t.at? p = none :=
  Option.map_eq_none_iff

theorem spotAt_eq_leaf_iff {t : Tree} {p : List String} {v : Leaf} :
    t.spotAt p = some (.leaf v) ↔ t.at? p = some (leaf v) := by
  rw [spotAt]
  rcases t.at? p with _ | ⟨w⟩ | ⟨l⟩ <;> simp [spot]

theorem spotAt_eq_node_iff {t : Tree} {p : List String} :
    t.spotAt p = some .node ↔ ∃ l, t.at? p = some (node l) := by
  rw [spotAt]
  rcases t.at? p with _ | ⟨w⟩ | ⟨l⟩ <;> simp [spot]

theorem at?_append (t : Tree) (p q : List String) :
    t.at? (p ++ q) = (t.at? p).bind (fun c => c.at? q) := by
  induction p generalizing t with
  | nil => rfl
  | cons name p ih =>
    rw [List.cons_append, at?, at?]
    cases child? name t.children with
    | none => rfl
    | some c => exact ih c

theorem spotAt_of_children_eq_nil {t : Tree} (h : t.children = []) {p : List String} (hp : p ≠ []) :
    t.spotAt p = none := by
  obtain ⟨name, p, rfl⟩ := List.exists_cons_of_ne_nil hp
  rw [spotAt, at?, h]
  rfl

def childrenOf (name : String) (l : List (String × Tree)) : List (String × Tree) :=
  match child? name l with
  | some (node children) => children
  | _ => []

theorem child?_setChild (name : String) (t : Tree) (l : List (String × Tree)) (x : String) :
    child? x (setChild name t l) = if name = x then some t else child? x l :=
  Table.lookup_insertEntry name t l x

theorem spotAt_setChild (name : String) (t : Tree) (l : List (String × Tree)) (x : String)
    (p : List String) : (node (setChild name t l)).spotAt (x :: p) =
      if name = x then t.spotAt p else (node l).spotAt (x :: p) := by
  simp only [spotAt, at?, children, child?_setChild]
  split <;> rfl

theorem spotAt_singleton (l : List (String × Tree)) (x : String) :
    (node l).spotAt [x] = (child? x l).map spot := by
  rw [spotAt, at?, children]
  cases child? x l <;> rfl

theorem spotAt_cons (l : List (String × Tree)) (x : String) {p : List String} (hp : p ≠ []) :
    (node l).spotAt (x :: p) = (node (childrenOf x l)).spotAt p := by
  obtain ⟨y, p, rfl⟩ := List.exists_cons_of_ne_nil hp
  rw [spotAt, at?, children, childrenOf]
  rcases child? x l with _ | ⟨v⟩ | ⟨below⟩ <;> rfl

theorem childrenOf_eq_nil {name : String} {l : List (String × Tree)}
    (h : (node l).spotAt [name] ≠ some .node) : childrenOf name l = [] := by
  rw [spotAt_singleton] at h
  rw [childrenOf]
  rcases hc : child? name l with _ | ⟨v⟩ | ⟨below⟩
  · rfl
  · rfl
  · rw [hc] at h
    exact absurd rfl h

theorem insertPath_singleton (l : List (String × Tree)) (name : String) (v : Leaf) :
    insertPath l [name] v =
      if (node l).spotAt [name] = some .node then l else setChild name (leaf v) l := by
  rw [insertPath, spotAt_singleton]
  rcases child? name l with _ | ⟨w⟩ | ⟨below⟩ <;> simp [spot]

theorem insertPath_cons (l : List (String × Tree)) (name : String) {rest : List String}
    (hrest : rest ≠ []) (v : Leaf) : insertPath l (name :: rest) v =
      setChild name (node (insertPath (childrenOf name l) rest v)) l := by
  obtain ⟨next, rest, rfl⟩ := List.exists_cons_of_ne_nil hrest
  rcases hc : child? name l with _ | ⟨w⟩ | ⟨below⟩ <;> simp [insertPath, childrenOf, hc]

def Spot.put (q : List String) (v : Leaf) (p : List String) (s : Option Spot) : Option Spot :=
  -- What stands at a path once a leaf is put at another, from what stood there: a node stays, and
  -- there are nodes on the way to the leaf.
  if p = q then if s = some .node then some .node else some (.leaf v)
  else if p <+: q then some .node
  else s

theorem Spot.put_eq_node_iff {q : List String} {v : Leaf} {p : List String} {s : Option Spot} :
    put q v p s = some .node ↔ (p <+: q ∧ p ≠ q) ∨ s = some .node := by
  rw [put]
  by_cases hpq : p = q
  · by_cases hs : s = some .node <;> simp [hpq, hs]
  · by_cases hlead : p <+: q <;> simp [hpq, hlead]

theorem Spot.put_of_ne_node {q : List String} {v : Leaf} {p : List String} {s : Option Spot}
    (h : put q v p s ≠ some .node) :
    put q v p s = (if q = p then some (.leaf v) else none).or s := by
  rw [Ne, put_eq_node_iff, not_or] at h
  rw [put, if_neg h.2]
  by_cases hpq : p = q
  · rw [if_pos hpq, if_pos hpq.symm, Option.some_or]
  · rw [if_neg hpq, if_neg (fun hlead => h.1 ⟨hlead, hpq⟩), if_neg (Ne.symm hpq),
      Option.none_or]

theorem spotAt_insertPath_of_ne (l : List (String × Tree)) {name x : String} (hx : name ≠ x)
    (rest : List String) (v : Leaf) (p : List String) :
    (node (insertPath l (name :: rest) v)).spotAt (x :: p) = (node l).spotAt (x :: p) := by
  by_cases hrest : rest = []
  · rw [hrest, insertPath_singleton]
    split
    · rfl
    · rw [spotAt_setChild, if_neg hx]
  · rw [insertPath_cons l name hrest, spotAt_setChild, if_neg hx]

theorem spotAt_insertPath_singleton (l : List (String × Tree)) (name : String) (v : Leaf)
    (p : List String) : (node (insertPath l [name] v)).spotAt (name :: p) =
      Spot.put [name] v (name :: p) ((node l).spotAt (name :: p)) := by
  rw [insertPath_singleton, Spot.put]
  by_cases hpath : p = []
  · rw [hpath, if_pos rfl]
    split
    · next hnode => exact hnode
    · rw [spotAt_setChild, if_pos rfl]
      rfl
  · have hlonger : ¬name :: p = [name] ∧ ¬name :: p <+: [name] := by simp [hpath]
    rw [if_neg hlonger.1, if_neg hlonger.2]
    split
    · rfl
    · next hnode =>
      rw [spotAt_setChild, if_pos rfl, spotAt_cons l name hpath, childrenOf_eq_nil hnode,
        spotAt_of_children_eq_nil rfl hpath, spotAt_of_children_eq_nil rfl hpath]

theorem spotAt_insertPath (l : List (String × Tree)) (q : List String) (v : Leaf) {p : List String}
    (hp : p ≠ []) :
    (node (insertPath l q v)).spotAt p = Spot.put q v p ((node l).spotAt p) := by
  induction q generalizing l p with
  | nil => simp [insertPath, Spot.put, hp]
  | cons name rest ih =>
    obtain ⟨x, p, rfl⟩ := List.exists_cons_of_ne_nil hp
    by_cases hx : name = x
    · subst hx
      by_cases hrest : rest = []
      · rw [hrest, spotAt_insertPath_singleton]
      · -- The child of that name is a node now, below which the rest of the way is.
        rw [insertPath_cons l name hrest, spotAt_setChild, if_pos rfl]
        by_cases hpath : p = []
        · have hway : (node (insertPath (childrenOf name l) rest v)).spotAt [] = some .node := rfl
          rw [hpath, hway, Spot.put, if_neg (by simp [Ne.symm hrest]), if_pos (by simp)]
        · rw [ih (childrenOf name l) hpath, spotAt_cons l name hpath]
          simp only [Spot.put, List.cons.injEq, true_and, List.cons_prefix_cons]
    · rw [spotAt_insertPath_of_ne l hx, Spot.put, if_neg (by simp [Ne.symm hx]),
        if_neg (by simp [List.cons_prefix_cons, Ne.symm hx])]

def Ordered (t : Tree) : Prop :=
  ∀ p l, t.at? p = some (node l) → l.Pairwise (fun a b => a.1 < b.1)

theorem ordered_leaf (v : Leaf) : (leaf v).Ordered := by
  intro p l h
  cases p with
  | nil => simp [at?] at h
  | cons name p => simp [at?, children, child?, Table.lookup] at h

theorem ordered_node_iff {l : List (String × Tree)} : (node l).Ordered ↔
    l.Pairwise (fun a b => a.1 < b.1) ∧ ∀ name t, child? name l = some t → t.Ordered := by
  constructor
  · intro h
    refine ⟨h [] l rfl, fun name t ht p m hm => h (name :: p) m ?_⟩
    rw [at?, children, ht]
    exact hm
  · rintro ⟨hsorted, hbelow⟩ p m hm
    cases p with
    | nil =>
      simp only [at?, Option.some.injEq, node.injEq] at hm
      exact hm ▸ hsorted
    | cons name p =>
      obtain ⟨t, ht, hat⟩ := Option.bind_eq_some_iff.1 hm
      exact hbelow name t ht p m hat

theorem ordered_empty : (node []).Ordered :=
  ordered_node_iff.2 ⟨List.Pairwise.nil, fun _ _ h => nomatch h⟩

theorem Ordered.setChild {l : List (String × Tree)} (hl : (node l).Ordered) (name : String)
    {t : Tree} (ht : t.Ordered) : (node (setChild name t l)).Ordered := by
  obtain ⟨hsorted, hbelow⟩ := ordered_node_iff.1 hl
  refine ordered_node_iff.2 ⟨Table.pairwise_insertEntry name t hsorted, fun x c hc => ?_⟩
  rw [child?_setChild] at hc
  split at hc
  · cases hc
    exact ht
  · exact hbelow x c hc

theorem Ordered.childrenOf {l : List (String × Tree)} (hl : (node l).Ordered) (name : String) :
    (node (childrenOf name l)).Ordered := by
  rw [Tree.childrenOf]
  rcases hc : child? name l with _ | ⟨v⟩ | ⟨below⟩
  · exact ordered_empty
  · exact ordered_empty
  · exact (ordered_node_iff.1 hl).2 name _ hc

theorem Ordered.insertPath {l : List (String × Tree)} (hl : (node l).Ordered) (q : List String)
    (v : Leaf) : (node (insertPath l q v)).Ordered := by
  induction q generalizing l with
  | nil => exact hl
  | cons name rest ih =>
    by_cases hrest : rest = []
    · subst hrest
      rw [insertPath_singleton]
      split
      · exact hl
      · exact hl.setChild name (ordered_leaf v)
    · rw [insertPath_cons l name hrest]
      exact hl.setChild name (ih (hl.childrenOf name))

end Tree

namespace Section

open LayeredConfig.Tree

def LeadsBeyond (p : List String) (key : String) : Prop := p <+: segments key ∧ p ≠ segments key

instance (p : List String) (key : String) : Decidable (LeadsBeyond p key) :=
  inferInstanceAs (Decidable (_ ∧ _))

structure EndsLast (s : Section) (p : List String) (key : String) : Prop where
  held : key ∈ s.data.keys
  ends : segments key = p
  greatest : ∀ k ∈ s.data.keys, segments k = p → k ≤ key

def lastLeaf (p : List String) (es : List (String × String)) : Option Spot :=
  (es.filter (fun e => segments e.1 = p)).getLast?.map (fun e => .leaf (Leaf.infer e.2))

theorem lastLeaf_cons (p : List String) (e : String × String) (es : List (String × String)) :
    lastLeaf p (e :: es) = (lastLeaf p es).or
      (if segments e.1 = p then some (.leaf (Leaf.infer e.2)) else none) := by
  by_cases he : segments e.1 = p
  · rw [lastLeaf, List.filter_cons_of_pos (by simpa using he), List.getLast?_cons, if_pos he,
      lastLeaf]
    cases (es.filter (fun e => segments e.1 = p)).getLast? <;> rfl
  · rw [lastLeaf, List.filter_cons_of_neg (by simpa using he), if_neg he, Option.or_none, lastLeaf]

theorem spotAt_foldEntries (es : List (String × String)) (l : List (String × Tree))
    {p : List String} (hp : p ≠ []) : (node (foldEntries l es)).spotAt p =
      if (∃ e ∈ es, LeadsBeyond p e.1) ∨ (node l).spotAt p = some .node then some .node
      else (lastLeaf p es).or ((node l).spotAt p) := by
  induction es generalizing l with
  | nil =>
    simp only [foldEntries, List.not_mem_nil, false_and, exists_false, false_or]
    split
    · next h => exact h
    · rfl
  | cons e es ih =>
    have hput := spotAt_insertPath l (segments e.1) (Leaf.infer e.2) hp
    have hnode : (node (insertPath l (segments e.1) (Leaf.infer e.2))).spotAt p = some .node ↔
        LeadsBeyond p e.1 ∨ (node l).spotAt p = some .node := by
      rw [hput, Spot.put_eq_node_iff, LeadsBeyond]
    have hexists : ((∃ x ∈ es, LeadsBeyond p x.1) ∨
          (node (insertPath l (segments e.1) (Leaf.infer e.2))).spotAt p = some .node) ↔
        ((∃ x ∈ e :: es, LeadsBeyond p x.1) ∨ (node l).spotAt p = some .node) := by
      simp only [hnode, List.mem_cons, exists_eq_or_imp]
      exact or_left_comm.trans or_assoc.symm
    -- Nodes are never taken back, so that a leaf is from the last key unless a node came or was
    -- there.
    rw [foldEntries, ih]
    by_cases hbeyond : (∃ x ∈ e :: es, LeadsBeyond p x.1) ∨ (node l).spotAt p = some .node
    · rw [if_pos (hexists.2 hbeyond), if_pos hbeyond]
    · have hleaf := Spot.put_of_ne_node (fun h => hbeyond (hexists.1 (.inr (hput.trans h))))
      rw [if_neg (fun h => hbeyond (hexists.1 h)), if_neg hbeyond, hput, hleaf, lastLeaf_cons,
        Option.or_assoc]

theorem toTree_ordered (s : Section) : s.toTree.Ordered := by
  have hfold : ∀ (es : List (String × String)) (l : List (String × Tree)),
      (node l).Ordered → (node (foldEntries l es)).Ordered := by
    intro es
    induction es with
    | nil => exact fun l hl => hl
    | cons e es ih => exact fun l hl => ih _ (hl.insertPath _ _)
  exact hfold _ _ ordered_empty

theorem foldEntries_filter (es : List (String × String)) (l : List (String × Tree)) :
    foldEntries l (es.filter (fun e => segments e.1 ≠ [])) = foldEntries l es := by
  induction es generalizing l with
  | nil => rfl
  | cons e es ih =>
    by_cases he : segments e.1 = []
    · rw [List.filter_cons_of_neg (by simp [he]), ih, foldEntries, he, insertPath]
    · rw [List.filter_cons_of_pos (by simp [he]), foldEntries, ih, foldEntries]

theorem lastLeaf_eq_leaf_iff (s : Section) (p : List String) (v : Leaf) :
    lastLeaf p s.data.entries = some (.leaf v) ↔
      ∃ key raw, s.EndsLast p key ∧ s.get? key = some raw ∧ v = Leaf.infer raw := by
  have hsorted := s.data.sorted.filter (fun e => segments e.1 = p)
  constructor
  · intro h
    obtain ⟨⟨key, raw⟩, hlast, hv⟩ := Option.map_eq_some_iff.1 h
    obtain ⟨hmem, hgreatest⟩ := (Table.getLast?_eq_some_iff hsorted).1 hlast
    obtain ⟨hmem, hends⟩ := List.mem_filter.1 hmem
    refine ⟨key, raw, ⟨List.mem_map_of_mem hmem, by simpa using hends, ?_⟩,
      Table.mem_entries_iff.1 hmem, by simpa using hv.symm⟩
    intro k hk hkp
    obtain ⟨e, he, rfl⟩ := List.mem_map.1 hk
    exact hgreatest e (List.mem_filter.2 ⟨he, by simpa using hkp⟩)
  · rintro ⟨key, raw, hlast, hraw, rfl⟩
    refine Option.map_eq_some_iff.2 ⟨(key, raw), (Table.getLast?_eq_some_iff hsorted).2 ?_, rfl⟩
    refine ⟨List.mem_filter.2 ⟨Table.mem_entries_iff.2 hraw, by simpa using hlast.ends⟩, ?_⟩
    intro e he
    obtain ⟨hmem, hends⟩ := List.mem_filter.1 he
    exact hlast.greatest e.1 (List.mem_map_of_mem hmem) (by simpa using hends)

theorem lastLeaf_eq_none_iff (s : Section) (p : List String) :
    lastLeaf p s.data.entries = none ↔ ¬∃ key ∈ s.data.keys, segments key = p := by
  simp [lastLeaf, Table.keys]

theorem lastLeaf_ne_node (p : List String) (es : List (String × String)) :
    lastLeaf p es ≠ some .node := by
  simp [lastLeaf]

theorem spotAt_toTree (s : Section) {p : List String} (hp : p ≠ []) : s.toTree.spotAt p =
    if ∃ key ∈ s.data.keys, LeadsBeyond p key then some .node else lastLeaf p s.data.entries := by
  have hkeys : (∃ key ∈ s.data.keys, LeadsBeyond p key) ↔
      ∃ e ∈ s.data.entries, LeadsBeyond p e.1 := by
    constructor
    · rintro ⟨key, hkey, hbeyond⟩
      obtain ⟨e, he, rfl⟩ := List.mem_map.1 hkey
      exact ⟨e, he, hbeyond⟩
    · rintro ⟨e, he, hbeyond⟩
      exact ⟨e.1, List.mem_map_of_mem he, hbeyond⟩
  rw [toTree, spotAt_foldEntries s.data.entries [] hp, spotAt_of_children_eq_nil rfl hp,
    Option.or_none]
  simp only [hkeys, reduceCtorEq, or_false]

theorem spotAt_toTree_eq_none_iff (s : Section) {p : List String} (hp : p ≠ []) :
    s.toTree.spotAt p = none ↔ ¬∃ key ∈ s.data.keys, p <+: segments key := by
  rw [spotAt_toTree s hp]
  split
  · next hbeyond =>
    obtain ⟨key, hkey, hlead, -⟩ := hbeyond
    simpa using ⟨key, hkey, hlead⟩
  · next hbeyond =>
    rw [lastLeaf_eq_none_iff]
    refine not_congr ⟨?_, ?_⟩
    · rintro ⟨key, hkey, hends⟩
      exact ⟨key, hkey, hends ▸ List.prefix_refl _⟩
    · rintro ⟨key, hkey, hlead⟩
      refine ⟨key, hkey, Decidable.byContradiction fun hne => ?_⟩
      exact hbeyond ⟨key, hkey, hlead, Ne.symm hne⟩

theorem at?_toTree_ne_empty (s : Section) {p : List String} (hp : p ≠ []) :
    s.toTree.at? p ≠ some (node []) := by
  intro hempty
  have hnode := spotAt_eq_node_iff.2 ⟨[], hempty⟩
  rw [spotAt_toTree s hp] at hnode
  split at hnode
  · next hbeyond =>
    obtain ⟨key, hkey, ⟨rest, hrest⟩, hne⟩ := hbeyond
    cases rest with
    | nil => exact hne (by rw [← hrest, List.append_nil])
    | cons name rest =>
      -- The key that leads on has put something at the next name of its path.
      have hway : p ++ [name] <+: segments key := ⟨rest, by simpa using hrest⟩
      have hnone : s.toTree.spotAt (p ++ [name]) = none := by
        rw [spotAt_eq_none_iff, at?_append, hempty]
        rfl
      exact (spotAt_toTree_eq_none_iff s (by simp)).1 hnone ⟨key, hkey, hway⟩
  · exact lastLeaf_ne_node p _ hnode

/-- What folding makes of a section. Where a key leads beyond a path there is a node; else there is
the leaf of the greatest key that ends there, as far as one does. No node below the root is empty,
children stand in the order of their names, and keys of empty parts only might as well be left
out. -/
theorem toTree_exact (s : Section) :
    (∀ name rest,
      ((∃ l, s.toTree.at? (name :: rest) = some (node l)) ↔
        ∃ key ∈ s.data.keys, LeadsBeyond (name :: rest) key) ∧
      (∀ v, s.toTree.at? (name :: rest) = some (leaf v) ↔
        (¬∃ key ∈ s.data.keys, LeadsBeyond (name :: rest) key) ∧
        ∃ key raw, s.EndsLast (name :: rest) key ∧ s.get? key = some raw ∧ v = Leaf.infer raw) ∧
      (s.toTree.at? (name :: rest) = none ↔
        (¬∃ key ∈ s.data.keys, LeadsBeyond (name :: rest) key) ∧
        ¬∃ key ∈ s.data.keys, segments key = name :: rest) ∧
      s.toTree.at? (name :: rest) ≠ some (node [])) ∧
    s.toTree.Ordered ∧
    s.toTree = toTree ⟨s.lead, s.data.filter (fun key _ => segments key ≠ [])⟩ := by
  refine ⟨fun name rest => ?_, s.toTree_ordered, ?_⟩
  · have hp : name :: rest ≠ [] := List.cons_ne_nil name rest
    have hspot := s.spotAt_toTree hp
    refine ⟨?_, fun v => ?_, ?_, s.at?_toTree_ne_empty hp⟩
    · rw [← spotAt_eq_node_iff, hspot]
      split
      · next hbeyond => simpa using hbeyond
      · next hbeyond => simpa [lastLeaf_ne_node] using hbeyond
    · rw [← spotAt_eq_leaf_iff, hspot]
      split
      · next hbeyond => simp [hbeyond]
      · next hbeyond => rw [lastLeaf_eq_leaf_iff, and_iff_right hbeyond]
    · rw [← spotAt_eq_none_iff, hspot]
      split
      · next hbeyond => simp [hbeyond]
      · next hbeyond => rw [lastLeaf_eq_none_iff, and_iff_right hbeyond]
  · exact congrArg node (foldEntries_filter s.data.entries []).symm

example : (Section.mk "" (Table.ofList [("a", "x"), (".a..b", "1"), ("a.b", "true")])).toTree.spotAt
    ["a", "b"] = some (.leaf (.boolean true)) := by decide

end Section

end LayeredConfig
