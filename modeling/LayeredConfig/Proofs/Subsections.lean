import LayeredConfig.Proofs.Nesting

namespace LayeredConfig

namespace Section

open LayeredConfig.Tree

def Whole (key : String) : Prop := [] ∉ Text.splitAt '.' key.toList

instance (key : String) : Decidable (Whole key) := inferInstanceAs (Decidable (¬_))

theorem splitAt_dotted (start rest : String) :
    Text.splitAt '.' (start ++ "." ++ rest).toList =
      Text.splitAt '.' start.toList ++ Text.splitAt '.' rest.toList := by
  rw [← Text.splitAt_append]
  simp

theorem segments_dotted (start rest : String) :
    segments (start ++ "." ++ rest) = segments start ++ segments rest := by
  rw [segments, splitAt_dotted, List.filter_append, List.map_append]
  rfl

theorem Whole.of_dotted {start rest : String} (h : Whole (start ++ "." ++ rest)) : Whole rest := by
  rw [Whole, splitAt_dotted, List.mem_append, not_or] at h
  exact h.2

theorem Whole.map_segments {key : String} (h : Whole key) :
    (segments key).map String.toList = Text.splitAt '.' key.toList := by
  have hkept : (Text.splitAt '.' key.toList).filter (· ≠ []) = Text.splitAt '.' key.toList := by
    rw [List.filter_eq_self]
    intro part hpart
    exact decide_eq_true (fun hnil => h (hnil ▸ hpart))
  rw [segments, hkept, List.map_map]
  simp [Function.comp_def]

theorem Whole.intercalate_segments {key : String} (h : Whole key) :
    ".".intercalate (segments key) = key := by
  apply String.toList_injective
  rw [String.toList_intercalate, h.map_segments, Text.splitAt_eq_splitOn]
  exact List.intercalate_splitOn '.'

theorem Whole.eq_of_segments_eq {key other : String} (h : Whole key) (ho : Whole other)
    (hsegments : segments key = segments other) : key = other := by
  rw [← h.intercalate_segments, hsegments, ho.intercalate_segments]

theorem Whole.exists_below {key : String} (h : Whole key) {path rest : List String}
    (hpath : path ≠ []) (hrest : rest ≠ []) (hsegments : segments key = path ++ rest) :
    ∃ below, key = ".".intercalate path ++ "." ++ below ∧ Whole below := by
  have hkey : key = ".".intercalate path ++ "." ++ ".".intercalate rest := by
    rw [← String.intercalate_append_of_ne_nil hpath hrest, ← hsegments, h.intercalate_segments]
  exact ⟨_, hkey, (hkey ▸ h).of_dotted⟩

theorem lastLeaf_eq_leaf_iff_of_whole {s : Section} (hs : ∀ key ∈ s.data.keys, Whole key)
    (p : List String) (v : Leaf) :
    lastLeaf p s.data.entries = some (.leaf v) ↔
      ∃ raw, (∃ key, s.get? key = some raw ∧ segments key = p) ∧ v = Leaf.infer raw := by
  rw [lastLeaf_eq_leaf_iff]
  constructor
  · rintro ⟨key, raw, hlast, hraw, hv⟩
    exact ⟨raw, ⟨key, hraw, hlast.ends⟩, hv⟩
  · rintro ⟨raw, ⟨key, hraw, hends⟩, hv⟩
    have hkey : key ∈ s.data.keys := Table.mem_keys_iff.2 (Option.isSome_of_eq_some hraw)
    -- The paths of whole keys tell the keys apart, so that there is no other key to end last.
    refine ⟨key, raw, ⟨hkey, hends, fun other hother hp => ?_⟩, hraw, hv⟩
    obtain rfl := (hs other hother).eq_of_segments_eq (hs key hkey) (hp.trans hends.symm)
    exact String.le_refl _

theorem below?_eq_some_iff {start key rest : List Char} (hstart : start ≠ []) :
    below? start key = some rest ↔ key = start ++ '.' :: rest := by
  rw [below?, if_neg hstart, Option.bind_eq_some_iff]
  simp [Text.stripStart?_eq_some_iff]

theorem get?_ofProperties (properties : Table String) {key start : String}
    (hstart : Text.trimWhile isDot key.toList = start.toList) (hne : start ≠ "") (rest : String) :
    (ofProperties key properties).get? rest = properties.get? (start ++ "." ++ rest) := by
  have hlead : start.toList ≠ [] := by simpa using hne
  have hmem : ∀ k v, (k, v) ∈ properties.entries.filterMap (fun e =>
      (below? start.toList e.1.toList).map (fun rest => (String.ofList rest, e.2))) ↔
      properties.get? (start ++ "." ++ k) = some v := by
    intro k v
    rw [← Table.mem_entries_iff]
    simp only [List.mem_filterMap, Option.map_eq_some_iff, below?_eq_some_iff hlead,
      Prod.mk.injEq]
    constructor
    · rintro ⟨⟨long, w⟩, he, below, hlong, rfl, rfl⟩
      have hsame : start ++ "." ++ String.ofList below = long := by
        apply String.toList_injective
        simp [hlong]
      rwa [hsame]
    · intro he
      exact ⟨_, he, k.toList, by simp, by simp, rfl⟩
  rw [get?, ofProperties, hstart]
  apply Option.ext
  intro v
  rw [Table.get?_ofList_eq_some_iff, hmem]
  intro k v w hv hw
  exact Option.some.inj (((hmem k v).1 hv).symm.trans ((hmem k w).1 hw))

theorem mem_keys_iff {s : Section} {key : String} :
    key ∈ s.data.keys ↔ ∃ raw, s.get? key = some raw :=
  Table.mem_keys_iff.trans Option.isSome_iff_exists

structure PartOf (s whole : Section) (path : List String) : Prop where
  path_ne_nil : path ≠ []
  parts : ∀ name ∈ path, IsPart name
  wholeKeys : ∀ key ∈ whole.data.keys, Whole key
  get? : ∀ rest, s.get? rest = whole.get? (".".intercalate path ++ "." ++ rest)

variable {s whole : Section} {path : List String}

theorem PartOf.segments_below (h : s.PartOf whole path) (rest : String) :
    segments (".".intercalate path ++ "." ++ rest) = path ++ segments rest := by
  rw [segments_dotted, segments_intercalate h.parts]

theorem PartOf.keys (h : s.PartOf whole path) : ∀ rest ∈ s.data.keys, Whole rest := by
  intro rest hrest
  obtain ⟨raw, hraw⟩ := mem_keys_iff.1 hrest
  rw [h.get?] at hraw
  exact (h.wholeKeys _ (mem_keys_iff.2 ⟨raw, hraw⟩)).of_dotted

theorem PartOf.ends_iff (h : s.PartOf whole path) {q : List String} (hq : q ≠ []) (raw : String) :
    (∃ rest, s.get? rest = some raw ∧ segments rest = q) ↔
      ∃ key, whole.get? key = some raw ∧ segments key = path ++ q := by
  constructor
  · rintro ⟨rest, hraw, rfl⟩
    rw [h.get?] at hraw
    exact ⟨_, hraw, h.segments_below rest⟩
  · rintro ⟨key, hraw, hends⟩
    have hkey := h.wholeKeys key (mem_keys_iff.2 ⟨raw, hraw⟩)
    obtain ⟨rest, rfl, -⟩ := hkey.exists_below h.path_ne_nil hq hends
    rw [h.segments_below] at hends
    exact ⟨rest, by rw [h.get?, hraw], List.append_cancel_left hends⟩

theorem PartOf.leadsBeyond_iff (h : s.PartOf whole path) {q : List String} (hq : q ≠ []) :
    (∃ rest ∈ s.data.keys, LeadsBeyond q rest) ↔
      ∃ key ∈ whole.data.keys, LeadsBeyond (path ++ q) key := by
  have hlonger : ∀ t : Section, ∀ p, (∃ key ∈ t.data.keys, LeadsBeyond p key) ↔
      ∃ raw r, r ≠ [] ∧ ∃ key, t.get? key = some raw ∧ segments key = p ++ r := by
    intro t p
    constructor
    · rintro ⟨key, hkey, ⟨r, hr⟩, hne⟩
      obtain ⟨raw, hraw⟩ := mem_keys_iff.1 hkey
      refine ⟨raw, r, ?_, key, hraw, hr.symm⟩
      rintro rfl
      exact hne (by simpa using hr)
    · rintro ⟨raw, r, hr, key, hraw, hends⟩
      refine ⟨key, mem_keys_iff.2 ⟨raw, hraw⟩, ⟨r, hends.symm⟩, ?_⟩
      simpa [hends] using hr
  rw [hlonger, hlonger]
  refine exists_congr fun raw => exists_congr fun r => and_congr_right fun _ => ?_
  rw [List.append_assoc]
  exact h.ends_iff (by simp [hq]) raw

theorem PartOf.spotAt_toTree (h : s.PartOf whole path) {q : List String} (hq : q ≠ []) :
    s.toTree.spotAt q = whole.toTree.spotAt (path ++ q) := by
  have hleaf : lastLeaf q s.data.entries = lastLeaf (path ++ q) whole.data.entries := by
    apply Option.ext
    rintro (v | _)
    · simp only [lastLeaf_eq_leaf_iff_of_whole h.keys, lastLeaf_eq_leaf_iff_of_whole h.wholeKeys,
        h.ends_iff hq]
    · exact iff_of_false (lastLeaf_ne_node q _) (lastLeaf_ne_node _ _)
  rw [Section.spotAt_toTree s hq, Section.spotAt_toTree whole (by simp [hq]), hleaf]
  simp only [h.leadsBeyond_iff hq]

theorem PartOf.toTree_eq (h : s.PartOf whole path) :
    s.toTree = .node ((whole.toTree.at? path).elim [] children) := by
  refine eq_of_spotAt_eq s.toTree_ordered ?_ fun q => ?_
  · cases hat : whole.toTree.at? path with
    | none => exact ordered_empty
    | some t =>
      cases t with
      | leaf v => exact ordered_empty
      | node l =>
        intro q m hq
        refine whole.toTree_ordered (path ++ q) m ?_
        rw [at?_append, hat]
        exact hq
  · by_cases hq : q = []
    · rw [hq]
      rfl
    · rw [h.spotAt_toTree hq, spotAt, at?_append]
      cases hat : whole.toTree.at? path with
      | none => exact (spotAt_of_children_eq_nil (t := node []) rfl hq).symm
      | some t =>
        cases t with
        | leaf v =>
          rw [Option.elim_some, children, spotAt_of_children_eq_nil (t := node []) rfl hq]
          exact spotAt_of_children_eq_nil (t := leaf v) rfl hq
        | node l => rfl

theorem whole_intercalate {path : List String} (hpath : path ≠ [])
    (hparts : ∀ name ∈ path, IsPart name) : Whole (".".intercalate path) := by
  rw [Whole, Text.splitAt_intercalate rfl (fun s hs => (hparts s hs).2) hpath, List.mem_map]
  rintro ⟨name, hname, hnil⟩
  exact (hparts name hname).1 (String.toList_injective hnil)

theorem Whole.trimWhile {key : String} (h : Whole key) (before after : Nat) :
    Text.trimWhile isDot (String.ofList (List.replicate before '.') ++ key ++
      String.ofList (List.replicate after '.')).toList = key.toList := by
  have hdots : ∀ n, ∀ c ∈ List.replicate n '.', isDot c = true := by
    intro n c hc
    rw [List.eq_of_mem_replicate hc]
    rfl
  have hends : ∀ c rest, (key.toList = c :: rest ∨ key.toList = rest ++ [c]) → isDot c = false := by
    intro c rest hkey
    by_contra hdot
    obtain rfl : c = '.' := by simpa [isDot] using hdot
    rw [Whole] at h
    rcases hkey with hkey | hkey
    · rw [hkey, ← List.nil_append ('.' :: rest), Text.splitAt_append] at h
      exact h (by simp [Text.splitAt])
    · rw [hkey, Text.splitAt_append] at h
      exact h (by simp [Text.splitAt])
  rw [String.toList_append, String.toList_append, String.toList_ofList, String.toList_ofList,
    List.append_assoc]
  apply Text.trimWhile_append (hdots before) (hdots after)
  · intro hnil
    rw [Whole, hnil] at h
    exact h (by simp [Text.splitAt])
  · intro c hc
    obtain ⟨rest, hkey⟩ := List.head?_eq_some_iff.1 hc
    exact hends c rest (.inl hkey)
  · intro c hc
    obtain ⟨rest, hkey⟩ := List.getLast?_eq_some_iff.1 hc
    exact hends c rest (.inr hkey)

theorem partOf_ofProperties {properties : Table String} {path : List String}
    (hkeys : ∀ key ∈ properties.keys, Whole key) (hpath : path ≠ [])
    (hparts : ∀ name ∈ path, IsPart name) (before after : Nat) :
    (ofProperties (String.ofList (List.replicate before '.') ++ ".".intercalate path ++
      String.ofList (List.replicate after '.')) properties).PartOf (ofProperties "" properties)
        path := by
  have hwhole := whole_intercalate hpath hparts
  have hne : ".".intercalate path ≠ "" := by
    intro hempty
    rw [hempty] at hwhole
    exact absurd hwhole (by decide)
  rw [ofProperties_empty]
  exact ⟨hpath, hparts, hkeys, get?_ofProperties properties (hwhole.trimWhile before after) hne⟩

/-- The section of a key, with further dots around it or not, folds to what the whole has at the
path of the key: to its node there, and to an empty one where there is none. -/
theorem toTree_ofProperties {properties : Table String} {path : List String}
    (hkeys : ∀ key ∈ properties.keys, Whole key) (hpath : path ≠ [])
    (hparts : ∀ name ∈ path, IsPart name) (before after : Nat) :
    let whole := ofProperties "" properties
    let s := ofProperties (String.ofList (List.replicate before '.') ++ ".".intercalate path ++
      String.ofList (List.replicate after '.')) properties
    (∀ l, whole.toTree.at? path = some (node l) → s.toTree = node l) ∧
      (∀ v, whole.toTree.at? path = some (leaf v) → s.toTree = node []) ∧
      (whole.toTree.at? path = none → s.toTree = node []) := by
  intro whole s
  have htree := (partOf_ofProperties hkeys hpath hparts before after).toTree_eq
  refine ⟨fun l hat => ?_, fun v hat => ?_, fun hat => ?_⟩
  all_goals rw [htree, hat]; rfl

theorem toTree_ofProperties_dotted :
    let properties := Table.ofList
      [("a.b", "1"), ("a.b.c", "x"), ("a.d", "true"), ("ab.c", "2"), ("e", "3")]
    (∀ key ∈ properties.keys, Whole key) ∧ (∀ name ∈ ["a", "d"], IsPart name) ∧
      (ofProperties ".a.." properties).toTree =
        node [("b", node [("c", leaf (.text "x"))]), ("d", leaf (.boolean true))] ∧
      (ofProperties "a.d" properties).toTree = node [] ∧
      (ofProperties "d" properties).toTree = node [] := by
  intro properties
  have hkeys : ∀ key ∈ properties.keys, Whole key := by decide
  have hparts : ∀ name ∈ ["a", "d"], IsPart name := by decide
  refine ⟨hkeys, hparts, ?_, ?_, ?_⟩
  · exact (toTree_ofProperties hkeys (List.cons_ne_nil "a" []) (by decide) 1 2).1 _ rfl
  · have hpath : ["a", "d"] ≠ [] := List.cons_ne_nil "a" ["d"]
    exact (toTree_ofProperties hkeys hpath hparts 0 0).2.1 (.boolean true) rfl
  · exact (toTree_ofProperties hkeys (List.cons_ne_nil "d" []) (by decide) 0 0).2.2 rfl

end Section

end LayeredConfig
