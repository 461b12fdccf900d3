import LayeredConfig.Proofs.Places
import LayeredConfig.Section.Areas

namespace LayeredConfig.Areas

open LayeredConfig.Text

variable {key area : String} {keys : List String}

def Above (area key : List Char) : Prop := area ≠ [] ∧ ∃ rest, key = area ++ '.' :: rest

theorem parent?_eq_some_iff {key before : List Char} :
    parent? key = some before ↔
      before ≠ [] ∧ ∃ after, key = before ++ '.' :: after ∧ '.' ∉ after := by
  rw [parent?, Option.filter_eq_some_iff, beforeLast?_eq_some_iff, and_comm]
  simp

theorem above_iff_position {area key : List Char} :
    Above area key ↔ ∃ i > 0, key[i]? = some '.' ∧ area = key.take i := by
  constructor
  · rintro ⟨hne, rest, rfl⟩
    exact ⟨area.length, List.length_pos_iff.mpr hne, by simp, by simp⟩
  · rintro ⟨i, hi, hdot, rfl⟩
    refine ⟨?_, key.drop (i + 1), eq_take_cons_drop hdot⟩
    have hlt := (List.getElem?_eq_some_iff.mp hdot).1
    apply List.ne_nil_of_length_pos
    rw [List.length_take]
    omega

theorem Above.dot_mem_tail {area key : List Char} (h : Above area key) : '.' ∈ key.tail := by
  obtain ⟨hne, rest, rfl⟩ := h
  obtain ⟨c, area, rfl⟩ := List.exists_cons_of_ne_nil hne
  simp

theorem above_of_parent? {key before : List Char} (h : parent? key = some before) :
    Above before key := by
  obtain ⟨hne, after, hkey, -⟩ := parent?_eq_some_iff.mp h
  exact ⟨hne, after, hkey⟩

theorem parent?_eq_none_iff {key : List Char} : parent? key = none ↔ '.' ∉ key.tail := by
  constructor
  · intro h hmem
    cases key with
    | nil => simp at hmem
    | cons c rest =>
      cases hlast : beforeLast? '.' rest with
      | none => exact beforeLast?_eq_none_iff.mp hlast hmem
      | some before => simp [parent?, beforeLast?, hlast] at h
  · intro h
    cases hparent : parent? key with
    | none => rfl
    | some before => exact absurd (above_of_parent? hparent).dot_mem_tail h

theorem above_iff_parent {area key : List Char} :
    Above area key ↔ ∃ parent, parent? key = some parent ∧ (area = parent ∨ Above area parent) := by
  constructor
  · intro h
    cases hparent : parent? key with
    | none => exact absurd h.dot_mem_tail (parent?_eq_none_iff.mp hparent)
    | some parent =>
      obtain ⟨-, after, hkey, hafter⟩ := parent?_eq_some_iff.mp hparent
      obtain ⟨hne, rest, hrest⟩ := h
      rw [hrest, List.append_eq_append_iff] at hkey
      refine ⟨parent, rfl, ?_⟩
      rcases hkey with ⟨_ | ⟨c, between⟩, hsplit, htail⟩ | ⟨_ | ⟨c, between⟩, hsplit, htail⟩
      · exact .inl (by simpa using hsplit.symm)
      · cases htail
        exact .inr ⟨hne, between, hsplit⟩
      · exact .inl (by simpa using hsplit)
      · -- The dot after the section would stand behind the last one.
        cases htail
        simp at hafter
  · rintro ⟨parent, hparent, rfl | ⟨hne, rest, rfl⟩⟩
    · exact above_of_parent? hparent
    · obtain ⟨-, after, rfl, -⟩ := parent?_eq_some_iff.mp hparent
      exact ⟨hne, rest ++ '.' :: after, by simp⟩

theorem mem_upwards_iff {area key : List Char} :
    area ∈ upwards key ↔ area = key ∨ Above area key := by
  induction key using upwards.induct with
  | case1 key ih =>
    rw [upwards, List.mem_cons, above_iff_parent]
    split
    · next parent hparent => simp [hparent, ih parent hparent]
    · next hparent => simp [hparent]

theorem areaOf_of_parent? {before : List Char} (h : parent? key.toList = some before) :
    areaOf key = String.ofList before := by
  rw [areaOf, h]

theorem areaOf_of_top (h : '.' ∉ key.toList.tail) : areaOf key = root := by
  rw [areaOf, parent?_eq_none_iff.mpr h]

theorem not_above_root {area : List Char} : ¬Above area root.toList := by
  intro h
  exact absurd h.dot_mem_tail (by decide)

theorem upwards_root : upwards root.toList = [root.toList] := by
  rw [upwards]
  rfl

theorem areasAbove_eq (key : String) :
    areasAbove key = (upwards (areaOf key).toList).map String.ofList := by
  rw [areasAbove]
  split
  · next h =>
    rw [h, upwards_root]
    rfl
  · rfl

theorem mem_areasAbove_iff :
    area ∈ areasAbove key ↔ Above area.toList key.toList ∨ area = root ∧ '.' ∉ key.toList.tail := by
  have hmem : area ∈ areasAbove key ↔
      area = areaOf key ∨ Above area.toList (areaOf key).toList := by
    rw [areasAbove_eq, List.mem_map, ← String.toList_inj, ← mem_upwards_iff]
    constructor
    · rintro ⟨above, habove, rfl⟩
      rwa [String.toList_ofList]
    · intro h
      exact ⟨_, h, String.ofList_toList⟩
  rw [hmem]
  cases hparent : parent? key.toList with
  | none =>
    have htop := parent?_eq_none_iff.mp hparent
    have hnot : ¬Above area.toList key.toList := fun h => htop h.dot_mem_tail
    simp [areaOf_of_top htop, not_above_root, hnot, htop]
  | some parent =>
    have hdot := (above_of_parent? hparent).dot_mem_tail
    have hstep : Above area.toList key.toList ↔ _ := above_iff_parent
    rw [areaOf_of_parent? hparent, ← String.toList_inj, String.toList_ofList, hstep, hparent]
    simp [hdot]

theorem mem_areas_iff : area ∈ areas keys ↔ ∃ key ∈ keys, areaOf key = area := by
  rw [areas, Table.mem_namesInOrder, List.mem_map]

theorem mem_transitiveAreas_iff :
    area ∈ transitiveAreas keys ↔ (∃ key ∈ keys, Above area.toList key.toList) ∨
      area = root ∧ ∃ key ∈ keys, '.' ∉ key.toList.tail := by
  rw [transitiveAreas, Table.mem_namesInOrder, List.mem_flatMap]
  constructor
  · rintro ⟨key, hkey, harea⟩
    rcases mem_areasAbove_iff.mp harea with habove | ⟨hroot, htop⟩
    · exact .inl ⟨key, hkey, habove⟩
    · exact .inr ⟨hroot, key, hkey, htop⟩
  · rintro (⟨key, hkey, habove⟩ | ⟨hroot, key, hkey, htop⟩)
    · exact ⟨key, hkey, mem_areasAbove_iff.mpr (.inl habove)⟩
    · exact ⟨key, hkey, mem_areasAbove_iff.mpr (.inr ⟨hroot, htop⟩)⟩

theorem areaOf_mem_areasAbove (key : String) : areaOf key ∈ areasAbove key := by
  rw [areasAbove_eq, List.mem_map]
  exact ⟨_, mem_upwards_iff.mpr (.inl rfl), String.ofList_toList⟩

def bare (area : String) : String := String.ofList (dropEndDots area.toList)

def DenotesRoot (area : String) : Prop := bare area = "" ∨ bare area = root

instance (area : String) : Decidable (DenotesRoot area) := inferInstanceAs (Decidable (_ ∨ _))

theorem toList_bare (area : String) : (bare area).toList = dropEndDots area.toList :=
  String.toList_ofList

theorem bare_eq_self_iff : bare area = area ↔ area.toList.getLast? ≠ some '.' := by
  rw [← String.toList_inj, toList_bare]
  constructor
  · intro h hlast
    rw [← h] at hlast
    exact absurd (getLast?_dropEndWhile hlast) (by decide)
  · intro h
    apply dropEndWhile_of_getLast?
    intro c hc
    apply decide_eq_false
    rintro rfl
    exact h hc

theorem isKeyIn_iff : isKeyIn key area = true ↔
    if DenotesRoot area then '.' ∉ key.toList else areaOf key = bare area := by
  change (if DenotesRoot area then !key.toList.contains '.'
    else decide (areaOf key = bare area)) = true ↔ _
  split <;> simp

def WellPlaced (key : String) : Prop :=
  ∀ before after, key.toList = before ++ '.' :: after → '.' ∉ after →
    before ≠ [] ∧ before.getLast? ≠ some '.' ∧ before ≠ root.toList

theorem wellPlaced_of_undotted (h : '.' ∉ key.toList) : WellPlaced key := by
  intro before after hkey
  rw [hkey] at h
  simp at h

theorem wellPlaced_iff {before : List Char} (h : beforeLast? '.' key.toList = some before) :
    WellPlaced key ↔ before ≠ [] ∧ before.getLast? ≠ some '.' ∧ before ≠ root.toList := by
  constructor
  · intro hkey
    obtain ⟨after, hsplit, hafter⟩ := beforeLast?_eq_some_iff.mp h
    exact hkey before after hsplit hafter
  · intro hbefore other after hsplit hafter
    have hother := beforeLast?_eq_some_iff.mpr ⟨after, hsplit, hafter⟩
    obtain rfl := Option.some.inj (h.symm.trans hother)
    exact hbefore

theorem denotesRoot_root : DenotesRoot root := by decide

theorem areaOf_ne_empty (key : String) : areaOf key ≠ "" := by
  cases hparent : parent? key.toList with
  | none =>
    rw [areaOf_of_top (parent?_eq_none_iff.mp hparent)]
    decide
  | some parent =>
    rw [areaOf_of_parent? hparent, Ne, String.ofList_eq_empty_iff]
    exact (parent?_eq_some_iff.mp hparent).1

theorem isKeyIn_areaOf_iff_of_dotted (hdot : '.' ∈ key.toList) : isKeyIn key (areaOf key) = true ↔
    areaOf key ≠ root ∧ (areaOf key).toList.getLast? ≠ some '.' := by
  rw [isKeyIn_iff, ← bare_eq_self_iff]
  split
  · next hroot =>
    apply iff_of_false (fun h => h hdot)
    rintro ⟨hne, hbare⟩
    rw [DenotesRoot, hbare] at hroot
    exact hroot.elim (areaOf_ne_empty key) hne
  · next hroot =>
    constructor
    · intro h
      exact ⟨fun harea => hroot (harea ▸ denotesRoot_root), h.symm⟩
    · intro h
      exact h.2.symm

theorem isKeyIn_areaOf_iff : isKeyIn key (areaOf key) = true ↔ WellPlaced key := by
  cases hlast : beforeLast? '.' key.toList with
  | none =>
    have hkey := beforeLast?_eq_none_iff.mp hlast
    have htop : '.' ∉ key.toList.tail := fun h => hkey (List.mem_of_mem_tail h)
    rw [areaOf_of_top htop, isKeyIn_iff, if_pos denotesRoot_root]
    exact iff_of_true hkey (wellPlaced_of_undotted hkey)
  | some before =>
    obtain ⟨after, hsplit, hafter⟩ := beforeLast?_eq_some_iff.mp hlast
    have hdot : '.' ∈ key.toList := by simp [hsplit]
    rw [isKeyIn_areaOf_iff_of_dotted hdot, wellPlaced_iff hlast]
    by_cases hbefore : before = []
    · have htop : '.' ∉ key.toList.tail := by simpa [hsplit, hbefore] using hafter
      simp [areaOf_of_top htop, hbefore]
    · have hparent := parent?_eq_some_iff.mpr ⟨hbefore, after, hsplit, hafter⟩
      rw [areaOf_of_parent? hparent, String.toList_ofList, Ne, ← String.toList_inj,
        String.toList_ofList]
      simp [hbefore, and_comm]

def label (area : String) : String := if DenotesRoot area then root else bare area

theorem areaOf_of_isKeyIn (h : isKeyIn key area = true) : areaOf key = label area := by
  rw [isKeyIn_iff] at h
  rw [label]
  split
  · next hroot =>
    rw [if_pos hroot] at h
    exact areaOf_of_top (fun hdot => h (List.mem_of_mem_tail hdot))
  · next hroot =>
    rw [if_neg hroot] at h
    exact h

/-- A section that is reported for a key has the key in it just where the key is well placed, and
every section that has the key in it is reported, under its own name. -/
theorem isKeyIn_areas_iff (key area : String) :
    (area ∈ areas [key] → (isKeyIn key area = true ↔ WellPlaced key)) ∧
      (isKeyIn key area = true → label area ∈ areas [key]) := by
  constructor
  · intro harea
    obtain ⟨other, hother, rfl⟩ := mem_areas_iff.mp harea
    obtain rfl := List.mem_singleton.mp hother
    exact isKeyIn_areaOf_iff
  · intro h
    exact mem_areas_iff.mpr ⟨key, List.mem_singleton_self key, areaOf_of_isKeyIn h⟩

theorem isKeyIn_areas_iff_dots :
    WellPlaced ".a..b.c" ∧ ".a..b" ∈ areas [".a..b.c"] ∧ isKeyIn ".a..b.c" ".a..b" = true ∧
      isKeyIn ".a..b.c" ".a..b.." = true ∧ label ".a..b.." ∈ areas [".a..b.c"] := by
  have hplaced : WellPlaced ".a..b.c" := (wellPlaced_iff rfl).mpr (by decide)
  have harea : ".a..b" ∈ areas [".a..b.c"] := by decide
  have hin : isKeyIn ".a..b.c" ".a..b.." = true := by decide
  refine ⟨hplaced, harea, ?_, hin, (isKeyIn_areas_iff _ _).2 hin⟩
  exact ((isKeyIn_areas_iff _ _).1 harea).mpr hplaced

theorem isKeyIn_areas_foreign :
    (root ∈ areas [".a"] ∧ isKeyIn ".a" root = false) ∧
      ("a." ∈ areas ["a..b"] ∧ isKeyIn "a..b" "a." = false) ∧
      (root ∈ areas ["<root>.a"] ∧ isKeyIn "<root>.a" root = false) := by
  decide

section PropertiesBelow

variable {properties : Table String} {name value : String} {cut : Bool}

theorem get?_propertiesBelow_eq_some_iff :
    (propertiesBelow properties area cut).get? name = some value ↔
      ∃ rest, properties.get? (bare area ++ "." ++ rest) = some value ∧
        name = if cut then rest else bare area ++ "." ++ rest := by
  have hmem : ∀ n v, (n, v) ∈ properties.entries.filterMap (fun e =>
      (stripStart? (dropEndDots area.toList ++ ['.']) e.1.toList).map (fun rest =>
        (if cut then String.ofList rest else e.1, e.2))) ↔
      ∃ rest, properties.get? (bare area ++ "." ++ rest) = some v ∧
        n = if cut then rest else bare area ++ "." ++ rest := by
    intro n v
    simp only [List.mem_filterMap, Option.map_eq_some_iff, stripStart?_eq_some_iff, Prod.mk.injEq,
      ← Table.mem_entries_iff]
    constructor
    · rintro ⟨⟨key, w⟩, he, rest, hkey, hname, rfl⟩
      have hsame : bare area ++ "." ++ String.ofList rest = key := by
        apply String.toList_injective
        simp [hkey, toList_bare]
      refine ⟨String.ofList rest, hsame ▸ he, ?_⟩
      rw [hsame, hname]
    · rintro ⟨rest, he, rfl⟩
      refine ⟨_, he, rest.toList, by simp [toList_bare], ?_, rfl⟩
      rw [String.ofList_toList]
  rw [propertiesBelow, Table.get?_ofList_eq_some_iff, hmem]
  intro n v w hv hw
  obtain ⟨rest, hv, hname⟩ := (hmem n v).mp hv
  obtain ⟨other, hw, hother⟩ := (hmem n w).mp hw
  have hrest : bare area ++ "." ++ rest = bare area ++ "." ++ other := by
    cases cut with
    | true => exact congrArg _ (hname.symm.trans hother)
    | false => exact hname.symm.trans hother
  rw [hrest, hw] at hv
  exact (Option.some.inj hv).symm

theorem get?_propertiesBelow_cut (rest : String) :
    (propertiesBelow properties area true).get? rest =
      properties.get? (bare area ++ "." ++ rest) := by
  apply Option.ext
  intro v
  rw [get?_propertiesBelow_eq_some_iff]
  simp

theorem get?_propertiesBelow_kept :
    (propertiesBelow properties area false).get? name = some value ↔
      properties.get? name = some value ∧ ∃ rest, name = bare area ++ "." ++ rest := by
  rw [get?_propertiesBelow_eq_some_iff]
  constructor
  · rintro ⟨rest, hvalue, rfl⟩
    exact ⟨hvalue, rest, rfl⟩
  · rintro ⟨hvalue, rest, rfl⟩
    exact ⟨rest, hvalue, rfl⟩

theorem above_iff_exists_rest (hne : area ≠ "") :
    Above area.toList key.toList ↔ ∃ rest, key = area ++ "." ++ rest := by
  constructor
  · rintro ⟨-, rest, hkey⟩
    refine ⟨String.ofList rest, String.toList_injective ?_⟩
    simp [hkey]
  · rintro ⟨rest, rfl⟩
    exact ⟨by simpa using hne, rest.toList, by simp⟩

theorem isEmpty_propertiesBelow_iff (hne : area ≠ "") (hbare : bare area = area) :
    (propertiesBelow properties area false).isEmpty = false ↔
      ∃ key ∈ properties.keys, Above area.toList key.toList := by
  rw [← Bool.not_eq_true, Table.isEmpty_iff, not_forall]
  apply exists_congr
  intro key
  rw [← Ne, Option.ne_none_iff_exists', Table.mem_keys_iff, Option.isSome_iff_exists,
    above_iff_exists_rest hne]
  simp only [get?_propertiesBelow_kept, hbare, exists_and_right]

end PropertiesBelow

/-- The sections of keys and those above them are what stands before a dot of a key, after its first
character, and the root where a key has no such dot; all of them but the root are the sections below
which there is a property. -/
theorem transitiveAreas_exact :
    (∀ keys area, area ∈ transitiveAreas keys ↔
      (∃ key ∈ keys, ∃ i > 0, key.toList[i]? = some '.' ∧ area.toList = key.toList.take i) ∨
        area = root ∧ ∃ key ∈ keys, '.' ∉ key.toList.tail) ∧
    (∀ (properties : Table String) area, area ≠ "" → area.toList.getLast? ≠ some '.' →
      area ≠ root → (area ∈ transitiveAreas properties.keys ↔
        (propertiesBelow properties area false).isEmpty = false)) ∧
    ∀ keys, areas keys ⊆ transitiveAreas keys := by
  refine ⟨fun keys area => ?_, fun properties area hne hlast hroot => ?_, fun keys area h => ?_⟩
  · simp only [mem_transitiveAreas_iff, above_iff_position]
  · rw [mem_transitiveAreas_iff, isEmpty_propertiesBelow_iff hne (bare_eq_self_iff.mpr hlast)]
    simp [hroot]
  · obtain ⟨key, hkey, rfl⟩ := mem_areas_iff.mp h
    rw [transitiveAreas, Table.mem_namesInOrder, List.mem_flatMap]
    exact ⟨key, hkey, areaOf_mem_areasAbove key⟩

theorem transitiveAreas_exact_empty_parts :
    let properties := Table.ofList [("..é.b", "1"), (".c", "2"), ("<root>.a.b", "3")]
    "..é" ≠ "" ∧ "..é".toList.getLast? ≠ some '.' ∧ "..é" ≠ root ∧
      "..é" ∈ transitiveAreas properties.keys ∧ "." ∈ transitiveAreas properties.keys ∧
      root ∈ transitiveAreas properties.keys ∧ "é" ∉ transitiveAreas properties.keys := by
  intro properties
  obtain ⟨hexact, hbelow, -⟩ := transitiveAreas_exact
  have hne : "..é" ≠ "" := by decide
  have hlast : "..é".toList.getLast? ≠ some '.' := by decide
  have hroot : "..é" ≠ root := by decide
  refine ⟨hne, hlast, hroot, (hbelow properties _ hne hlast hroot).mpr (by decide), ?_, ?_, ?_⟩
  · exact (hexact _ _).mpr (.inl ⟨"..é.b", by decide, 1, by decide, rfl, rfl⟩)
  · exact (hexact _ _).mpr (.inr ⟨rfl, ".c", by decide, by decide⟩)
  · rw [hbelow properties "é" (by decide) (by decide) (by decide)]
    decide

end LayeredConfig.Areas
