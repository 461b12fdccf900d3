import LayeredConfig.Proofs.Areas
import LayeredConfig.Proofs.Subsections
import Mathlib.Data.Finset.Max

namespace LayeredConfig.Areas

open LayeredConfig.Text

variable {key area : String} {properties : Table String}

theorem trimWhile_isDot (h : area.toList.head? ≠ some '.') :
    trimWhile Section.isDot area.toList = (bare area).toList := by
  have hstart : area.toList.dropWhile Section.isDot = area.toList := by
    apply dropWhile_of_head?
    intro c hc
    apply decide_eq_false
    rintro rfl
    exact h hc
  rw [trimWhile, hstart, toList_bare]
  rfl

theorem bare_ne_empty (h : area.toList.head? ≠ some '.') (hne : area ≠ "") : bare area ≠ "" := by
  intro hempty
  obtain ⟨dots, hsplit, hdots⟩ := dropEndWhile_split (· = '.') area.toList
  have hnil : dropEndWhile (· = '.') area.toList = [] := by
    simpa [← String.toList_inj, toList_bare, dropEndDots] using hempty
  rw [hnil, List.nil_append] at hsplit
  cases dots with
  | nil => exact hne (by simpa using hsplit)
  | cons c rest =>
    have hc : c = '.' := of_decide_eq_true (hdots c List.mem_cons_self)
    exact h (by rw [hsplit, hc]; rfl)

theorem propertiesBelow_eq_ofProperties (h : area.toList.head? ≠ some '.') (hne : area ≠ "") :
    propertiesBelow properties area true = (Section.ofProperties area properties).data := by
  apply Table.ext_get?
  intro rest
  rw [get?_propertiesBelow_cut]
  exact (Section.get?_ofProperties properties (trimWhile_isDot h) (bare_ne_empty h hne) rest).symm

theorem propertiesBelow_empty_eq_iff :
    propertiesBelow properties "" true = properties ↔ properties.isEmpty = true := by
  have hbelow : ∀ key,
      (propertiesBelow properties "" true).get? key = properties.get? ("." ++ key) := by
    intro key
    have hbare : bare "" = "" := by decide
    rw [get?_propertiesBelow_cut, hbare, String.empty_append]
  rw [Table.isEmpty_iff]
  constructor
  · intro hsame
    rw [hsame] at hbelow
    by_contra hsome
    obtain ⟨key, hkey⟩ := not_forall.mp hsome
    have hmem : key ∈ properties.keys.toFinset :=
      List.mem_toFinset.mpr (Table.mem_keys_iff.mpr (Option.isSome_iff_ne_none.mpr hkey))
    obtain ⟨long, hlong, hmax⟩ :=
      Finset.exists_max_image properties.keys.toFinset String.length ⟨key, hmem⟩
    have hlonger : "." ++ long ∈ properties.keys.toFinset := by
      rw [List.mem_toFinset, Table.mem_keys_iff] at hlong ⊢
      rwa [← hbelow]
    have hlength := hmax _ hlonger
    rw [String.length_append] at hlength
    have hdot : ".".length = 1 := rfl
    omega
  · intro hnone
    apply Table.ext_get?
    intro key
    rw [hbelow, hnone, hnone]

theorem exists_rest_of_isKeyIn (hroot : ¬DenotesRoot area) (h : isKeyIn key area = true) :
    ∃ rest, key = bare area ++ "." ++ rest := by
  rw [isKeyIn_iff, if_neg hroot] at h
  have hne : bare area ≠ "" := fun hempty => hroot (.inl hempty)
  apply (above_iff_exists_rest hne).mp
  cases hparent : parent? key.toList with
  | none =>
    rw [areaOf_of_top (parent?_eq_none_iff.mp hparent)] at h
    exact absurd (.inr h.symm) hroot
  | some parent =>
    rw [areaOf_of_parent? hparent] at h
    rw [← h, String.toList_ofList]
    exact above_of_parent? hparent

theorem get?_propertiesBelow_root (hroot : DenotesRoot area) (h : isKeyIn key area = true) :
    (propertiesBelow properties area false).get? key = none := by
  rw [isKeyIn_iff, if_pos hroot] at h
  rw [Option.eq_none_iff_forall_ne_some]
  intro value hvalue
  obtain ⟨-, rest, rfl⟩ := get?_propertiesBelow_kept.mp hvalue
  simp at h

theorem keeps_keys_iff :
    (∀ key ∈ properties.keys, isKeyIn key area = true →
      (propertiesBelow properties area false).get? key = properties.get? key) ↔
      (DenotesRoot area → ∀ key ∈ properties.keys, '.' ∈ key.toList) := by
  constructor
  · intro hkept hroot key hkey
    by_contra hdot
    have hin : isKeyIn key area = true := by rwa [isKeyIn_iff, if_pos hroot]
    have hnone := (hkept key hkey hin).symm.trans (get?_propertiesBelow_root hroot hin)
    rw [Table.mem_keys_iff, hnone] at hkey
    cases hkey
  · intro hdots key hkey hin
    by_cases hroot : DenotesRoot area
    · rw [isKeyIn_iff, if_pos hroot] at hin
      exact absurd (hdots hroot key hkey) hin
    · obtain ⟨value, hvalue⟩ := Option.isSome_iff_exists.mp (Table.mem_keys_iff.mp hkey)
      rw [hvalue]
      exact get?_propertiesBelow_kept.mpr ⟨hvalue, exists_rest_of_isKeyIn hroot hin⟩

/-- What lies below a section without its lead is the section of that key, but for the root of any
properties; and what lies below it has all that is in it, but for the root of properties some of
which stand at the top. -/
theorem extracts_agree_iff (properties : Table String) (h : area.toList.head? ≠ some '.') :
    (propertiesBelow properties area true = (Section.ofProperties area properties).data ↔
      area ≠ "" ∨ properties.isEmpty = true) ∧
    ((∀ key ∈ properties.keys, isKeyIn key area = true →
      (propertiesBelow properties area false).get? key = properties.get? key) ↔
      (DenotesRoot area → ∀ key ∈ properties.keys, '.' ∈ key.toList)) := by
  constructor
  · by_cases hne : area = ""
    · rw [hne, Section.ofProperties_empty, propertiesBelow_empty_eq_iff]
      simp
    · exact iff_of_true (propertiesBelow_eq_ofProperties h hne) (.inl hne)
  · exact keeps_keys_iff

theorem extracts_agree_iff_dots :
    let properties := Table.ofList [("a..b", "1"), ("a.b.c", "2"), ("ab.c", "3"), ("a", "4")]
    "a...".toList.head? ≠ some '.' ∧
      propertiesBelow properties "a..." true = (Section.ofProperties "a..." properties).data ∧
      (propertiesBelow properties "a.b." false).get? "a.b.c" = some "2" := by
  intro properties
  have hhead : "a...".toList.head? ≠ some '.' := by decide
  have hdeeper : "a.b.".toList.head? ≠ some '.' := by decide
  have hkept :=
    (extracts_agree_iff properties hdeeper).2.mpr (fun hroot => absurd hroot (by decide))
  refine ⟨hhead, (extracts_agree_iff properties hhead).1.mpr (.inl (by decide)), ?_⟩
  exact hkept "a.b.c" (by decide) (by decide)

theorem extracts_of_root_differ :
    let properties := Table.ofList [("a", "1")]
    propertiesBelow properties "" true ≠ (Section.ofProperties "" properties).data ∧
      "a" ∈ properties.keys ∧
      (isKeyIn "a" "" = true ∧ (propertiesBelow properties "" false).get? "a" = none) ∧
      (isKeyIn "a" root = true ∧ (propertiesBelow properties root false).get? "a" = none) := by
  decide

end LayeredConfig.Areas
