import LayeredConfig.Proofs.Answers
import LayeredConfig.Proofs.Conversions
import LayeredConfig.Proofs.Enumeration
import LayeredConfig.Proofs.Flattening

namespace LayeredConfig

namespace Conversion

open Text

structure IsItem (s : String) : Prop where
  comma : ',' ∉ s.toList
  head : ∀ c ∈ s.toList.head?, isBlank c = false
  last : ∀ c ∈ s.toList.getLast?, isBlank c = false

instance (s : String) : Decidable (IsItem s) :=
  decidable_of_iff (',' ∉ s.toList ∧ s.toList.head?.all (fun c => !isBlank c) = true ∧
      s.toList.getLast?.all (fun c => !isBlank c) = true) (by
    simp only [Option.all_eq_true, Bool.not_eq_true']
    exact ⟨fun ⟨h, hhead, hlast⟩ => ⟨h, hhead, hlast⟩, fun h => ⟨h.comma, h.head, h.last⟩⟩)

theorem IsItem.trimList_eq {s : String} (h : IsItem s) : trimList s.toList = s.toList :=
  trimList_of_ends h.head h.last

theorem IsItem.isAllBlank_iff {s : String} (h : IsItem s) : isAllBlank s = true ↔ s = "" := by
  constructor
  · intro hblank
    rw [isAllBlank, List.all_eq_true] at hblank
    have hnil : s.toList = [] := by
      cases hs : s.toList with
      | nil => rfl
      | cons c rest =>
        have hc := h.head c (by rw [hs]; rfl)
        rw [hblank c (by rw [hs]; exact List.mem_cons_self)] at hc
        cases hc
    exact String.toList_injective hnil
  · rintro rfl
    rfl

theorem isAllBlank_intercalate_iff {texts : List String} (h : ∀ s ∈ texts, IsItem s) :
    isAllBlank (",".intercalate texts) = true ↔ texts = [] ∨ texts = [""] := by
  match texts with
  | [] => simp [isAllBlank]
  | [s] =>
    rw [String.intercalate_singleton, (h s List.mem_cons_self).isAllBlank_iff]
    simp
  | s :: t :: rest =>
    -- The comma after the first text is not blank.
    have hcomma : ',' ∈ (",".intercalate (s :: t :: rest)).toList := by
      rw [String.intercalate_cons_cons]
      simp
    have hblank : isAllBlank (",".intercalate (s :: t :: rest)) ≠ true := by
      intro hall
      cases List.all_eq_true.mp hall ',' hcomma
    exact iff_of_false hblank (by simp)

theorem textsRule_intercalate {texts : List String} (h : ∀ s ∈ texts, IsItem s) :
    textsRule (",".intercalate texts) = some (if texts = [""] then [] else texts) := by
  rw [textsRule]
  by_cases hblank : isAllBlank (",".intercalate texts) = true
  · rw [if_pos hblank]
    rcases (isAllBlank_intercalate_iff h).mp hblank with rfl | rfl <;> rfl
  · rw [if_neg hblank]
    rw [isAllBlank_intercalate_iff h, not_or] at hblank
    have htrim : ∀ s ∈ texts, String.ofList (trimList s.toList) = s := by
      intro s hs
      rw [(h s hs).trimList_eq, String.ofList_toList]
    rw [if_neg hblank.2, splitAt_intercalate rfl (fun s hs => (h s hs).comma) hblank.1,
      List.map_map]
    exact congrArg some ((List.map_congr_left htrim).trans (List.map_id' texts))

end Conversion

theorem Context.getTyped_gives {c : Context} {mo : Moment} {t : Target} {key raw : String}
    {v : t.Carrier} (hget : (c.get key).Gives mo (some raw))
    (hv : c.registry.convert t key raw = .ok v) : (c.getTyped t key).Gives mo (.ok (some v)) := by
  have hresult : (c.registry.convert t key raw).map some = .ok (some v) := by
    rw [hv]
    rfl
  rw [← hresult]
  exact hget.bind (Reading.gives_pure _)

namespace Toml

def texts (items : List String) : Value := .array (items.map (fun s => .scalar (.text s)))

theorem filterMap_scalarText?_texts (items : List String) :
    (items.map (fun s => Value.scalar (.text s))).filterMap Value.scalarText? = items := by
  rw [List.filterMap_map]
  exact List.filterMap_some

theorem texts_empty_or_scalar (items : List String) :
    items.map (fun s => Value.scalar (.text s)) = [] ∨
      ∃ s, .scalar s ∈ items.map (fun s => Value.scalar (.text s)) := by
  cases items with
  | nil => exact .inl rfl
  | cons s rest => exact .inr ⟨.text s, List.mem_cons_self⟩

theorem At.entry_texts {doc : Value} {p : List Step} {items : List String}
    (hat : At doc p (texts items)) : doc.Entry p (",".intercalate items) := by
  have h := Value.Entry.array hat (texts_empty_or_scalar items)
  rwa [filterMap_scalarText?_texts] at h

theorem get_document (id : Nat) (name : String) (ordinal : Int) (path : Option String) (cell : Nat)
    (registry : Registry) (mo : Moment) (key : String) :
    ((Context.mk [Source.document id name ordinal path cell] [] registry).get key).Gives mo
      ((mo.store.document cell).get? key) := by
  have hsteady := (Source.document_tabled (m := mo) id name ordinal path cell).steady rfl
  rw [← Source.document_text id name ordinal path cell key]
  exact Context.get_gives_single hsteady registry key

theorem getTyped_document {t : Target} {rule : String → Option t.Carrier}
    (hrule : Conversion.defaultRule t = some rule) {mo : Moment} {cell : Nat} {key raw : String}
    {v : t.Carrier} (hraw : (mo.store.document cell).get? key = some raw) (hv : rule raw = some v)
    (id : Nat) (name : String) (ordinal : Int) (path : Option String) (discoveries : Nat) :
    ((Context.mk [Source.document id name ordinal path cell] []
      (.withDefaults discoveries)).getTyped t key).Gives mo (.ok (some v)) := by
  have hget := get_document id name ordinal path cell (.withDefaults discoveries) mo key
  rw [hraw] at hget
  exact Context.getTyped_gives hget ((Registry.convert_withDefaults_eq_ok_iff hrule).mpr hv)

/-- An array of texts is read back from the only source of a context, but for that of one empty
text, which reads as the empty list. A path with the same key that is visited later hides it, and
the last one of them gives the value. -/
theorem getTyped_array {fields : List (String × Value)} {p : List Step} {items : List String}
    (hat : At (.table fields) p (texts items)) (hitems : ∀ s ∈ items, Conversion.IsItem s)
    (id : Nat) (name : String) (ordinal : Int) (path : Option String) (cell discoveries : Nat)
    (mo : Moment) (hcell : mo.store.document cell = flat fields) :
    let c : Context := ⟨[.document id name ordinal path cell], [], .withDefaults discoveries⟩
    (¬(Value.table fields).Shadowed p →
      (c.get (under "" p)).Gives mo (some (",".intercalate items)) ∧
        (c.getTyped .texts (under "" p)).Gives mo
          (.ok (some (if items = [""] then [] else items)))) ∧
    ∀ q text, (Value.table fields).Entry q text → under "" q = under "" p →
      ¬(Value.table fields).Shadowed q → (c.get (under "" p)).Gives mo (some text) := by
  intro c
  have hget : ∀ q text, (Value.table fields).Entry q text → under "" q = under "" p →
      ¬(Value.table fields).Shadowed q → (c.get (under "" p)).Gives mo (some text) := by
    intro q text hentry hkey hq
    rw [← hkey, ← hentry.get?_flat hq, ← hcell]
    exact get_document ..
  refine ⟨fun hp => ⟨hget p _ hat.entry_texts rfl hp, ?_⟩, hget⟩
  have hraw : (mo.store.document cell).get? (under "" p) = some (",".intercalate items) := by
    rw [hcell, hat.entry_texts.get?_flat hp]
  exact getTyped_document rfl hraw (Conversion.textsRule_intercalate hitems) ..

def lists : List (String × Value) :=
  [("a", .table [("b", .scalar (.text "hidden"))]), ("a.b", texts ["", "x y", "", "z", ""])]

theorem getTyped_array_sparse :
    At (.table lists) [.field "a.b"] (texts ["", "x y", "", "z", ""]) ∧
      ¬(Value.table lists).Shadowed [.field "a.b"] ∧
      let c : Context := ⟨[.document 0 "lists" 100 none 0], [], .withDefaults 0⟩
      let mo : Moment := ⟨{ Store.empty with documents := [flat lists] }, []⟩
      (c.getTyped .texts "a.b").Gives mo (.ok (some ["", "x y", "", "z", ""])) := by
  have hat : At (.table lists) [.field "a.b"] (texts ["", "x y", "", "z", ""]) :=
    .field (List.mem_cons_of_mem _ List.mem_cons_self) (.here _)
  have hlast : ∀ before v after, lists = before ++ ("a.b", v) :: after → after = [] := by
    intro before v after h
    rcases before with _ | ⟨e, _ | ⟨f, before⟩⟩ <;> simp_all [lists]
  have hp : ¬(Value.table lists).Shadowed [.field "a.b"] := by
    rintro ⟨q, text, -, -, hvisits⟩
    generalize hfields : lists = fields at hvisits
    cases hvisits with
    | fields h =>
      rw [hlast _ _ _ hfields] at h
      cases h
    | inField _ below => cases below
  refine ⟨hat, hp, ?_⟩
  exact ((getTyped_array hat (by decide) 0 "lists" 100 none 0 0 _ rfl).1 hp).2

theorem getTyped_array_differs :
    let c : Context := ⟨[.document 0 "lists" 100 none 0], [], .withDefaults 0⟩
    let mo (fields : List (String × Value)) : Moment :=
      ⟨{ Store.empty with documents := [flat fields] }, []⟩
    let blank := [("k", texts [""])]
    let shadowed := [("a", .table [("b", texts ["x"])]), ("a.b", .scalar (.text "y"))]
    Conversion.IsItem "" ∧ (Value.table blank).EveryTable DistinctNames ∧
      At (.table blank) [.field "k"] (texts [""]) ∧ under "" [.field "k"] = "k" ∧
      (c.getTyped .texts "k").Gives (mo blank) (.ok (some [])) ∧
      Conversion.IsItem "x" ∧ (Value.table shadowed).EveryTable DistinctNames ∧
      At (.table shadowed) [.field "a", .field "b"] (texts ["x"]) ∧
      under "" [.field "a", .field "b"] = "a.b" ∧
      (c.getTyped .texts "a.b").Gives (mo shadowed) (.ok (some ["y"])) := by
  intro c mo blank shadowed
  have hread (fields : List (String × Value)) (key raw : String) (v : List String)
      (hraw : (flat fields).get? key = some raw) (hv : Conversion.textsRule raw = some v) :
      (c.getTyped .texts key).Gives (mo fields) (.ok (some v)) := by
    have hcell : ((mo fields).store.document 0).get? key = some raw := hraw
    exact getTyped_document rfl hcell hv ..
  refine ⟨by decide, ?_, .field List.mem_cons_self (.here _), rfl,
    hread blank "k" "" [] (by decide) (by decide), by decide, ?_,
    .field List.mem_cons_self (.field List.mem_cons_self (.here _)), by decide,
    hread shadowed "a.b" "y" ["y"] (by decide) (by decide)⟩
  · simp [blank, texts, everyTable_table_iff, everyTable_array_iff, everyTable_scalar,
      DistinctNames]
  · simp [shadowed, texts, everyTable_table_iff, everyTable_array_iff, everyTable_scalar,
      DistinctNames]

end Toml

end LayeredConfig
