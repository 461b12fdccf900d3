import Mathlib.Data.List.Nodup
import LayeredConfig.Section.Basic
import LayeredConfig.Toml.Flat

namespace LayeredConfig

theorem Text.splitAt_eq_splitOn (sep : Char) (s : List Char) : splitAt sep s = s.splitOn sep := by
  induction s with
  | nil => rfl
  | cons c rest ih =>
    rw [List.splitOn, List.splitOnP_cons_eq_if_modifyHead, ← List.splitOn, ← ih, splitAt]
    by_cases hc : c = sep
    · simp [hc]
    · rw [if_neg hc, if_neg (by simpa using hc)]
      cases hs : splitAt sep rest with
      | nil => exact absurd hs (splitAt_ne_nil sep rest)
      | cons part parts => rfl

theorem Text.splitAt_intercalate {sep : Char} {joint : String} (hjoint : joint.toList = [sep])
    {parts : List String} (h : ∀ s ∈ parts, sep ∉ s.toList) (hne : parts ≠ []) :
    splitAt sep (joint.intercalate parts).toList = parts.map String.toList := by
  rw [splitAt_eq_splitOn, String.toList_intercalate, hjoint]
  apply List.splitOn_intercalate
  · intro l hl
    obtain ⟨s, hs, rfl⟩ := List.mem_map.1 hl
    exact h s hs
  · simpa using hne

namespace Section

def IsPart (name : String) : Prop := name ≠ "" ∧ '.' ∉ name.toList

instance (name : String) : Decidable (IsPart name) := inferInstanceAs (Decidable (_ ∧ _))

theorem segments_intercalate {parts : List String} (h : ∀ s ∈ parts, IsPart s) :
    segments (".".intercalate parts) = parts := by
  by_cases hparts : parts = []
  · rw [hparts]
    decide
  · have hkept : ∀ l ∈ parts.map String.toList, decide (l ≠ []) = true := by
      intro l hl
      obtain ⟨s, hs, rfl⟩ := List.mem_map.1 hl
      simpa using (h s hs).1
    rw [segments, Text.splitAt_intercalate rfl (fun s hs => (h s hs).2) hparts,
      List.filter_eq_self.2 hkept, List.map_map]
    simp [Function.comp_def]

theorem isPart_toString (n : Nat) : IsPart (toString n) := by
  constructor
  · intro h
    exact Number.toString_toList_ne_nil n (by rw [h]; rfl)
  · intro h
    have := Number.isDigit_of_mem_toString h
    revert this
    decide

end Section

namespace Toml

open Section

@[elab_as_elim]
theorem Value.induct {motive : Value → Prop} (scalar : ∀ s, motive (.scalar s))
    (array : ∀ items, (∀ v ∈ items, motive v) → motive (.array items))
    (table : ∀ fields, (∀ e ∈ fields, motive e.2) → motive (.table fields)) : ∀ v, motive v
  | .scalar s => scalar s
  | .array items => array items (fun v _ => induct scalar array table v)
  | .table fields => table fields (fun e _ => induct scalar array table e.2)
decreasing_by
  · have := List.sizeOf_lt_of_mem ‹v ∈ items›
    simp only [Value.array.sizeOf_spec]
    omega
  · have := List.sizeOf_lt_of_mem ‹e ∈ fields›
    have : sizeOf e = 1 + sizeOf e.1 + sizeOf e.2 := rfl
    simp only [Value.table.sizeOf_spec]
    omega

inductive Step where
  | field (name : String)
  | element (index : Nat)
deriving DecidableEq

def Step.text : Step → String
  | field name => name
  | element index => toString index

def dotted (p : List Step) : String := ".".intercalate (p.map Step.text)

inductive At : Value → List Step → Value → Prop
  | here (v : Value) : At v [] v
  | field {fields : List (String × Value)} {name : String} {v w : Value} {p : List Step}
      (h : (name, v) ∈ fields) (below : At v p w) : At (.table fields) (.field name :: p) w
  | element {items : List Value} {i : Nat} {v w : Value} {p : List Step}
      (h : items[i]? = some v) (below : At v p w) : At (.array items) (.element i :: p) w

theorem At.trans {u v w : Value} {p q : List Step} (h : At u p v) (h' : At v q w) :
    At u (p ++ q) w := by
  induction h with
  | here => exact h'
  | field hv _ ih => exact .field hv (ih h')
  | element hv _ ih => exact .element hv (ih h')

theorem At.eq_here {v w : Value} (h : At v [] w) : v = w := by
  cases h
  rfl

theorem at_scalar_iff {s : Scalar} {p : List Step} {w : Value} :
    At (.scalar s) p w ↔ p = [] ∧ w = .scalar s := by
  constructor
  · intro h
    cases h
    exact ⟨rfl, rfl⟩
  · rintro ⟨rfl, rfl⟩
    exact .here _

theorem at_table_iff {fields : List (String × Value)} {p : List Step} {w : Value} :
    At (.table fields) p w ↔ (p = [] ∧ w = .table fields) ∨
      ∃ e ∈ fields, ∃ q, p = .field e.1 :: q ∧ At e.2 q w := by
  constructor
  · intro h
    cases h with
    | here => exact .inl ⟨rfl, rfl⟩
    | field hv hw => exact .inr ⟨_, hv, _, rfl, hw⟩
  · rintro (⟨rfl, rfl⟩ | ⟨e, he, q, rfl, hw⟩)
    · exact .here _
    · exact .field he hw

def Value.EveryTable (P : List (String × Value) → Prop) (doc : Value) : Prop :=
  ∀ p fields, At doc p (.table fields) → P fields

section EveryTable

variable {P : List (String × Value) → Prop}

theorem Value.EveryTable.below {doc v : Value} {p : List Step} (hd : doc.EveryTable P)
    (h : At doc p v) : v.EveryTable P :=
  fun q fields hq => hd (p ++ q) fields (h.trans hq)

theorem everyTable_scalar (s : Scalar) : (Value.scalar s).EveryTable P := by
  intro p fields h
  cases h

theorem everyTable_array_iff {items : List Value} :
    (Value.array items).EveryTable P ↔ ∀ v ∈ items, v.EveryTable P := by
  constructor
  · intro h v hv
    obtain ⟨i, hi⟩ := List.mem_iff_getElem?.1 hv
    exact h.below (.element hi (.here v))
  · intro h p fields hp
    cases hp with
    | element hi hw => exact h _ (List.mem_of_getElem? hi) _ _ hw

theorem everyTable_table_iff {fields : List (String × Value)} :
    (Value.table fields).EveryTable P ↔ P fields ∧ ∀ e ∈ fields, e.2.EveryTable P := by
  constructor
  · intro h
    exact ⟨h [] fields (.here _), fun e he => h.below (.field he (.here e.2))⟩
  · rintro ⟨hfields, hbelow⟩ p l hp
    cases hp with
    | here => exact hfields
    | field hv hw => exact hbelow _ hv _ _ hw

end EveryTable

def DistinctNames (fields : List (String × Value)) : Prop := (fields.map Prod.fst).Nodup

def NamedByParts (fields : List (String × Value)) : Prop := ∀ e ∈ fields, IsPart e.1

structure Value.WellNamed (doc : Value) : Prop where
  distinct : doc.EveryTable DistinctNames
  parts : doc.EveryTable NamedByParts

theorem wellNamed_scalar (s : Scalar) : (Value.scalar s).WellNamed :=
  ⟨everyTable_scalar s, everyTable_scalar s⟩

theorem wellNamed_array_iff {items : List Value} :
    (Value.array items).WellNamed ↔ ∀ v ∈ items, v.WellNamed := by
  constructor
  · intro h v hv
    exact ⟨everyTable_array_iff.1 h.distinct v hv, everyTable_array_iff.1 h.parts v hv⟩
  · intro h
    exact ⟨everyTable_array_iff.2 fun v hv => (h v hv).distinct,
      everyTable_array_iff.2 fun v hv => (h v hv).parts⟩

theorem wellNamed_table_iff {fields : List (String × Value)} :
    (Value.table fields).WellNamed ↔
      DistinctNames fields ∧ NamedByParts fields ∧ ∀ e ∈ fields, e.2.WellNamed := by
  constructor
  · intro h
    obtain ⟨hdistinct, hbelow⟩ := everyTable_table_iff.1 h.distinct
    obtain ⟨hparts, hbelow'⟩ := everyTable_table_iff.1 h.parts
    exact ⟨hdistinct, hparts, fun e he => ⟨hbelow e he, hbelow' e he⟩⟩
  · rintro ⟨hdistinct, hparts, hbelow⟩
    exact ⟨everyTable_table_iff.2 ⟨hdistinct, fun e he => (hbelow e he).distinct⟩,
      everyTable_table_iff.2 ⟨hparts, fun e he => (hbelow e he).parts⟩⟩

theorem DistinctNames.eq {fields : List (String × Value)} (h : DistinctNames fields)
    {name : String} {v w : Value} (hv : (name, v) ∈ fields) (hw : (name, w) ∈ fields) : v = w := by
  have := List.inj_on_of_nodup_map h hv hw rfl
  exact congrArg Prod.snd this

theorem At.isPart {doc v : Value} {p : List Step} (hd : doc.WellNamed) (h : At doc p v) :
    ∀ s ∈ p, IsPart s.text := by
  induction h with
  | here => simp
  | field hv hw ih =>
    obtain ⟨-, hparts, hbelow⟩ := wellNamed_table_iff.1 hd
    exact List.forall_mem_cons.2 ⟨hparts _ hv, ih (hbelow _ hv)⟩
  | element hv hw ih =>
    have hbelow := wellNamed_array_iff.1 hd _ (List.mem_of_getElem? hv)
    exact List.forall_mem_cons.2 ⟨isPart_toString _, ih hbelow⟩

theorem At.eq_of_texts_eq {doc v w : Value} {p q : List Step} (hd : doc.WellNamed)
    (hv : At doc p v) (hw : At doc q w) (h : p.map Step.text = q.map Step.text) :
    p = q ∧ v = w := by
  -- The value that a step is taken from decides whether its text is a name or an index.
  induction hv generalizing q with
  | here =>
    obtain rfl := List.map_eq_nil_iff.1 h.symm
    exact ⟨rfl, hw.eq_here⟩
  | field hv _ ih =>
    cases hw with
    | here => cases h
    | field hv' hw =>
      obtain ⟨hname, hrest⟩ := List.cons.inj h
      cases hname
      obtain ⟨hdistinct, -, hbelow⟩ := wellNamed_table_iff.1 hd
      obtain rfl := hdistinct.eq hv hv'
      obtain ⟨rfl, rfl⟩ := ih (hbelow _ hv) hw hrest
      exact ⟨rfl, rfl⟩
  | element hv _ ih =>
    cases hw with
    | here => cases h
    | element hv' hw =>
      obtain ⟨hindex, hrest⟩ := List.cons.inj h
      obtain rfl := Number.toString_injective hindex
      obtain rfl := Option.some.inj (hv.symm.trans hv')
      have hbelow := wellNamed_array_iff.1 hd _ (List.mem_of_getElem? hv)
      obtain ⟨rfl, rfl⟩ := ih hbelow hw hrest
      exact ⟨rfl, rfl⟩

theorem At.segments_dotted {doc v : Value} {p : List Step} (hd : doc.WellNamed)
    (h : At doc p v) : segments (dotted p) = p.map Step.text := by
  apply segments_intercalate
  intro s hs
  obtain ⟨step, hstep, rfl⟩ := List.mem_map.1 hs
  exact h.isPart hd step hstep

theorem At.eq_of_dotted_eq {doc v w : Value} {p q : List Step} (hd : doc.WellNamed)
    (hv : At doc p v) (hw : At doc q w) (h : dotted p = dotted q) : p = q ∧ v = w := by
  apply hv.eq_of_texts_eq hd hw
  rw [← hv.segments_dotted hd, ← hw.segments_dotted hd, h]

end Toml

end LayeredConfig
