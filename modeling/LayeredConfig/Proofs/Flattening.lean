import LayeredConfig.Proofs.Paths
import LayeredConfig.Proofs.Places

namespace LayeredConfig.Toml

def Value.scalarText? : Value → Option String
  | .scalar s => some s.render
  | _ => none

theorem scalarText?_eq_none_iff {v : Value} : v.scalarText? = none ↔ ∀ s, v ≠ .scalar s := by
  cases v <;> simp [Value.scalarText?]

theorem directScalars_eq_filterMap (items : List Value) :
    directScalars items = items.filterMap Value.scalarText? := by
  induction items with
  | nil => rfl
  | cons v rest ih =>
    rw [List.filterMap_cons]
    cases v <;> simp [directScalars, Value.scalarText?, ih]

theorem directScalars_ne_nil_iff {items : List Value} :
    directScalars items ≠ [] ↔ ∃ s, .scalar s ∈ items := by
  rw [directScalars_eq_filterMap, Ne, List.filterMap_eq_nil_iff]
  simp only [scalarText?_eq_none_iff]
  constructor
  · intro h
    by_contra hnone
    exact h fun v hv s hs => hnone ⟨s, hs ▸ hv⟩
  · rintro ⟨s, hs⟩ h
    exact h _ hs s rfl

def EndsInArray (p : List Step) : Prop := ∃ i, p.getLast? = some (.element i)

theorem not_endsInArray_nil : ¬EndsInArray [] := by
  simp [EndsInArray]

theorem endsInArray_cons {s : Step} {p : List Step} :
    EndsInArray (s :: p) ↔ (p = [] ∧ ∃ i, s = .element i) ∨ EndsInArray p := by
  rw [EndsInArray, EndsInArray, List.getLast?_cons]
  cases hp : p.getLast? with
  | none => simp [List.getLast?_eq_none_iff.1 hp]
  | some last =>
    have hne : p ≠ [] := by
      rintro rfl
      cases hp
    simp [hne]

/-- An entry of the flat view of a document: its path and its text. A scalar has one unless it is
an element of an array, an array if it is empty or a scalar is among its elements. -/
inductive Value.Entry (doc : Value) : List Step → String → Prop
  | scalar {p : List Step} {s : Scalar} (h : At doc p (.scalar s)) (hp : ¬EndsInArray p) :
      doc.Entry p s.render
  | array {p : List Step} {items : List Value} (h : At doc p (.array items))
      (hi : items = [] ∨ ∃ s, .scalar s ∈ items) :
      doc.Entry p (",".intercalate (items.filterMap Value.scalarText?))

theorem entry_scalar_iff {s : Scalar} {p : List Step} {text : String} :
    (Value.scalar s).Entry p text ↔ p = [] ∧ text = s.render := by
  constructor
  · intro h
    cases h with
    | scalar h hp =>
      cases h
      exact ⟨rfl, rfl⟩
    | array h hi => cases h
  · rintro ⟨rfl, rfl⟩
    exact .scalar (.here _) not_endsInArray_nil

theorem entry_table_iff {fields : List (String × Value)} {p : List Step} {text : String} :
    (Value.table fields).Entry p text ↔
      ∃ name v q, p = .field name :: q ∧ (name, v) ∈ fields ∧ v.Entry q text := by
  constructor
  · intro h
    cases h with
    | scalar h hp =>
      cases h with
      | field hv hw =>
        exact ⟨_, _, _, rfl, hv, .scalar hw fun h => hp (endsInArray_cons.2 (.inr h))⟩
    | array h hi =>
      cases h with
      | field hv hw => exact ⟨_, _, _, rfl, hv, .array hw hi⟩
  · rintro ⟨name, v, q, rfl, hv, h⟩
    cases h with
    | scalar h hp => exact .scalar (.field hv h) (by simpa [endsInArray_cons] using hp)
    | array h hi => exact .array (.field hv h) hi

theorem entry_array_iff {items : List Value} {p : List Step} {text : String} :
    (Value.array items).Entry p text ↔
      (p = [] ∧ (items = [] ∨ ∃ s, .scalar s ∈ items) ∧
        text = ",".intercalate (items.filterMap Value.scalarText?)) ∨
      ∃ i v q, p = .element i :: q ∧ items[i]? = some v ∧ v.scalarText? = none ∧
        v.Entry q text := by
  constructor
  · intro h
    cases h with
    | scalar h hp =>
      cases h with
      | @element _ i v _ q hv hw =>
        rw [endsInArray_cons, not_or] at hp
        refine .inr ⟨i, v, q, rfl, hv, scalarText?_eq_none_iff.2 ?_, .scalar hw hp.2⟩
        rintro s rfl
        cases hw
        exact hp.1 ⟨rfl, i, rfl⟩
    | array h hi =>
      cases h with
      | here => exact .inl ⟨rfl, hi, rfl⟩
      | element hv hw =>
        refine .inr ⟨_, _, _, rfl, hv, scalarText?_eq_none_iff.2 ?_, .array hw hi⟩
        rintro s rfl
        cases hw
  · rintro (⟨rfl, hi, rfl⟩ | ⟨i, v, q, rfl, hv, hs, h⟩)
    · exact .array (.here _) hi
    · cases h with
      | scalar h hp =>
        refine .scalar (.element hv h) fun hend => ?_
        rcases endsInArray_cons.1 hend with ⟨rfl, -⟩ | hend
        · cases h
          cases hs
        · exact hp hend
      | array h hi => exact .array (.element hv h) hi

def under (key : String) (p : List Step) : String :=
  p.foldl (fun k s => joinKey k s.text) key

def flattenElement (key : String) (v : Value) : List (String × String) :=
  if v.scalarText? = none then v.flatten key else []

theorem flattenItems_eq_flatMap (key : String) (n : Nat) (items : List Value) :
    flattenItems key n items =
      (items.zipIdx n).flatMap (fun e => flattenElement (joinKey key (toString e.2)) e.1) := by
  induction items generalizing n with
  | nil => rfl
  | cons v rest ih =>
    rw [List.zipIdx_cons, List.flatMap_cons, ← ih]
    cases v <;> rfl

theorem flattenFields_eq_flatMap (key : String) (fields : List (String × Value)) :
    flattenFields key fields = fields.flatMap (fun e => e.2.flatten (joinKey key e.1)) := by
  induction fields with
  | nil => rfl
  | cons e rest ih => rw [flattenFields, ih, List.flatMap_cons]

theorem flattenItems_append (key : String) (n : Nat) (items more : List Value) :
    flattenItems key n (items ++ more) =
      flattenItems key n items ++ flattenItems key (n + items.length) more := by
  simp [flattenItems_eq_flatMap, List.zipIdx_append]

theorem flattenItems_cons {v : Value} (hv : v.scalarText? = none) (key : String) (n : Nat)
    (rest : List Value) : flattenItems key n (v :: rest) =
      v.flatten (joinKey key (toString n)) ++ flattenItems key (n + 1) rest := by
  simp [flattenItems_eq_flatMap, flattenElement, hv]

theorem mem_flattenItems {key : String} {n : Nat} {items : List Value} {e : String × String} :
    e ∈ flattenItems key n items ↔ ∃ (i : Nat) (v : Value), items[i]? = some v ∧
      v.scalarText? = none ∧ e ∈ v.flatten (joinKey key (toString (n + i))) := by
  rw [flattenItems_eq_flatMap, List.mem_flatMap, Prod.exists, exists_comm]
  constructor
  · rintro ⟨j, v, hv, he⟩
    obtain ⟨hn, hi⟩ := List.mk_mem_zipIdx_iff_le_and_getElem?_sub.1 hv
    rw [flattenElement] at he
    split at he
    · next hs => exact ⟨j - n, v, hi, hs, by rwa [Nat.add_sub_cancel' hn]⟩
    · cases he
  · rintro ⟨i, v, hi, hs, he⟩
    refine ⟨n + i, v, List.mk_mem_zipIdx_iff_le_and_getElem?_sub.2 ⟨Nat.le_add_right n i, ?_⟩, ?_⟩
    · rwa [Nat.add_sub_cancel_left]
    · rwa [flattenElement, if_pos hs]

theorem own_entry_iff {items : List Value} : directScalars items ≠ [] ∨ items.isEmpty = true ↔
    items = [] ∨ ∃ s, .scalar s ∈ items := by
  rw [directScalars_ne_nil_iff, List.isEmpty_iff, or_comm]

theorem mem_flatten_array {items : List Value} {key k text : String} :
    (k, text) ∈ (Value.array items).flatten key ↔
      ((items = [] ∨ ∃ s, .scalar s ∈ items) ∧ k = key ∧
        text = ",".intercalate (items.filterMap Value.scalarText?)) ∨
      ∃ (i : Nat) (v : Value), items[i]? = some v ∧ v.scalarText? = none ∧
        (k, text) ∈ v.flatten (joinKey key (toString i)) := by
  rw [Value.flatten, List.mem_append, mem_flattenItems, or_comm, ← directScalars_eq_filterMap]
  simp only [Nat.zero_add]
  refine or_congr ?_ Iff.rfl
  by_cases hi : directScalars items ≠ [] ∨ items.isEmpty = true
  · rw [if_pos hi, List.mem_singleton, Prod.mk.injEq, and_iff_right (own_entry_iff.1 hi)]
  · rw [if_neg hi, ← own_entry_iff]
    simp only [hi, List.not_mem_nil, false_and]

theorem mem_flattenFields {key : String} {fields : List (String × Value)}
    {e : String × String} : e ∈ flattenFields key fields ↔
      ∃ name v, (name, v) ∈ fields ∧ e ∈ v.flatten (joinKey key name) := by
  rw [flattenFields_eq_flatMap, List.mem_flatMap, Prod.exists]

theorem mem_flatten {v : Value} {key k text : String} :
    (k, text) ∈ v.flatten key ↔ ∃ p, v.Entry p text ∧ k = under key p := by
  -- The key grows on the way down, so the hypothesis is for all keys.
  induction v using Value.induct generalizing key with
  | scalar s => simp [Value.flatten, entry_scalar_iff, under, and_comm]
  | array items ih =>
    rw [mem_flatten_array]
    constructor
    · rintro (⟨hi, rfl, rfl⟩ | ⟨i, v, hv, hs, he⟩)
      · exact ⟨[], entry_array_iff.2 (.inl ⟨rfl, hi, rfl⟩), rfl⟩
      · obtain ⟨p, hp, rfl⟩ := (ih v (List.mem_of_getElem? hv)).1 he
        exact ⟨.element i :: p, entry_array_iff.2 (.inr ⟨i, v, p, rfl, hv, hs, hp⟩), rfl⟩
    · rintro ⟨p, hp, rfl⟩
      rcases entry_array_iff.1 hp with ⟨rfl, hi, rfl⟩ | ⟨i, v, q, rfl, hv, hs, hq⟩
      · exact .inl ⟨hi, rfl, rfl⟩
      · exact .inr ⟨i, v, hv, hs, (ih v (List.mem_of_getElem? hv)).2 ⟨q, hq, rfl⟩⟩
  | table fields ih =>
    rw [Value.flatten, mem_flattenFields]
    constructor
    · rintro ⟨name, v, hv, he⟩
      obtain ⟨p, hp, rfl⟩ := (ih _ hv).1 he
      exact ⟨.field name :: p, entry_table_iff.2 ⟨name, v, p, rfl, hv, hp⟩, rfl⟩
    · rintro ⟨p, hp, rfl⟩
      obtain ⟨name, v, q, rfl, hv, hq⟩ := entry_table_iff.1 hp
      exact ⟨name, v, hv, (ih _ hv).2 ⟨q, hq, rfl⟩⟩

inductive Value.Visits : Value → List Step → List Step → Prop
  | fields {before after : List (String × Value)} {name other : String} {v w : Value}
      {p q : List Step} (h : (other, w) ∈ after) :
      Visits (.table (before ++ (name, v) :: after)) (.field name :: p) (.field other :: q)
  | inField {fields : List (String × Value)} {name : String} {v : Value} {p q : List Step}
      (h : (name, v) ∈ fields) (below : Visits v p q) :
      Visits (.table fields) (.field name :: p) (.field name :: q)
  | elements {items : List Value} {i j : Nat} {p q : List Step} (h : i < j) :
      Visits (.array items) (.element i :: p) (.element j :: q)
  | inElement {items : List Value} {i : Nat} {v : Value} {p q : List Step}
      (h : items[i]? = some v) (below : Visits v p q) :
      Visits (.array items) (.element i :: p) (.element i :: q)
  | own {items : List Value} {i : Nat} {p : List Step} : Visits (.array items) (.element i :: p) []

theorem Value.Entry.exists_split {v : Value} {p : List Step} {text : String} (h : v.Entry p text)
    (key : String) : ∃ before after, v.flatten key = before ++ (under key p, text) :: after ∧
      ∀ e ∈ after, ∃ q, v.Entry q e.2 ∧ e.1 = under key q ∧ v.Visits p q := by
  induction v using Value.induct generalizing key p with
  | scalar s =>
    obtain ⟨rfl, rfl⟩ := entry_scalar_iff.1 h
    exact ⟨[], [], rfl, nofun⟩
  | array items ih =>
    rcases entry_array_iff.1 h with ⟨rfl, hi, rfl⟩ | ⟨i, v, p, rfl, hv, hs, hp⟩
    · refine ⟨flattenItems key 0 items, [], ?_, nofun⟩
      rw [Value.flatten, if_pos (own_entry_iff.2 hi), directScalars_eq_filterMap]
      rfl
    · obtain ⟨before, after, hsplit, hafter⟩ :=
        ih v (List.mem_of_getElem? hv) hp (joinKey key (toString i))
      have hlength : (items.take i).length = i :=
        List.length_take_of_le (Nat.le_of_lt (List.getElem?_eq_some_iff.1 hv).1)
      have hitems : flattenItems key 0 items = flattenItems key 0 (items.take i) ++
          (v.flatten (joinKey key (toString i)) ++
            flattenItems key (i + 1) (items.drop (i + 1))) := by
        conv_lhs => rw [eq_take_cons_drop hv]
        rw [flattenItems_append, hlength, Nat.zero_add, flattenItems_cons hs]
      rw [Value.flatten, hitems, hsplit]
      generalize hown : (if directScalars items ≠ [] ∨ items.isEmpty = true then
        [(key, ",".intercalate (directScalars items))] else []) = own
      refine ⟨flattenItems key 0 (items.take i) ++ before, after ++
        (flattenItems key (i + 1) (items.drop (i + 1)) ++ own), by simp [under, Step.text], ?_⟩
      intro e he
      simp only [List.mem_append] at he
      rcases he with he | he | he
      · obtain ⟨q, hq, hkey, hvisits⟩ := hafter e he
        exact ⟨.element i :: q, entry_array_iff.2 (.inr ⟨i, v, q, rfl, hv, hs, hq⟩), hkey,
          .inElement hv hvisits⟩
      · obtain ⟨j, w, hw, hscalar, he⟩ := mem_flattenItems.1 he
        obtain ⟨q, hq, hkey⟩ := mem_flatten.1 he
        rw [List.getElem?_drop] at hw
        refine ⟨.element (i + 1 + j) :: q, ?_, hkey, .elements (by omega)⟩
        exact entry_array_iff.2 (.inr ⟨i + 1 + j, w, q, rfl, hw, hscalar, hq⟩)
      · rw [← hown] at he
        split at he
        · next hi =>
          obtain rfl := List.mem_singleton.1 he
          refine ⟨[], entry_array_iff.2 (.inl ⟨rfl, own_entry_iff.1 hi, ?_⟩), rfl, .own⟩
          rw [directScalars_eq_filterMap]
        · cases he
  | table fields ih =>
    obtain ⟨name, v, p, rfl, hv, h⟩ := entry_table_iff.1 h
    obtain ⟨before, after, hsplit, hafter⟩ := ih _ hv h (joinKey key name)
    obtain ⟨first, rest, rfl⟩ := List.append_of_mem hv
    refine ⟨flattenFields key first ++ before, after ++ flattenFields key rest, ?_, ?_⟩
    · rw [Value.flatten, flattenFields_eq_flatMap, List.flatMap_append, List.flatMap_cons, hsplit,
        ← flattenFields_eq_flatMap, ← flattenFields_eq_flatMap]
      simp [under, Step.text]
    · intro e he
      rcases List.mem_append.1 he with he | he
      · obtain ⟨q, hq, hkey, hvisits⟩ := hafter e he
        exact ⟨.field name :: q, entry_table_iff.2 ⟨name, v, q, rfl, hv, hq⟩, hkey,
          .inField hv hvisits⟩
      · obtain ⟨other, w, hw, he⟩ := mem_flattenFields.1 he
        obtain ⟨q, hq, hkey⟩ := mem_flatten.1 he
        refine ⟨.field other :: q, entry_table_iff.2 ⟨other, w, q, rfl, ?_, hq⟩, hkey, .fields hw⟩
        exact List.mem_append_right _ (List.mem_cons_of_mem _ hw)

def Value.Shadowed (doc : Value) (p : List Step) : Prop :=
  ∃ q text, doc.Entry q text ∧ under "" q = under "" p ∧ doc.Visits p q

theorem Value.Entry.get?_flat {fields : List (String × Value)} {p : List Step} {text : String}
    (h : (Value.table fields).Entry p text) (hp : ¬(Value.table fields).Shadowed p) :
    (flat fields).get? (under "" p) = some text := by
  obtain ⟨before, after, hsplit, hafter⟩ := h.exists_split ""
  rw [Value.flatten] at hsplit
  have hkeys : ∀ e ∈ after.reverse, e.1 ≠ under "" p := by
    intro e he hkey
    obtain ⟨q, hq, hunder, hvisits⟩ := hafter e (List.mem_reverse.1 he)
    exact hp ⟨q, e.2, hq, hunder.symm.trans hkey, hvisits⟩
  have hnone : after.reverse.findSome?
      (fun e => if e.1 = under "" p then some e.2 else none) = none :=
    List.findSome?_eq_none_iff.2 fun e he => if_neg (hkeys e he)
  rw [flat, Table.get?_ofList, hsplit, List.reverse_append, List.reverse_cons, List.append_assoc,
    List.findSome?_append, hnone, Option.none_or, List.singleton_append, List.findSome?_cons,
    if_pos rfl]

theorem under_eq_intercalate {key : String} (hkey : key ≠ "") (p : List Step) :
    under key p = ".".intercalate (key :: p.map Step.text) := by
  induction p generalizing key with
  | nil => rw [List.map_nil, String.intercalate_singleton]; rfl
  | cons s p ih =>
    have hjoin : joinKey key s.text = key ++ "." ++ s.text := if_neg hkey
    have hne : key ++ "." ++ s.text ≠ "" := by simp [hkey]
    calc under key (s :: p) = under (key ++ "." ++ s.text) p := by rw [← hjoin]; rfl
      _ = ".".intercalate ((key ++ "." ++ s.text) :: p.map Step.text) := ih hne
      _ = key ++ "." ++ ".".intercalate (s.text :: p.map Step.text) :=
        String.intercalate_cons_append
      _ = ".".intercalate (key :: (s :: p).map Step.text) := String.intercalate_cons_cons.symm

theorem under_empty {p : List Step} (hp : ∀ s ∈ p, s.text ≠ "") : under "" p = dotted p := by
  cases p with
  | nil => rfl
  | cons s p => exact under_eq_intercalate (hp s List.mem_cons_self) p

theorem Value.Entry.exists_at {doc : Value} {p : List Step} {text : String}
    (h : doc.Entry p text) : ∃ v, At doc p v := by
  cases h with
  | scalar h => exact ⟨_, h⟩
  | array h => exact ⟨_, h⟩

theorem mem_flattenFields_iff_dotted {fields : List (String × Value)}
    (hd : (Value.table fields).WellNamed) {key text : String} :
    (key, text) ∈ flattenFields "" fields ↔
      ∃ p, (Value.table fields).Entry p text ∧ key = dotted p := by
  have hemitted : (key, text) ∈ (Value.table fields).flatten "" ↔
      ∃ p, (Value.table fields).Entry p text ∧ key = under "" p := mem_flatten
  rw [Value.flatten] at hemitted
  rw [hemitted]
  refine exists_congr fun p => and_congr_right fun hp => ?_
  obtain ⟨v, hv⟩ := hp.exists_at
  rw [under_empty fun s hs => (hv.isPart hd s hs).1]

theorem Value.Entry.eq_of_dotted_eq {doc : Value} (hd : doc.WellNamed) {p q : List Step}
    {text other : String} (h : doc.Entry p text) (h' : doc.Entry q other)
    (hkey : dotted p = dotted q) : p = q ∧ text = other := by
  cases h with
  | scalar h =>
    cases h' with
    | scalar h' =>
      obtain ⟨hp, hv⟩ := h.eq_of_dotted_eq hd h' hkey
      cases hv
      exact ⟨hp, rfl⟩
    | array h' =>
      obtain ⟨-, hv⟩ := h.eq_of_dotted_eq hd h' hkey
      cases hv
  | array h =>
    cases h' with
    | scalar h' =>
      obtain ⟨-, hv⟩ := h.eq_of_dotted_eq hd h' hkey
      cases hv
    | array h' =>
      obtain ⟨hp, hv⟩ := h.eq_of_dotted_eq hd h' hkey
      cases hv
      exact ⟨hp, rfl⟩

theorem eq_of_mem_flattenFields {fields : List (String × Value)}
    (hd : (Value.table fields).WellNamed) (key text other : String)
    (h : (key, text) ∈ flattenFields "" fields) (h' : (key, other) ∈ flattenFields "" fields) :
    text = other := by
  obtain ⟨p, hp, rfl⟩ := (mem_flattenFields_iff_dotted hd).1 h
  obtain ⟨q, hq, hkey⟩ := (mem_flattenFields_iff_dotted hd).1 h'
  exact (hp.eq_of_dotted_eq hd hq hkey).2

theorem get?_flat_eq_some_iff {fields : List (String × Value)}
    (hd : (Value.table fields).WellNamed) {key text : String} :
    (flat fields).get? key = some text ↔
      ∃ p, (Value.table fields).Entry p text ∧ key = dotted p := by
  rw [flat, Table.get?_ofList_eq_some_iff (eq_of_mem_flattenFields hd),
    mem_flattenFields_iff_dotted hd]

inductive Value.Reordered : Value → Value → Prop
  | fields {l m : List (String × Value)} (h : l.Perm m) : Reordered (.table l) (.table m)
  | inField {v w : Value} (h : Reordered v w) (before after : List (String × Value))
      (name : String) :
      Reordered (.table (before ++ (name, v) :: after)) (.table (before ++ (name, w) :: after))
  | inElement {v w : Value} (h : Reordered v w) (before after : List Value) :
      Reordered (.array (before ++ v :: after)) (.array (before ++ w :: after))
  | trans {u v w : Value} (h : Reordered u v) (h' : Reordered v w) : Reordered u w

theorem Value.Reordered.scalarText?_eq_none {v w : Value} (h : v.Reordered w) :
    v.scalarText? = none ∧ w.scalarText? = none := by
  induction h with
  | fields | inField | inElement => exact ⟨rfl, rfl⟩
  | trans _ _ ih ih' => exact ⟨ih.1, ih'.2⟩

theorem Value.Reordered.flatten_perm {v w : Value} (h : v.Reordered w) (key : String) :
    (v.flatten key).Perm (w.flatten key) := by
  induction h generalizing key with
  | fields h =>
    rw [Value.flatten, Value.flatten, flattenFields_eq_flatMap, flattenFields_eq_flatMap]
    exact h.flatMap_right _
  | inField h before after name ih =>
    simp only [Value.flatten, flattenFields_eq_flatMap, List.flatMap_append, List.flatMap_cons]
    exact ((ih _).append_right _).append_left _
  | @inElement v w h before after ih =>
    -- What is reordered holds fields, so it is no scalar and the text of the array stays the same.
    obtain ⟨hv, hw⟩ := h.scalarText?_eq_none
    have htexts : directScalars (before ++ v :: after) = directScalars (before ++ w :: after) := by
      simp only [directScalars_eq_filterMap, List.filterMap_append, List.filterMap_cons, hv, hw]
    have hempty : (before ++ v :: after).isEmpty = (before ++ w :: after).isEmpty := by
      cases before <;> rfl
    simp only [Value.flatten, flattenItems_eq_flatMap, htexts, hempty, List.zipIdx_append,
      List.zipIdx_cons, List.flatMap_append, List.flatMap_cons, flattenElement, hv, hw, if_pos]
    exact (((ih _).append_right _).append_left _).append_right _
  | trans _ _ ih ih' => exact (ih key).trans (ih' key)

end LayeredConfig.Toml
