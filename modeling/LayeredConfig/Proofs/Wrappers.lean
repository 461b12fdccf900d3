import LayeredConfig.Proofs.Enumeration

namespace LayeredConfig.Source

variable {m : Moment} {inner : Source}

theorem filtered_value? (id : Nat) (keep : String → Bool) (key : String) :
    (filtered id inner keep).value? m key = if keep key then inner.value? m key else none := by
  change Option.filter Property.isPresent
    (Reading.value (if keep key then inner.get key else pure none) m) = _
  split
  · rfl
  · rfl

theorem filtered_properties (h : inner.Steady m) (id : Nat) (keep : String → Bool) :
    (filtered id inner keep).properties.Gives m
      ((inner.properties.value m).filter (fun key _ => keep key)) :=
  h.properties.gives.bind (Reading.gives_pure _)

theorem filtered_listed? (id : Nat) (keep : String → Bool) (key : String) :
    (filtered id inner keep).listed? m key = if keep key then inner.listed? m key else none := by
  change (((inner.properties.value m).filter (fun key _ => keep key)).get? key).filter
    Property.isPresent = _
  rw [Table.get?_filter, listed?]
  by_cases hkeep : keep key = true
  · simp [hkeep]
  · cases (inner.properties.value m).get? key <;> simp [hkeep]

theorem filtered_get_steady {key : String} (h : (inner.get key).Steady m) (id : Nat)
    (keep : String → Bool) : ((filtered id inner keep).get key).Steady m := by
  change Reading.Steady (if keep key then inner.get key else pure none) m
  split
  · exact h
  · exact (Reading.gives_pure _).steady

theorem filtered_steady (h : inner.Steady m) (id : Nat) (keep : String → Bool) :
    (filtered id inner keep).Steady m :=
  ⟨ordinal_steady h, fun key => filtered_get_steady (h.get key) id keep,
    (filtered_properties h id keep).steady⟩

def layered (overriding : Bool) (own : Option Property) (under : Option Property) :
    Option Property :=
  if overriding then own.or under else under.or own

def addition? (name : String) (items : Table String) (key : String) : Option Property :=
  (items.get? key).map (Property.of key · name)

theorem addition?_filter (name : String) (items : Table String) (key : String) :
    (addition? name items key).filter Property.isPresent = addition? name items key := by
  rw [addition?]
  cases items.get? key <;> rfl

theorem layered_filter (overriding : Bool) {own under : Option Property}
    (ho : own.filter Property.isPresent = own) (hu : under.filter Property.isPresent = under) :
    (layered overriding own under).filter Property.isPresent = layered overriding own under := by
  cases overriding <;> cases own <;> cases under <;> simp_all [layered]

theorem enriched_get_steady {key : String} (h : (inner.get key).Steady m) (id : Nat)
    (items : Table String) (overriding : Bool) :
    ((enriched id inner items overriding).get key).Steady m :=
  (h.gives.bind (Reading.gives_pure _)).steady

theorem value?_filter (s : Source) (key : String) :
    (s.value? m key).filter Property.isPresent = s.value? m key := by
  rw [value?, Option.filter_filter]
  simp

theorem enriched_value? (id : Nat) (items : Table String) (overriding : Bool) (key : String) :
    (enriched id inner items overriding).value? m key =
      layered overriding (addition? ("enriched:" ++ inner.name) items key) (inner.value? m key) :=
  layered_filter overriding (addition?_filter _ _ _) (value?_filter _ _)

def addEntry (overriding : Bool) (name : String) (t : Table Property) (e : String × String) :
    Table Property :=
  if overriding || !((t.get? e.1).any Property.isPresent) then
    t.insert e.1 (Property.of e.1 e.2 name)
  else t

theorem get?_addEntry_of_ne {overriding : Bool} {name : String} {t : Table Property}
    {e : String × String} {key : String} (h : e.1 ≠ key) :
    (addEntry overriding name t e).get? key = t.get? key := by
  rw [addEntry]
  split
  · rw [Table.get?_insert, if_neg h]
  · rfl

theorem any_eq_isSome_filter {α : Type} (o : Option α) (p : α → Bool) :
    o.any p = (o.filter p).isSome := by
  cases o with
  | none => rfl
  | some a => cases hp : p a <;> simp [hp]

theorem get?_addEntry_self (overriding : Bool) (name : String) (t : Table Property)
    (key value : String) :
    ((addEntry overriding name t (key, value)).get? key).filter Property.isPresent =
      layered overriding (some (Property.of key value name))
        ((t.get? key).filter Property.isPresent) := by
  have hinsert : ((t.insert key (Property.of key value name)).get? key).filter Property.isPresent =
      some (Property.of key value name) := by
    rw [Table.get?_insert, if_pos rfl]
    rfl
  simp only [addEntry, any_eq_isSome_filter]
  cases overriding with
  | true => exact hinsert
  | false =>
    cases hu : (t.get? key).filter Property.isPresent with
    | none => exact hinsert
    | some p => exact hu

theorem get?_foldl_addEntry (overriding : Bool) (name : String) (key : String)
    {entries : List (String × String)} (hs : entries.Pairwise (fun a b => a.1 < b.1))
    (t : Table Property) :
    ((entries.foldl (addEntry overriding name) t).get? key).filter Property.isPresent =
      layered overriding ((Table.lookup key entries).map (Property.of key · name))
        ((t.get? key).filter Property.isPresent) := by
  induction entries generalizing t with
  | nil => cases overriding <;> simp [layered, Table.lookup]
  | cons e rest ih =>
    obtain ⟨k, v⟩ := e
    have hrest := List.pairwise_cons.mp hs
    rw [List.foldl_cons, ih hrest.2]
    by_cases hk : k = key
    · subst hk
      -- The names strictly increase, so that no later entry has the same one.
      have hlookup : Table.lookup k rest = none := by
        apply Table.lookup_eq_none_of_forall
        intro e he heq
        exact absurd (hrest.1 e he) (heq ▸ String.lt_irrefl _)
      rw [hlookup, get?_addEntry_self]
      cases overriding <;> simp [layered, Table.lookup]
    · rw [get?_addEntry_of_ne hk, Table.lookup, if_neg hk]

theorem enriched_properties (h : inner.Steady m) (id : Nat) (items : Table String)
    (overriding : Bool) :
    (enriched id inner items overriding).properties.Gives m
      (addEntries overriding ("enriched:" ++ inner.name) items (inner.properties.value m)) :=
  h.properties.gives.bind (Reading.gives_pure _)

theorem enriched_listed? (id : Nat) (items : Table String) (overriding : Bool) (key : String) :
    (enriched id inner items overriding).listed? m key =
      layered overriding (addition? ("enriched:" ++ inner.name) items key) (inner.listed? m key) :=
  get?_foldl_addEntry overriding _ key items.sorted _

theorem enriched_steady (h : inner.Steady m) (id : Nat) (items : Table String)
    (overriding : Bool) : (enriched id inner items overriding).Steady m :=
  ⟨ordinal_steady h, fun key => enriched_get_steady (h.get key) id items overriding,
    (enriched_properties h id items overriding).steady⟩

variable {c : Context}

theorem wrapping_get (hc : c.Steady m) (id : Nat) (name : String) (ordinal : Int) (key : String) :
    ((wrapping id name ordinal c).get key).Gives m
      ((c.text? m key).map (Property.of key · name)) :=
  (Context.get_gives hc key).bind (Reading.gives_pure _)

theorem wrapping_value? (hc : c.Steady m) (id : Nat) (name : String) (ordinal : Int)
    (key : String) :
    (wrapping id name ordinal c).value? m key = (c.text? m key).map (Property.of key · name) := by
  rw [value?, (wrapping_get hc id name ordinal key).value_eq]
  cases c.text? m key <;> rfl

theorem wrapping_properties (hc : c.Steady m) (id : Nat) (name : String) (ordinal : Int) :
    (wrapping id name ordinal c).properties.Gives m
      ((c.properties.value m).mapValues (Property.of · · name)) :=
  (Context.properties_steady hc).gives.bind (Reading.gives_pure _)

theorem wrapping_steady (hc : c.Steady m) (id : Nat) (name : String) (ordinal : Int) :
    (wrapping id name ordinal c).Steady m :=
  ⟨rfl, fun key => (wrapping_get hc id name ordinal key).steady,
    (wrapping_properties hc id name ordinal).steady⟩

theorem wrapping_listed? (hc : c.Steady m) (id : Nat) (name : String) (ordinal : Int)
    (key : String) :
    (wrapping id name ordinal c).listed? m key =
      ((c.properties.value m).get? key).map (Property.of key · name) := by
  rw [listed?, (wrapping_properties hc id name ordinal).value_eq, Table.get?_mapValues]
  cases (c.properties.value m).get? key <;> rfl

theorem wrapping_agreesOn_iff (hc : c.Steady m) (id : Nat) (name : String) (ordinal : Int)
    {key : String} (ha : ∀ s ∈ c.sources, s.scannable = true → s.AgreesOn m key) :
    (wrapping id name ordinal c).AgreesOn m key ↔
      ((c.text? m key).isSome → Resolution.Enumerable m key c.sources) := by
  rw [AgreesOn, wrapping_value? hc, wrapping_listed? hc, Context.properties_get? hc ha]
  split
  · next hkey => exact ⟨fun _ _ => hkey, fun _ => rfl⟩
  · next hkey => cases c.text? m key <;> simp [hkey]

end LayeredConfig.Source
