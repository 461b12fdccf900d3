import LayeredConfig.Proofs.Moments
import LayeredConfig.Source.Document
import LayeredConfig.Source.Environment
import LayeredConfig.Source.Wrapped

namespace LayeredConfig.Source

variable {m : Moment}

def Tabled (s : Source) (m : Moment) (t : Table Property) : Prop :=
  (∀ key, (s.get key).Gives m (t.get? key)) ∧ s.properties.Gives m t

theorem Tabled.agrees {s : Source} {t : Table Property} (h : s.Tabled m t) : s.Agrees m := by
  intro key
  rw [AgreesOn, value?, listed?, (h.1 key).value_eq, h.2.value_eq]

theorem Tabled.steady {s : Source} {t : Table Property} (h : s.Tabled m t)
    (hd : s.declared.Steady m) : s.Steady m :=
  ⟨hd, fun key => (h.1 key).steady, h.2.steady⟩

theorem tabled_of_mapValues {α : Type} {s : Source} {values : Table α} {f : String → α → Property}
    (hg : ∀ key, (s.get key).Gives m ((values.get? key).map (f key)))
    (hp : s.properties.Gives m (values.mapValues f)) : s.Tabled m (values.mapValues f) := by
  refine ⟨fun key => ?_, hp⟩
  rw [Table.get?_mapValues]
  exact hg key

theorem fixed_tabled (id : Nat) (name : String) (ordinal : Int) (scannable : Bool)
    (values metadata : Table String) :
    (fixed id name ordinal scannable values metadata).Tabled m
      (values.mapValues (fun key value =>
        (Property.of key value name).withAllMetadata metadata.entries)) :=
  tabled_of_mapValues (fun _ => Reading.gives_pure _) (Reading.gives_pure _)

theorem dynamic_tabled (id : Nat) (name : String) (cell : Nat) :
    (dynamic id name cell).Tabled m
      ((m.store.dial cell).values.mapValues (Property.of · · name)) :=
  tabled_of_mapValues (fun _ => Reading.gives_peek _) (Reading.gives_peek _)

theorem environment_tabled (id : Nat) (name lead separator : String) (ordinal : Int) (cell : Nat) :
    (environment id name lead separator ordinal cell).Tabled m
      ((m.store.variablesOf cell).mapValues (fun key e =>
        ((Property.of key e.2 name).withMetadata "source" "environment").withMetadata
          "env_var" e.1)) :=
  tabled_of_mapValues (fun _ => Reading.gives_peek _) (Reading.gives_peek _)

theorem document_tabled (id : Nat) (name : String) (ordinal : Int) (path : Option String)
    (cell : Nat) :
    (document id name ordinal path cell).Tabled m
      ((m.store.document cell).mapValues (Property.of · · name)) :=
  tabled_of_mapValues (fun _ => Reading.gives_peek _) (Reading.gives_peek _)

theorem document_text (id : Nat) (name : String) (ordinal : Int) (path : Option String) (cell : Nat)
    (key : String) :
    ((document id name ordinal path cell).value? m key).bind (·.value) =
      (m.store.document cell).get? key := by
  have hread := ((document_tabled (m := m) id name ordinal path cell).1 key).value_eq
  rw [value?, hread, Table.get?_mapValues]
  cases (m.store.document cell).get? key <;> rfl

theorem ofSnapshot_tabled (snapshot : Snapshot) :
    (ofSnapshot snapshot).Tabled m (snapshot.entries.mapValues snapshot.property) :=
  tabled_of_mapValues (fun _ => Reading.gives_pure _) (Reading.gives_pure _)

theorem nothing_tabled (id : Nat) : (nothing id).Tabled m .empty :=
  ⟨fun _ => Reading.gives_pure _, Reading.gives_pure _⟩

theorem fixed_steady (id : Nat) (name : String) (ordinal : Int) (scannable : Bool)
    (values metadata : Table String) :
    (fixed id name ordinal scannable values metadata).Steady m :=
  (fixed_tabled id name ordinal scannable values metadata).steady rfl

end LayeredConfig.Source
