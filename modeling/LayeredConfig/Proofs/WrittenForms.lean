import LayeredConfig.ChangeSet.Written
import LayeredConfig.Proofs.Differences
import LayeredConfig.Proofs.Instants
import LayeredConfig.Proofs.JsonTexts

namespace LayeredConfig

namespace Json

theorem namedFields_ofFields (fields : List (String × Json)) :
    namedFields (fields.map (fun f => (some f.1, f.2))) = some fields := by
  induction fields with
  | nil => rfl
  | cons f rest ih => rw [List.map_cons, namedFields, ih, Option.map_some]

theorem recordFields_ofFields (names : List String) (fields : List (String × Json)) :
    (ofFields fields).recordFields names = names.mapM (single · fields) := by
  rw [ofFields, recordFields, namedFields_ofFields, Option.bind_some]

theorem asEntries_ofFields {α : Type} {value : Json → Option α} {toJson : α → Json}
    (h : ∀ a, value (toJson a) = some a) (l : List (String × α)) :
    (ofFields (l.map (fun e => (e.1, toJson e.2)))).asEntries value = some l := by
  rw [ofFields, asEntries, namedFields_ofFields, Option.bind_some]
  induction l with
  | nil => rfl
  | cons e l ih => simp [List.mapM_cons, h, ih]

theorem asOptionalText_ofOption (o : Option String) : (ofOption o).asOptionalText = some o := by
  cases o <;> rfl

end Json

theorem readTime_ofText [Time.Reader] (text : String) :
    readTime (Json.ofText text) = Time.Reader.read text := rfl

theorem ChangeEntry.ofJson?_toJson (e : ChangeEntry) : ofJson? e.toJson = some e := by
  have hfields : e.toJson.recordFields ["old_value", "new_value"] =
      some [some (Json.ofOption e.old?), some (Json.ofOption e.new?)] := by
    rw [toJson, Json.recordFields_ofFields]
    simp [Json.single]
  rw [ofJson?, hfields]
  simp only [Option.bind_eq_bind, Option.bind_some, writtenValue, Json.asOptionalText_ofOption]
  cases e <;> rfl

theorem ResourceType.ofJson?_toJson (type : ResourceType) : ofJson? type.toJson = some type := by
  cases type <;> rfl

theorem ChangeSet.ofJson?_toJson [Time.Reader] [Time.LawfulReader] {c : ChangeSet}
    (h : c.time.Proper) : ofJson? c.toJson = some { c with base := none } := by
  have hfields : c.toJson.recordFields ["resource_type", "version", "timestamp", "entries"] =
      some [some c.type.toJson, some (Json.ofText c.version), some (Json.ofText c.time.zuluText),
        some (Json.ofFields (c.entries.entries.map (fun e => (e.1, e.2.toJson))))] := by
    rw [toJson, Json.recordFields_ofFields]
    simp [Json.single]
  have hversion : (Json.ofText c.version).asText = some c.version := rfl
  rw [ofJson?, hfields]
  simp only [Option.bind_eq_bind, Option.bind_some, ResourceType.ofJson?_toJson, hversion,
    readTime_ofText, Time.LawfulReader.read_zuluText _ h,
    Json.asEntries_ofFields ChangeEntry.ofJson?_toJson, Table.ofList_entries]
  rfl

theorem Snapshot.ofJson?_toJson [Time.Reader] [Time.LawfulReader] {s : Snapshot}
    (h : s.frozenAt.Proper) (hordinal : Number.i32.contains s.ordinal = true) (id : Nat) :
    ofJson? id s.toJson = some { s with id := id } := by
  have hfields : s.toJson.recordFields ["name", "ordinal", "properties", "frozen_at"] =
      some [some (Json.ofText s.name), some (Json.integer s.ordinal),
        some (Json.ofFields (s.entries.entries.map (fun e => (e.1, Json.ofText e.2)))),
        some (Json.ofText s.frozenAt.zuluText)] := by
    rw [toJson, Json.recordFields_ofFields]
    simp [Json.single]
  have hinteger : (Json.integer s.ordinal).asInteger Number.i32 = some s.ordinal := if_pos hordinal
  have htext : ∀ text, (Json.ofText text).asText = some text := fun _ => rfl
  rw [ofJson?, hfields]
  simp only [Option.bind_eq_bind, Option.bind_some, htext, hinteger,
    readTime_ofText, Time.LawfulReader.read_zuluText _ h,
    Json.asEntries_ofFields htext, Table.ofList_entries]
  rfl

theorem Snapshot.Same.diff_isEmpty {s t : Snapshot} (h : s.Same t) (version : String)
    (now : Time.Instant) : (diff s t version now).entries.isEmpty = true ∧
      (diffConfiguration s t version now).entries.isEmpty = true := by
  rw [diffConfiguration_entries s t version version now now]
  have hempty := (diff_isEmpty_iff s t version now).mpr h.2
  exact ⟨hempty, hempty⟩

/-- Where documents and instants are read back from their texts, so is a change set, but without its
base, and a snapshot, which then does not differ from what is read back. -/
theorem written_exact [Json.Codec] [Json.LawfulCodec] [Time.Reader] [Time.LawfulReader] :
    (∀ c : ChangeSet, c.time.Proper →
      (Json.Codec.read (Json.Codec.write c.toJson)).bind ChangeSet.ofJson? =
        some { c with base := none }) ∧
    ∀ s : Snapshot, s.frozenAt.Proper → Number.i32.contains s.ordinal = true → ∀ id,
      ∃ t, (Json.Codec.read (Json.Codec.write s.toJson)).bind (Snapshot.ofJson? id) = some t ∧
        t = { s with id := id } ∧ s.Same t ∧
        ∀ version now,
          ((diff s t version now).entries.isEmpty = true ∧
            (diffConfiguration s t version now).entries.isEmpty = true) ∧
          (diff t s version now).entries.isEmpty = true ∧
            (diffConfiguration t s version now).entries.isEmpty = true := by
  constructor
  · intro c htime
    rw [Json.LawfulCodec.read_write, Option.bind_some, ChangeSet.ofJson?_toJson htime]
  · intro s htime hordinal id
    have hforth : s.Same { s with id := id } := ⟨rfl, rfl⟩
    have hback : Snapshot.Same { s with id := id } s := ⟨rfl, rfl⟩
    refine ⟨{ s with id := id }, ?_, rfl, hforth, fun version now =>
      ⟨hforth.diff_isEmpty version now, hback.diff_isEmpty version now⟩⟩
    rw [Json.LawfulCodec.read_write, Option.bind_some, Snapshot.ofJson?_toJson htime hordinal]

theorem written_exact_escaped :
    let time : Time.Instant := ⟨1483228799, 1500000000⟩
    let s : Snapshot := ⟨3, "base \"0\"", -2147483648, Table.ofList [("k", "\n"), ("", "v")], time⟩
    let c : ChangeSet := ⟨.custom "a\"b\\\u0001", some s, "", time,
      Table.ofList [("", .added ""), ("x.y", .updated "null" "\x7f"), ("é", .removed "\t")]⟩
    ((Json.read c.toJson.write).bind ChangeSet.ofJson? = some { c with base := none }) ∧
    (Json.read s.toJson.write).bind (Snapshot.ofJson? 4) = some { s with id := 4 } := by
  intro time s c
  have htime : time.Proper := ⟨by decide, by decide⟩
  refine ⟨written_exact.1 c htime, ?_⟩
  obtain ⟨t, hread, rfl, -⟩ := written_exact.2 s htime (by decide) 4
  exact hread

end LayeredConfig
