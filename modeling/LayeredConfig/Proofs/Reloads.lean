import LayeredConfig.Proofs.Answers
import LayeredConfig.Toml.Reader
import LayeredConfig.World

namespace LayeredConfig

structure Source.Shows (s : Source) (declared : Int) (t : Table String) (m : Moment) : Prop where
  get : ∀ key, (s.get key).Gives m ((t.get? key).map (Property.of key · s.name))
  properties : s.properties.Gives m (t.mapValues (Property.of · · s.name))
  ordinal : s.ordinal.Gives m (((t.get? ordinalKey).bind readOrdinal).getD declared)

theorem Source.document_shows (id : Nat) (name : String) (declared : Int) (path : Option String)
    (cell : Nat) (m : Moment) :
    (document id name declared path cell).Shows declared (m.store.document cell) m := by
  have htabled := document_tabled (m := m) id name declared path cell
  have hget : ∀ key, ((document id name declared path cell).get key).Gives m
      (((m.store.document cell).get? key).map (Property.of key · name)) :=
    fun key => Reading.gives_peek _
  have hown : (document id name declared path cell).ownOrdinal? m =
      ((m.store.document cell).get? ordinalKey).bind readOrdinal := by
    rw [ownOrdinal?, (hget ordinalKey).value_eq]
    cases (m.store.document cell).get? ordinalKey <;> rfl
  have hordinal := ordinal_gives (htabled.steady rfl)
  rw [hown] at hordinal
  exact ⟨hget, htabled.2, hordinal⟩

namespace Document

variable [Toml.Reader]

def entries? : Option File → Option (Table String)
  | some (.ok bytes) =>
    ((String.fromUTF8? bytes).bind (fun text => (Toml.Reader.read text).toOption)).map Toml.flat
  | _ => none

inductive Fails : Option File → ConfigError → Prop
  | missing : Fails none (.fileUnreadable noSuchFile)
  | unreadable {cause : String} : Fails (some (.error cause)) (.fileUnreadable cause)
  | noText {bytes : ByteArray} (h : String.fromUTF8? bytes = none) :
      Fails (some (.ok bytes)) (.fileUnreadable notText)
  | malformed {bytes : ByteArray} {text cause : String} (h : String.fromUTF8? bytes = some text)
      (hread : Toml.Reader.read text = .error cause) :
      Fails (some (.ok bytes)) (.malformedDocument cause)

theorem Fails.entries?_eq_none {file : Option File} {e : ConfigError} (h : Fails file e) :
    entries? file = none := by
  cases h with
  | missing => rfl
  | unreadable => rfl
  | noText htext => simp [entries?, htext]
  | malformed htext hread => simp [entries?, htext, hread, Except.toOption]

theorem parse_eq_ok_iff {content : String} {t : Table String} :
    parse content = .ok t ↔ (Toml.Reader.read content).toOption.map Toml.flat = some t := by
  rw [parse]
  cases Toml.Reader.read content <;> simp [Except.toOption]

theorem load_eq_ok_iff {files : Files} {path : String} {t : Table String} :
    load files path = .ok t ↔ entries? (files.get? path) = some t := by
  rw [load, readText]
  match files.get? path with
  | none => exact iff_of_false nofun nofun
  | some (.error cause) => exact iff_of_false nofun nofun
  | some (.ok bytes) =>
    rw [entries?]
    cases htext : String.fromUTF8? bytes with
    | none =>
      simp only [htext]
      exact iff_of_false nofun nofun
    | some text =>
      simp only [htext]
      exact parse_eq_ok_iff

theorem load_eq_error_iff {files : Files} {path : String} {e : ConfigError} :
    load files path = .error e ↔ Fails (files.get? path) e := by
  rw [load, readText]
  generalize files.get? path = content
  constructor
  · intro h
    match content with
    | none =>
      cases h
      exact .missing
    | some (.error cause) =>
      cases h
      exact .unreadable
    | some (.ok bytes) =>
      cases htext : String.fromUTF8? bytes with
      | none =>
        simp only [htext] at h
        cases h
        exact .noText htext
      | some text =>
        cases hread : Toml.Reader.read text with
        | error cause =>
          simp only [htext, Except.bind, parse, hread] at h
          cases h
          exact .malformed htext hread
        | ok fields =>
          simp only [htext, Except.bind, parse, hread] at h
          cases h
  · rintro (_ | _ | htext | ⟨htext, hread⟩)
    · rfl
    · rfl
    · simp only [htext]
      rfl
    · simp only [htext, Except.bind, parse, hread]

end Document

namespace World

open Document

def addDocument (w : World) (t : Table String) : World :=
  { w with
    store := { w.store with documents := w.store.documents ++ [t] }
    nextId := w.nextId + 1 }

theorem document_addDocument (w : World) (t : Table String) :
    (w.addDocument t).store.document w.store.documents.length = t := by
  simp [addDocument, Store.document]

section Loading

variable [Toml.Reader]

theorem run_documentOfText (name content : String) (ordinal : Option Int) (w : World) :
    StateT.run (documentOfText name content ordinal) w = match parse content with
      | .error e => (.error e, w)
      | .ok t => (.ok (w.store.documents.length, Source.document w.nextId name
          (ordinal.getD defaultOrdinal) none w.store.documents.length), w.addDocument t) := by
  rw [documentOfText]
  cases parse content <;> rfl

theorem run_documentOfFile (path : String) (ordinal : Option Int) (name : Option String)
    (w : World) :
    StateT.run (documentOfFile path ordinal name) w = match load w.files path with
      | .error e => (.error e, w)
      | .ok t => (.ok (w.store.documents.length, Source.document w.nextId
          (name.getD (defaultName path)) (ordinal.getD defaultOrdinal) (some path)
          w.store.documents.length), w.addDocument t) := by
  rw [documentOfFile, StateT.run_bind, StateT.run_get, pure_bind]
  cases load w.files path <;> rfl

theorem run_reloadDocument (path : String) (cell : Nat) (w : World) :
    StateT.run (reloadDocument (some path) cell) w = match load w.files path with
      | .error e => (.error e, w)
      | .ok t => (.ok (), { w with store := w.store.setDocument cell t }) := by
  rw [reloadDocument, StateT.run_bind, StateT.run_get, pure_bind]
  cases load w.files path <;> rfl

theorem reloadDocument_ok_iff {path : String} {cell : Nat} {w : World} :
    (StateT.run (reloadDocument (some path) cell) w).1 = .ok () ↔
      ∃ t, entries? (w.files.get? path) = some t := by
  simp only [run_reloadDocument, ← load_eq_ok_iff]
  cases load w.files path <;> simp

theorem reloadDocument_error_iff {path : String} {cell : Nat} {w : World} {e : ConfigError} :
    (StateT.run (reloadDocument (some path) cell) w).1 = .error e ↔
      Fails (w.files.get? path) e := by
  rw [run_reloadDocument, ← load_eq_error_iff]
  cases load w.files path <;> simp

theorem reloadDocument_unchanged {path : String} {cell : Nat} {w : World} {e : ConfigError}
    (h : (StateT.run (reloadDocument (some path) cell) w).1 = .error e) :
    (StateT.run (reloadDocument (some path) cell) w).2 = w := by
  rw [run_reloadDocument] at h ⊢
  cases hload : load w.files path with
  | error e' => rfl
  | ok t =>
    rw [hload] at h
    cases h

end Loading

end World

inductive FileStep where
  | write (path : String) (file : Document.File)
  | remove (path : String)
  | reload

namespace FileStep

open World Document

def held (path : String) (content : Option File) : FileStep → Option File
  | write written file => if written = path then some file else content
  | remove removed => if removed = path then none else content
  | reload => content

def heldAfter (path : String) (content : Option File) (steps : List FileStep) : Option File :=
  steps.foldl (held path) content

def loads (content : Option File) : FileStep → List (Option File)
  | write _ _ => []
  | remove _ => []
  | reload => [content]

def loadsOfAll (path : String) (content : Option File) : List FileStep → List (Option File)
  | [] => []
  | step :: rest => step.loads content ++ loadsOfAll path (step.held path content) rest

section Steps

variable [Toml.Reader]

def run (source : Option String) (cell : Nat) : FileStep → Op Unit
  | write path file => writeFile path file
  | remove path => removeFile path
  | reload => discard (reloadDocument source cell)

def runAll (source : Option String) (cell : Nat) : List FileStep → Op Unit
  | [] => pure ()
  | step :: rest => do
    step.run source cell
    runAll source cell rest

structure Tracks (path : String) (cell : Nat) (content : Option File)
    (past : List (Option File)) (w : World) : Prop where
  file : w.files.get? path = content
  cell_lt : cell < w.store.documents.length
  document : (past.filterMap entries?).getLast? = some (w.store.document cell)

section Tracks

variable {path : String} {cell : Nat} {content : Option File} {past : List (Option File)}
  {w : World}

theorem Tracks.of_made {ordinal : Option Int} {name : Option String} {s : Source} {w₀ : World}
    (h : StateT.run (documentOfFile path ordinal name) w = (.ok (cell, s), w₀)) :
    Tracks path cell (w.files.get? path) [w.files.get? path] w₀ ∧
      ∃ id name, s = .document id name (ordinal.getD defaultOrdinal) (some path) cell := by
  rw [run_documentOfFile] at h
  cases hload : load w.files path with
  | error e =>
    rw [hload] at h
    cases h
  | ok t =>
    rw [hload] at h
    cases h
    refine ⟨⟨rfl, ?_, ?_⟩, _, _, rfl⟩
    · simp [addDocument]
    · rw [document_addDocument, List.filterMap_cons_some (load_eq_ok_iff.mp hload)]
      rfl

theorem Tracks.reload (h : Tracks path cell content past w) :
    Tracks path cell content (past ++ [content])
      (StateT.run (reloadDocument (some path) cell) w).2 := by
  rw [run_reloadDocument]
  cases hload : load w.files path with
  | error e =>
    have hnone : entries? content = none := by
      rw [← h.file]
      exact (load_eq_error_iff.mp hload).entries?_eq_none
    refine ⟨h.file, h.cell_lt, ?_⟩
    rw [List.filterMap_append, List.filterMap_cons_none hnone, List.filterMap_nil, List.append_nil]
    exact h.document
  | ok t =>
    have hsome : entries? content = some t := h.file ▸ load_eq_ok_iff.mp hload
    refine ⟨h.file, ?_, ?_⟩
    · simpa [Store.setDocument] using h.cell_lt
    · simp [hsome, Store.setDocument, Store.document, h.cell_lt]

theorem Tracks.step (h : Tracks path cell content past w) (step : FileStep) :
    Tracks path cell (step.held path content) (past ++ step.loads content)
      (StateT.run (step.run (some path) cell) w).2 := by
  cases step with
  | write written file =>
    rw [loads, List.append_nil]
    refine ⟨?_, h.cell_lt, h.document⟩
    rw [held, ← h.file]
    exact Table.get?_insert ..
  | remove removed =>
    rw [loads, List.append_nil]
    refine ⟨?_, h.cell_lt, h.document⟩
    rw [held, ← h.file]
    exact Table.get?_erase ..
  | reload => exact h.reload

theorem Tracks.steps (h : Tracks path cell content past w) (steps : List FileStep) :
    Tracks path cell (heldAfter path content steps) (past ++ loadsOfAll path content steps)
      (StateT.run (runAll (some path) cell steps) w).2 := by
  induction steps generalizing content past w with
  | nil =>
    rw [loadsOfAll, List.append_nil]
    exact h
  | cons step rest ih =>
    rw [loadsOfAll, ← List.append_assoc]
    exact ih (h.step step)

end Tracks

theorem store_runAll_none (cell : Nat) (steps : List FileStep) (w : World) :
    (StateT.run (runAll none cell steps) w).2.store = w.store := by
  induction steps generalizing w with
  | nil => rfl
  | cons step rest ih =>
    have hstep : (StateT.run (step.run none cell) w).2.store = w.store := by cases step <;> rfl
    exact (ih _).trans hstep

end Steps

end FileStep

namespace World

open Document FileStep

/-- Whatever is written and removed, and however often it is loaded again, a source of a file shows
what its file held at the last load of a document; a load fails where there is no file, no text or
no document, and then nothing changes. A source of a text shows that text for ever. -/
theorem reloads_exact [Toml.Reader] :
    (∀ path ordinal name w cell s w₀,
      StateT.run (documentOfFile path ordinal name) w = (.ok (cell, s), w₀) → ∀ steps,
      let first := w.files.get? path
      let content := heldAfter path first steps
      let w' := (StateT.run (runAll (some path) cell steps) w₀).2
      let again := StateT.run (reloadDocument (some path) cell) w'
      w'.files.get? path = content ∧
      (∃ t, ((first :: loadsOfAll path first steps).filterMap entries?).getLast? = some t ∧
        ∀ filters, s.Shows (ordinal.getD defaultOrdinal) t ⟨w'.store, filters⟩) ∧
      (again.1 = .ok () ↔ ∃ t, entries? content = some t) ∧
      ∀ e, (again.1 = .error e ↔ Fails content e) ∧ (again.1 = .error e → again.2 = w')) ∧
    ∀ name text ordinal w cell s w₀,
      StateT.run (documentOfText name text ordinal) w = (.ok (cell, s), w₀) → ∀ steps,
      let w' := (StateT.run (runAll none cell steps) w₀).2
      (∃ fields, Toml.Reader.read text = .ok fields ∧
        ∀ filters, s.Shows (ordinal.getD defaultOrdinal) (Toml.flat fields) ⟨w'.store, filters⟩) ∧
      StateT.run (reloadDocument none cell) w' = (.ok (), w') := by
  constructor
  · intro path ordinal name w cell s w₀ hmade steps first content w' again
    obtain ⟨hstart, id, name, rfl⟩ := Tracks.of_made hmade
    have htracks := hstart.steps steps
    refine ⟨htracks.file, ⟨_, htracks.document, fun filters => ?_⟩, ?_, fun e => ⟨?_, ?_⟩⟩
    · exact Source.document_shows _ _ _ _ _ ⟨w'.store, filters⟩
    · rw [reloadDocument_ok_iff, htracks.file]
    · rw [reloadDocument_error_iff, htracks.file]
    · exact reloadDocument_unchanged
  · intro name text ordinal w cell s w₀ hmade steps w'
    rw [run_documentOfText, parse] at hmade
    cases hread : Toml.Reader.read text with
    | error cause =>
      rw [hread] at hmade
      cases hmade
    | ok fields =>
      rw [hread] at hmade
      cases hmade
      have hstore : w'.store.document w.store.documents.length = Toml.flat fields := by
        rw [store_runAll_none, document_addDocument]
      refine ⟨⟨fields, rfl, fun filters => ?_⟩, rfl⟩
      rw [← hstore]
      exact Source.document_shows _ _ _ _ _ ⟨w'.store, filters⟩

theorem reloads_exact_kept :
    let path := "c.toml"
    let w : World := { World.new ⟨0, 0⟩ with files := .ofList [(path, .ok "a='1'".toUTF8)] }
    let steps : List FileStep := [.write path (.ok "strata.ordinal='7'".toUTF8), .reload,
      .write path (.ok "a=".toUTF8), .reload, .write path (.ok ⟨#[255]⟩), .reload,
      .write path (.error "Permission denied (os error 13)"), .reload, .remove path, .reload]
    (∃ cell s w₀, StateT.run (documentOfFile path none none) w = (.ok (cell, s), w₀) ∧
      let w' := (StateT.run (runAll (some path) cell steps) w₀).2
      ∀ filters, (s.get "a").Gives ⟨w'.store, filters⟩ none ∧
        s.ordinal.Gives ⟨w'.store, filters⟩ 7) ∧
    ∃ cell s w₀, StateT.run (documentOfText "text" "a='1'" none) w = (.ok (cell, s), w₀) ∧
      let w' := (StateT.run (runAll none cell steps) w₀).2
      StateT.run (reloadDocument none cell) w' = (.ok (), w') := by
  intro path w steps
  have hload : load w.files path = .ok (.ofList [("a", "1")]) :=
    load_eq_ok_iff.mpr (by decide +kernel)
  have hfile := run_documentOfFile path none none w
  rw [hload] at hfile
  have hparse : parse "a='1'" = .ok (.ofList [("a", "1")]) :=
    parse_eq_ok_iff.mpr (by decide +kernel)
  have htext := run_documentOfText "text" "a='1'" none w
  rw [hparse] at htext
  refine ⟨⟨_, _, _, hfile, fun filters => ?_⟩, ⟨_, _, _, htext, ?_⟩⟩
  · obtain ⟨-, ⟨t, hlast, hshows⟩, -⟩ := reloads_exact.1 _ _ _ _ _ _ _ hfile steps
    have ht : ((w.files.get? path :: loadsOfAll path (w.files.get? path) steps).filterMap
        entries?).getLast? = some (.ofList [("strata.ordinal", "7")]) := by
      decide +kernel
    obtain rfl := Option.some.inj (ht.symm.trans hlast)
    have hnone : (Table.ofList [("strata.ordinal", "7")]).get? "a" = none := by decide
    have hseven : ((Table.ofList [("strata.ordinal", "7")]).get?
        Source.ordinalKey).bind Source.readOrdinal = some 7 := by decide
    have hvalue := (hshows filters).get "a"
    rw [hnone] at hvalue
    have hown := (hshows filters).ordinal
    rw [hseven] at hown
    exact ⟨hvalue, hown⟩
  · exact (reloads_exact.2 _ _ _ _ _ _ _ htext steps).2

end World

end LayeredConfig
