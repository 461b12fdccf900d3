import LayeredConfig.Proofs.Freezing
import LayeredConfig.Proofs.Rebuilding
import LayeredConfig.Proofs.Reloads

namespace LayeredConfig

inductive Origin where
  | document (f : FileSettings) (entries : Table String)
  | environment (e : EnvironmentSettings) (assigned : Table (String × String))
deriving DecidableEq

namespace Origin

def name : Origin → String
  | document f _ => f.name.getD (Document.defaultName f.path)
  | environment e _ => Environment.defaultName e.lead

def declared : Origin → Int
  | document f _ => f.ordinal.getD Document.defaultOrdinal
  | environment e _ => e.ordinal.getD Environment.defaultOrdinal

def text? : Origin → String → Option String
  | document _ entries, key => entries.get? key
  | environment _ assigned, key => (assigned.get? key).map (·.2)

def ordinal (o : Origin) : Int :=
  ((o.text? Source.ordinalKey).bind Source.readOrdinal).getD o.declared

structure Decides (origins : List Origin) (key : String) (i : Nat) (o : Origin) : Prop where
  here : origins[i]? = some o
  present : (o.text? key).isSome
  greatest : ∀ j other, origins[j]? = some other → (other.text? key).isSome →
    other.ordinal < o.ordinal ∨ other.ordinal = o.ordinal ∧ j ≤ i

instance (origins : List Origin) (key : String) (i : Nat) (o : Origin) :
    Decidable (Decides origins key i o) :=
  decidable_of_iff (origins[i]? = some o ∧ (o.text? key).isSome ∧
      ∀ e ∈ origins.zipIdx, (e.1.text? key).isSome →
        e.1.ordinal < o.ordinal ∨ e.1.ordinal = o.ordinal ∧ e.2 ≤ i) <| by
    simp only [Prod.forall, List.mk_mem_zipIdx_iff_getElem?]
    exact ⟨fun ⟨here, present, greatest⟩ => ⟨here, present, fun j other => greatest other j⟩,
      fun h => ⟨h.here, h.present, fun other j => h.greatest j other⟩⟩

theorem Decides.unique {origins : List Origin} {key : String} {i j : Nat} {o other : Origin}
    (h : Decides origins key i o) (h' : Decides origins key j other) : i = j ∧ o = other := by
  have hle := h.greatest j other h'.here h'.present
  have hge := h'.greatest i o h.here h.present
  have hij : i = j := by omega
  subst hij
  exact ⟨rfl, Option.some.inj (h.here.symm.trans h'.here)⟩

def Answers (origins : List Origin) (key : String) : Option Property → Prop
  | none => ∀ o ∈ origins, o.text? key = none
  | some p => p.key = key ∧
      ∃ i o, Decides origins key i o ∧ p.value = o.text? key ∧ p.source = o.name

theorem Answers.value_eq {origins : List Origin} {key : String} {i : Nat} {o : Origin}
    {found : Option Property} (h : Answers origins key found) (ho : Decides origins key i o) :
    found.bind (·.value) = o.text? key := by
  cases found with
  | none => rw [Option.bind_none, h o (List.mem_of_getElem? ho.here)]
  | some p =>
    obtain ⟨-, j, other, hother, hvalue, -⟩ := h
    obtain ⟨-, rfl⟩ := ho.unique hother
    exact hvalue

end Origin

def FileSettings.origin? [Toml.Reader] (files : Document.Files) (f : FileSettings) :
    Option Origin :=
  (Document.entries? (files.get? f.path)).map (.document f)

def EnvironmentSettings.origin? (environment : List (ByteArray × ByteArray))
    (e : EnvironmentSettings) : Option Origin :=
  (Environment.texts? environment).map
    (fun assigned => .environment e (Environment.load e.lead e.separator assigned))

def Settings.origins? [Toml.Reader] (settings : Settings) (w : World) : Option (List Origin) := do
  let documents ← settings.files.mapM (FileSettings.origin? w.files)
  let environments ←
    settings.environment.toList.mapM (EnvironmentSettings.origin? w.environment)
  return documents ++ environments

theorem Environment.text?_eq_none_iff {e : ByteArray × ByteArray} :
    text? e = none ↔ String.fromUTF8? e.1 = none ∨ String.fromUTF8? e.2 = none := by
  rw [text?]
  cases String.fromUTF8? e.1 <;> cases String.fromUTF8? e.2 <;> simp

theorem Environment.texts?_eq_none_iff {environment : List (ByteArray × ByteArray)} :
    texts? environment = none ↔
      ∃ e ∈ environment, String.fromUTF8? e.1 = none ∨ String.fromUTF8? e.2 = none := by
  simp only [← text?_eq_none_iff]
  induction environment with
  | nil => simp [texts?]
  | cons e rest ih =>
    have hrest : rest.mapM text? = none ↔ ∃ e ∈ rest, text? e = none := ih
    rw [texts?, List.mapM_cons, List.exists_mem_cons_iff, ← hrest]
    cases text? e with
    | none => simp
    | some _ => cases rest.mapM text? <;> simp

structure Store.Grows (s t : Store) : Prop where
  documents : s.documents <+: t.documents
  environments : s.environments <+: t.environments

theorem Store.Grows.refl (s : Store) : s.Grows s := ⟨List.prefix_refl _, List.prefix_refl _⟩

theorem Store.Grows.trans {s t u : Store} (h : s.Grows t) (h' : t.Grows u) : s.Grows u :=
  ⟨h.documents.trans h'.documents, h.environments.trans h'.environments⟩

namespace Source

inductive MadeOf (store : Store) : Origin → Source → Prop
  | document (f : FileSettings) {t : Table String} (id : Nat) {cell : Nat} :
      store.documents[cell]? = some t → MadeOf store (.document f t)
        (Source.document id (f.name.getD (Document.defaultName f.path))
          (f.ordinal.getD Document.defaultOrdinal) (some f.path) cell)
  | environment (e : EnvironmentSettings) {t : Table (String × String)} (id : Nat) {cell : Nat} :
      store.environments[cell]? = some t → MadeOf store (.environment e t)
        (Source.environment id (Environment.defaultName e.lead) e.lead e.separator
          (e.ordinal.getD Environment.defaultOrdinal) cell)

theorem MadeOf.grows {store later : Store} {o : Origin} {s : Source} (h : MadeOf store o s)
    (hg : store.Grows later) : MadeOf later o s := by
  cases h with
  | document f id hcell =>
    apply MadeOf.document f id
    exact getElem?_of_prefix hg.documents hcell
  | environment e id hcell =>
    apply MadeOf.environment e id
    exact getElem?_of_prefix hg.environments hcell

theorem MadeOf.name {store : Store} {o : Origin} {s : Source} (h : MadeOf store o s) :
    s.name = o.name := by
  cases h <;> rfl

structure Carries (s : Source) (o : Origin) (m : Moment) : Prop where
  steady : s.Steady m
  ordinal : s.ordinalAt m = o.ordinal
  text : ∀ key, s.text? m key = o.text? key
  marked : ∀ key p, s.value? m key = some p → p.key = key ∧ p.source = o.name

variable {m : Moment} {s : Source} {o : Origin}

theorem carries_of_mapValues {α : Type} {values : Table α} {f : String → α → Property}
    (h : s.Tabled m (values.mapValues f)) (hd : s.declared.Gives m o.declared)
    (hf : ∀ key v, (f key v).key = key ∧ (f key v).source = o.name)
    (ho : ∀ key, o.text? key = (values.get? key).bind (fun v => (f key v).value)) :
    s.Carries o m := by
  have hsteady := h.steady hd.steady
  have htext : ∀ key, s.text? m key = o.text? key := by
    intro key
    rw [h.text?_eq, Table.get?_mapValues, ho, Option.bind_map]
    rfl
  refine ⟨hsteady, ?_, htext, fun key p hp => ?_⟩
  · rw [ordinalAt_eq hsteady, ownOrdinal?_eq_text?, htext, hd.value_eq, Origin.ordinal]
  · obtain ⟨hget, -⟩ := Option.filter_eq_some_iff.mp hp
    rw [(h.1 key).value_eq, Table.get?_mapValues, Option.map_eq_some_iff] at hget
    obtain ⟨v, -, rfl⟩ := hget
    exact hf key v

theorem MadeOf.carries (h : MadeOf m.store o s) : s.Carries o m := by
  cases h with
  | @document f t id cell hcell =>
    refine carries_of_mapValues (document_tabled ..) rfl (fun _ _ => ⟨rfl, rfl⟩) (fun key => ?_)
    have hdocument : m.store.document cell = t := by
      rw [Store.document, List.getD_eq_getElem?_getD, hcell, Option.getD_some]
    rw [hdocument]
    exact (Option.bind_fun_some (t.get? key)).symm
  | @environment e t id cell hcell =>
    refine carries_of_mapValues (environment_tabled ..) rfl (fun _ _ => ⟨rfl, rfl⟩) (fun key => ?_)
    have hvariables : m.store.variablesOf cell = t := by
      rw [Store.variablesOf, List.getD_eq_getElem?_getD, hcell, Option.getD_some]
    rw [hvariables, Origin.text?, Option.map_eq_bind]
    rfl

end Source

namespace Origin

open Resolution

variable {m : Moment} {origins : List Origin} {sources : List Source} {key : String}

theorem decides_of_carries {i : Nat} {s : Source}
    (h : List.Forall₂ (fun o s => s.Carries o m) origins sources)
    (hd : Resolution.Decides m sources key i s) :
    ∃ o, Decides origins key i o ∧ s.Carries o m := by
  obtain ⟨o, ho, hs⟩ := exists_getElem?_of_forall₂ h.flip hd.here
  refine ⟨o, ⟨ho, ?_, fun j other hj hother => ?_⟩, hs⟩
  · rw [← hs.text, Source.isSome_text?]
    exact hd.present
  · obtain ⟨t, ht, hcarries⟩ := exists_getElem?_of_forall₂ h hj
    rw [← hcarries.text, Source.isSome_text?] at hother
    rw [← hs.ordinal, ← hcarries.ordinal]
    exact hd.greatest j t ht hother

theorem answers_of_carries (h : List.Forall₂ (fun o s => s.Carries o m) origins sources)
    (key : String) : Answers origins key (highest? m key (ranked m sources)) := by
  cases hfound : highest? m key (ranked m sources) with
  | none =>
    intro o ho
    obtain ⟨i, hi⟩ := List.mem_iff_getElem?.mp ho
    obtain ⟨s, hs, hcarries⟩ := exists_getElem?_of_forall₂ h hi
    have hnone := highest?_ranked_eq_none_iff.mp hfound s (List.mem_of_getElem? hs)
    rw [← hcarries.text, Source.text?, hnone, Option.bind_none]
  | some p =>
    obtain ⟨i, s, hs, hp⟩ := highest?_eq_some_iff.mp hfound
    obtain ⟨o, ho, hcarries⟩ := decides_of_carries h hs
    obtain ⟨hkey, hname⟩ := hcarries.marked key p hp
    refine ⟨hkey, i, o, ho, ?_, hname⟩
    rw [← hcarries.text, Source.text?, hp, Option.bind_some]

end Origin

namespace World

open Document

structure Keeps (w later : World) : Prop where
  environment : later.environment = w.environment
  store : w.store.Grows later.store

theorem addDocument_keeps (w : World) (t : Table String) : w.Keeps (w.addDocument t) :=
  ⟨rfl, List.prefix_append _ _, List.prefix_refl _⟩

def withRoom (w : World) : World :=
  { w with store := { w.store with discoveries := w.store.discoveries ++ [[]] } }

def startingBuilder (settings : Settings) (w : World) : Builder :=
  let b := Builder.empty w.store.discoveries.length
  if settings.defaultConverters then b.withDefaultConverters else b

theorem startingBuilder_sources (settings : Settings) (w : World) :
    (startingBuilder settings w).sources = [] := by
  rw [startingBuilder]
  split <;> rfl

theorem startingBuilder_filters (settings : Settings) (w : World) :
    (startingBuilder settings w).filters = [] := by
  rw [startingBuilder]
  split <;> rfl

theorem run_processEnvironment (lead separator : String) (ordinal : Option Int)
    (name : Option String) (w : World) :
    StateT.run (processEnvironment lead separator ordinal name) w =
      match Environment.texts? w.environment with
      | none => (.error .panicked, w)
      | some assigned =>
        let made := StateT.run (environmentOf lead separator assigned ordinal name) w
        (.ok made.1, made.2) := by
  rw [processEnvironment, StateT.run_bind, readVariables, StateT.run_bind, StateT.run_get]
  cases h : Environment.texts? w.environment with
  | none =>
    simp only [pure_bind, h]
    rfl
  | some assigned =>
    simp only [pure_bind, h]
    rfl

theorem environmentOf_madeOf (e : EnvironmentSettings) (assigned : List (String × String))
    (w : World) :
    let made := StateT.run (environmentOf e.lead e.separator assigned e.ordinal none) w
    Source.MadeOf made.2.store (.environment e (Environment.load e.lead e.separator assigned))
      made.1.2 ∧ w.store.Grows made.2.store := by
  constructor
  · apply Source.MadeOf.environment e w.nextId
    exact List.getElem?_concat_length
  · exact ⟨List.prefix_refl _, List.prefix_append _ _⟩

theorem exists_build_iff {origins : List Origin} {store : Store} {b : Builder}
    (h : List.Forall₂ (Source.MadeOf store) origins b.sources) :
    (∃ c, b.build = .ok c) ↔ ∀ o ∈ origins, ¬Text.isAllBlank o.name = true := by
  have hnames : origins.map Origin.name = b.sources.map Source.name := by
    rw [← List.forall₂_eq_eq_eq, List.forall₂_map_left_iff, List.forall₂_map_right_iff]
    exact h.imp (fun _ _ hs => hs.name.symm)
  have horigins : (∀ o ∈ origins, ¬Text.isAllBlank o.name = true) ↔
      ∀ name ∈ origins.map Origin.name, ¬Text.isAllBlank name = true := by simp
  rw [horigins, hnames]
  simp [Builder.build_eq_ok_iff, Source.Unnamed]

section Settings

variable [Toml.Reader]

theorem run_documentsOfFiles_cons (f : FileSettings) (rest : List FileSettings) (w : World) :
    StateT.run (documentsOfFiles (f :: rest)) w = match load w.files f.path with
      | .error e => (.error e, w)
      | .ok t =>
        let made := StateT.run (documentsOfFiles rest) (w.addDocument t)
        (made.1.map (Source.document w.nextId (f.name.getD (defaultName f.path))
          (f.ordinal.getD defaultOrdinal) (some f.path) w.store.documents.length :: ·),
          made.2) := by
  rw [documentsOfFiles, StateT.run_bind, run_documentOfFile]
  cases load w.files f.path <;> rfl

theorem documentsOfFiles_keeps (files : List FileSettings) (w : World) :
    w.Keeps (StateT.run (documentsOfFiles files) w).2 := by
  induction files generalizing w with
  | nil => exact ⟨rfl, .refl _⟩
  | cons f rest ih =>
    rw [run_documentsOfFiles_cons]
    cases load w.files f.path with
    | error e => exact ⟨rfl, .refl _⟩
    | ok t =>
      have hrest := ih (w.addDocument t)
      have hhead := w.addDocument_keeps t
      exact ⟨hrest.environment, hhead.store.trans hrest.store⟩

def failure? (files : Files) (f : FileSettings) : Option ConfigError :=
  match load files f.path with
  | .error e => some e
  | .ok _ => none

theorem failure?_eq_some_iff {files : Files} {f : FileSettings} {e : ConfigError} :
    failure? files f = some e ↔ load files f.path = .error e := by
  rw [failure?]
  cases load files f.path <;> simp

theorem failure?_eq_none_iff {files : Files} {f : FileSettings} :
    failure? files f = none ↔ ∃ t, load files f.path = .ok t := by
  rw [failure?]
  cases load files f.path <;> simp

theorem documentsOfFiles_eq_error_iff {files : List FileSettings} {w : World} {e : ConfigError} :
    (StateT.run (documentsOfFiles files) w).1 = .error e ↔
      files.findSome? (failure? w.files) = some e := by
  induction files generalizing w with
  | nil => exact ⟨nofun, nofun⟩
  | cons f rest ih =>
    rw [run_documentsOfFiles_cons, List.findSome?_cons, failure?]
    cases load w.files f.path with
    | error first => simp
    | ok t =>
      have hrest : _ ↔ rest.findSome? (failure? w.files) = some e := ih (w := w.addDocument t)
      rw [← hrest]
      cases hmade : (StateT.run (documentsOfFiles rest) (w.addDocument t)).1 with
      | error e' => simp [hmade, Except.map]
      | ok sources => simp [hmade, Except.map]

theorem documentsOfFiles_eq_ok {files : List FileSettings} {w : World} {sources : List Source}
    (h : (StateT.run (documentsOfFiles files) w).1 = .ok sources) :
    ∃ origins, files.mapM (FileSettings.origin? w.files) = some origins ∧
      List.Forall₂ (Source.MadeOf (StateT.run (documentsOfFiles files) w).2.store) origins
        sources := by
  induction files generalizing w sources with
  | nil =>
    cases h
    exact ⟨[], rfl, .nil⟩
  | cons f rest ih =>
    rw [run_documentsOfFiles_cons] at h ⊢
    cases hload : load w.files f.path with
    | error e =>
      rw [hload] at h
      cases h
    | ok t =>
      simp only [hload] at h ⊢
      cases hmade : (StateT.run (documentsOfFiles rest) (w.addDocument t)).1 with
      | error e =>
        rw [hmade] at h
        cases h
      | ok others =>
        rw [hmade] at h
        cases h
        obtain ⟨origins, horigins, hmadeOf⟩ := ih hmade
        refine ⟨.document f t :: origins, ?_, .cons ?_ hmadeOf⟩
        · have hrest : rest.mapM (FileSettings.origin? w.files) = some origins := horigins
          rw [List.mapM_cons, FileSettings.origin?, load_eq_ok_iff.mp hload, hrest]
          rfl
        · have hcell : (w.addDocument t).store.documents[w.store.documents.length]? = some t := by
            simp [addDocument]
          exact (Source.MadeOf.document f w.nextId hcell).grows
            (documentsOfFiles_keeps rest (w.addDocument t)).store

section Run

variable {settings : Settings} {w later : World} {e : ConfigError} {sources : List Source}

theorem run_builderOf_error
    (h : StateT.run (documentsOfFiles settings.files) w.withRoom = (.error e, later)) :
    StateT.run (builderOf settings) w = (.error (.failed e), later) := by
  rw [builderOf, StateT.run_bind]
  change StateT.run (documentsOfFiles settings.files >>= _) w.withRoom = _
  rw [StateT.run_bind, h]
  rfl

theorem run_builderOf_ok
    (h : StateT.run (documentsOfFiles settings.files) w.withRoom = (.ok sources, later)) :
    StateT.run (builderOf settings) w =
      let b := (startingBuilder settings w).addSources sources
      match settings.environment, Environment.texts? w.environment with
      | none, _ => (.ok b, later)
      | some _, none => (.error .panicked, later)
      | some env, some assigned =>
        let made := StateT.run (environmentOf env.lead env.separator assigned env.ordinal none) later
        (.ok (b.addSource made.1.2), made.2) := by
  have hkeeps := documentsOfFiles_keeps settings.files w.withRoom
  rw [h] at hkeeps
  have henvironment : later.environment = w.environment := hkeeps.environment
  rw [builderOf, StateT.run_bind]
  change StateT.run (documentsOfFiles settings.files >>= _) w.withRoom = _
  rw [StateT.run_bind, h]
  cases settings.environment with
  | none => rfl
  | some env =>
    change StateT.run (processEnvironment env.lead env.separator env.ordinal none >>= _) later = _
    rw [StateT.run_bind, run_processEnvironment, henvironment]
    cases Environment.texts? w.environment <;> rfl

theorem builderOf_eq_failed_iff :
    (StateT.run (builderOf settings) w).1 = .error (.failed e) ↔
      settings.files.findSome? (failure? w.files) = some e := by
  have hdocuments : _ ↔ settings.files.findSome? (failure? w.files) = some e :=
    documentsOfFiles_eq_error_iff (w := w.withRoom)
  rw [← hdocuments]
  cases hrun : StateT.run (documentsOfFiles settings.files) w.withRoom with
  | mk result later =>
    cases result with
    | error first => simp [run_builderOf_error hrun]
    | ok sources =>
      rw [run_builderOf_ok hrun]
      cases settings.environment with
      | none => exact ⟨nofun, nofun⟩
      | some env => cases Environment.texts? w.environment <;> exact ⟨nofun, nofun⟩

theorem builderOf_eq_panicked_iff :
    (StateT.run (builderOf settings) w).1 = .error .panicked ↔
      settings.files.findSome? (failure? w.files) = none ∧ settings.environment.isSome = true ∧
        Environment.texts? w.environment = none := by
  have hdocuments : ∀ e, _ ↔ settings.files.findSome? (failure? w.files) = some e :=
    fun e => documentsOfFiles_eq_error_iff (w := w.withRoom)
  cases hrun : StateT.run (documentsOfFiles settings.files) w.withRoom with
  | mk result later =>
    rw [hrun] at hdocuments
    cases result with
    | error first =>
      rw [run_builderOf_error hrun, (hdocuments first).mp rfl]
      exact iff_of_false nofun nofun
    | ok sources =>
      have hnone : settings.files.findSome? (failure? w.files) = none := by
        rw [Option.eq_none_iff_forall_ne_some]
        exact fun e he => nomatch (hdocuments e).mpr he
      rw [run_builderOf_ok hrun, hnone]
      cases settings.environment with
      | none => exact iff_of_false nofun nofun
      | some env => cases Environment.texts? w.environment <;> simp

end Run

theorem builderOf_eq_ok {settings : Settings} {w : World} {b : Builder}
    (h : (StateT.run (builderOf settings) w).1 = .ok b) :
    b.filters = [] ∧ ∃ origins, settings.origins? w = some origins ∧
      List.Forall₂ (Source.MadeOf (StateT.run (builderOf settings) w).2.store) origins
        b.sources := by
  cases hrun : StateT.run (documentsOfFiles settings.files) w.withRoom with
  | mk result later =>
    cases result with
    | error e =>
      rw [run_builderOf_error hrun] at h
      cases h
    | ok sources =>
      obtain ⟨origins, horigins, hmadeOf⟩ := documentsOfFiles_eq_ok (congrArg Prod.fst hrun)
      rw [hrun] at hmadeOf
      rw [run_builderOf_ok hrun, Builder.addSources_eq, startingBuilder_sources,
        startingBuilder_filters, List.nil_append] at h ⊢
      have hfiles : settings.files.mapM (FileSettings.origin? w.files) = some origins := horigins
      rw [Settings.origins?, hfiles]
      cases henvironment : settings.environment with
      | none =>
        simp only [henvironment] at h ⊢
        cases h
        exact ⟨rfl, origins, by simp, hmadeOf⟩
      | some env =>
        cases htexts : Environment.texts? w.environment with
        | none =>
          rw [henvironment, htexts] at h
          cases h
        | some assigned =>
          simp only [henvironment, htexts] at h ⊢
          cases h
          obtain ⟨hmade, hgrows⟩ := environmentOf_madeOf env assigned later
          refine ⟨rfl, origins ++ [_], ?_,
            List.rel_append (hmadeOf.imp (fun _ _ hs => hs.grows hgrows)) (.cons hmade .nil)⟩
          simp [EnvironmentSettings.origin?, htexts]

theorem builderOf_eq_panicked_iff_variable {settings : Settings} {w : World} :
    (StateT.run (builderOf settings) w).1 = .error .panicked ↔
      (∀ f ∈ settings.files, ∃ t, entries? (w.files.get? f.path) = some t) ∧
      settings.environment.isSome = true ∧
      ∃ e ∈ w.environment, String.fromUTF8? e.1 = none ∨ String.fromUTF8? e.2 = none := by
  rw [builderOf_eq_panicked_iff, Environment.texts?_eq_none_iff, List.findSome?_eq_none_iff]
  simp only [failure?_eq_none_iff, load_eq_ok_iff]

theorem builderOf_eq_failed_iff_first {settings : Settings} {w : World} {e : ConfigError} :
    (StateT.run (builderOf settings) w).1 = .error (.failed e) ↔
      ∃ before f rest, settings.files = before ++ f :: rest ∧
        (∀ g ∈ before, ∃ t, entries? (w.files.get? g.path) = some t) ∧
        Fails (w.files.get? f.path) e := by
  rw [builderOf_eq_failed_iff, List.findSome?_eq_some_iff]
  simp only [failure?_eq_some_iff, failure?_eq_none_iff, load_eq_ok_iff, load_eq_error_iff]
  constructor
  · rintro ⟨before, f, rest, hfiles, hf, hbefore⟩
    exact ⟨before, f, rest, hfiles, hbefore, hf⟩
  · rintro ⟨before, f, rest, hfiles, hbefore, hf⟩
    exact ⟨before, f, rest, hfiles, hf, hbefore⟩

end Settings

/-- Settings give a source for every file and the environment, of which the greatest ordinal and
then the last place decides each key, or the error of the first file that cannot be loaded. Where
the files can be loaded, the environment is wanted and one of its variables is no text, reading them
panics. -/
theorem builderOf_exact [Toml.Reader] (settings : Settings) (w : World) :
    let made := StateT.run (builderOf settings) w
    (∀ e, made.1 = .error (.failed e) ↔ ∃ before f rest, settings.files = before ++ f :: rest ∧
      (∀ g ∈ before, ∃ t, entries? (w.files.get? g.path) = some t) ∧
      Fails (w.files.get? f.path) e) ∧
    (made.1 = .error .panicked ↔
      (∀ f ∈ settings.files, ∃ t, entries? (w.files.get? f.path) = some t) ∧
      settings.environment.isSome = true ∧
      ∃ e ∈ w.environment, String.fromUTF8? e.1 = none ∨ String.fromUTF8? e.2 = none) ∧
    ∀ b, made.1 = .ok b → ∃ origins, settings.origins? w = some origins ∧
      List.Forall₂ (Source.MadeOf made.2.store) origins b.sources ∧
      ((∃ c, b.build = .ok c) ↔ ∀ o ∈ origins, ¬Text.isAllBlank o.name = true) ∧
      ∀ c, b.build = .ok c → ∀ m : Moment, made.2.store.Grows m.store →
        List.Forall₂ (fun o s => s.ordinal.Gives m (Origin.ordinal o)) origins c.sources ∧
        ∀ key, ∃ found, (c.property key).Gives m found ∧
          (c.get key).Gives m (found.bind (·.value)) ∧ Origin.Answers origins key found := by
  intro made
  refine ⟨fun e => builderOf_eq_failed_iff_first, builderOf_eq_panicked_iff_variable,
    fun b hb => ?_⟩
  obtain ⟨hfilters, origins, horigins, hmadeOf⟩ := builderOf_eq_ok hb
  refine ⟨origins, horigins, hmadeOf, exists_build_iff hmadeOf, fun c hc m hgrows => ?_⟩
  obtain ⟨-, rfl⟩ := Builder.build_eq_ok_iff.mp hc
  have hcarries : List.Forall₂ (fun o s => s.Carries o m) origins b.sources :=
    hmadeOf.imp (fun _ _ hs => (hs.grows hgrows).carries)
  have hsteady : ∀ s ∈ b.sources, s.Steady m := by
    intro s hs
    obtain ⟨i, hi⟩ := List.mem_iff_getElem?.mp hs
    obtain ⟨o, -, ho⟩ := exists_getElem?_of_forall₂ hcarries.flip hi
    exact ho.steady
  have hcontext : Context.Steady ⟨b.sources, b.filters, b.registry⟩ m :=
    ⟨hsteady, by simp [hfilters]⟩
  constructor
  · refine hcarries.imp (fun o s hs => ?_)
    rw [← hs.ordinal]
    exact (Source.ordinal_steady hs.steady).gives
  · intro key
    refine ⟨_, Context.property_gives hcontext key, Context.get_gives hcontext key, ?_⟩
    have hchain : Filter.chain [] = some := rfl
    rw [Context.property?, hfilters, hchain, Option.bind_fun_some]
    exact Origin.answers_of_carries hcarries key

theorem builderOf_exact_ties :
    let w : World := { World.new ⟨0, 0⟩ with
      environment := [("APP_L".toUTF8, "env".toUTF8),
        ("APP_STRATA_ORDINAL".toUTF8, "100".toUTF8)]
      files := .ofList [("a.toml", .ok "strata.ordinal='7'".toUTF8),
        ("b.toml", .ok "k='b'".toUTF8), ("c.toml", .ok "k='c'".toUTF8),
        ("d.toml", .ok "l='d'".toUTF8)] }
    let a : FileSettings := ⟨"a.toml", some 500, none⟩
    let b : FileSettings := ⟨"b.toml", none, some "named"⟩
    let c : FileSettings := ⟨"c.toml", none, none⟩
    let d : FileSettings := ⟨"d.toml", some 100, none⟩
    let missing : FileSettings := ⟨"e.toml", none, none⟩
    let settings : Settings := ⟨true, some ⟨"APP", "_", none⟩, [a, b, c, d]⟩
    (StateT.run (builderOf ⟨true, none, [a, missing, b]⟩) w).1 =
        .error (.failed (.fileUnreadable noSuchFile)) ∧
      let made := StateT.run (builderOf settings) w
      ∃ built context, made.1 = .ok built ∧ built.build = .ok context ∧ ∀ filters,
        (context.get "strata.ordinal").Gives ⟨made.2.store, filters⟩ (some "100") ∧
        (context.get "k").Gives ⟨made.2.store, filters⟩ (some "c") ∧
        (context.get "l").Gives ⟨made.2.store, filters⟩ (some "env") := by
  intro w a b c d missing settings
  let environment : Origin := .environment ⟨"APP", "_", none⟩
    (.ofList [("l", ("APP_L", "env")), ("strata.ordinal", ("APP_STRATA_ORDINAL", "100"))])
  let origins : List Origin := [.document a (.ofList [("strata.ordinal", "7")]),
    .document b (.ofList [("k", "b")]), .document c (.ofList [("k", "c")]),
    .document d (.ofList [("l", "d")]), environment]
  have horigins : settings.origins? w = some origins := by decide +kernel
  have htexts : ∀ e ∈ w.environment,
      ¬(String.fromUTF8? e.1 = none ∨ String.fromUTF8? e.2 = none) := by
    decide +kernel
  have hloads : ∀ f ∈ settings.files, (entries? (w.files.get? f.path)).isSome := by
    decide +kernel
  have hload : ∀ f ∈ settings.files, ∃ t, entries? (w.files.get? f.path) = some t :=
    fun f hf => Option.isSome_iff_exists.mp (hloads f hf)
  constructor
  · refine ((builderOf_exact _ w).1 _).mpr ⟨[a], missing, [b], rfl, ?_, ?_⟩
    · intro f hf
      exact hload f (List.mem_cons.mpr (.inl (List.mem_singleton.mp hf)))
    · have hnone : w.files.get? missing.path = none := by decide +kernel
      rw [hnone]
      exact .missing
  obtain ⟨hfailed, hpanicked, hok⟩ := builderOf_exact settings w
  -- What is made is not computed: the theorem says what it is.
  generalize StateT.run (builderOf settings) w = made at hfailed hpanicked hok ⊢
  match hmade : made.1 with
  | .error (.failed e) =>
    obtain ⟨before, f, rest, hfiles, -, hf⟩ := (hfailed e).mp hmade
    obtain ⟨t, ht⟩ := hload f (hfiles ▸ List.mem_append_right before List.mem_cons_self)
    cases hf.entries?_eq_none.symm.trans ht
  | .error .panicked =>
    obtain ⟨-, -, e, he, hnone⟩ := hpanicked.mp hmade
    exact absurd hnone (htexts e he)
  | .ok built =>
    obtain ⟨_, hsome, -, hbuild, hget⟩ := hok built hmade
    obtain rfl := Option.some.inj (horigins.symm.trans hsome)
    obtain ⟨context, hcontext⟩ := hbuild.mpr (by decide +kernel)
    refine ⟨built, context, hmade, hcontext, fun filters => ?_⟩
    obtain ⟨-, hkeys⟩ := hget context hcontext ⟨made.2.store, filters⟩ (.refl _)
    have hvalue : ∀ key i o text, Origin.Decides origins key i o → o.text? key = text →
        (context.get key).Gives ⟨made.2.store, filters⟩ text := by
      rintro key i o _ ho rfl
      obtain ⟨found, -, hfound, hanswers⟩ := hkeys key
      rwa [hanswers.value_eq ho] at hfound
    refine ⟨hvalue _ 4 environment _ ?_ ?_, hvalue _ 2 (.document c (.ofList [("k", "c")])) _ ?_ ?_,
      hvalue _ 4 environment _ ?_ ?_⟩
    all_goals decide +kernel

/-- A variable that is no text, under a name of the environment that is asked for, and an ordinal
of a file that is the text of a number only without the blanks around it. -/
theorem builderOf_differs :
    let odd : World := { World.new ⟨0, 0⟩ with environment := [("APP_K".toUTF8, ⟨#[255]⟩)] }
    let w : World := { World.new ⟨0, 0⟩ with
      files := .ofList [("a.toml", .ok "strata.ordinal=' 500 '".toUTF8)] }
    let made := StateT.run (builderOf ⟨true, none, [⟨"a.toml", none, none⟩]⟩) w
    (StateT.run (builderOf ⟨true, some ⟨"APP", "_", none⟩, []⟩) odd).1 = .error .panicked ∧
      Number.readInteger Number.i32 10 " 500 ".toList = none ∧
      ∃ built s, made.1 = .ok built ∧ built.sources = [s] ∧ ∀ filters,
        (∃ p, (s.get "strata.ordinal").Gives ⟨made.2.store, filters⟩ (some p) ∧
          p.value = some " 500 ") ∧ s.ordinal.Gives ⟨made.2.store, filters⟩ 500 := by
  intro odd w made
  let settings : Settings := ⟨true, none, [⟨"a.toml", none, none⟩]⟩
  let t : Table String := .ofList [("strata.ordinal", " 500 ")]
  let source : Source := .document w.nextId "toml:a.toml" 100 (some "a.toml") 0
  have hload : load w.files "a.toml" = .ok t := load_eq_ok_iff.mpr (by decide +kernel)
  have hdocuments : StateT.run (documentsOfFiles settings.files) w.withRoom =
      (.ok [source], w.withRoom.addDocument t) := by
    have hroom : load w.withRoom.files "a.toml" = .ok t := hload
    rw [run_documentsOfFiles_cons, hroom]
    rfl
  have hmade : made = (.ok ((startingBuilder settings w).addSources [source]),
      w.withRoom.addDocument t) := run_builderOf_ok hdocuments
  have hpanic : (StateT.run (builderOf ⟨true, some ⟨"APP", "_", none⟩, []⟩) odd).1 =
      .error .panicked :=
    builderOf_eq_panicked_iff_variable.mpr
      ⟨by simp, rfl, _, List.mem_cons_self, .inr (by decide +kernel)⟩
  refine ⟨hpanic, by decide, _, source, congrArg Prod.fst hmade, ?_, fun filters => ?_⟩
  · rw [Builder.addSources_eq, startingBuilder_sources, List.nil_append]
  · rw [hmade]
    have hshows := Source.document_shows w.nextId "toml:a.toml" 100 (some "a.toml") 0
      ⟨(w.withRoom.addDocument t).store, filters⟩
    exact ⟨⟨_, hshows.get "strata.ordinal", rfl⟩, hshows.ordinal⟩

end World

end LayeredConfig
