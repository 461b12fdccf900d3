import LayeredConfig.Context.Basic

/-!
Readings at a moment, which is what the contents and the filters of the thread are then. A steady
reading leaves the filters of the thread as they are, so that what it gives is a value like any
other. Filter chains of rules are steady, and a steady source can be compared with itself: what it
gives for a key, and what it lists under that key.
-/

namespace LayeredConfig

structure Moment where
  store : Store
  filters : List ListedFilter

namespace Reading

variable {α β : Type} {m : Moment}

def value (x : Reading α) (m : Moment) : α := (Reading.run x m.store m.filters).1

/-- The filters of the thread are the same afterwards. -/
def Steady (x : Reading α) (m : Moment) : Prop :=
  (Reading.run x m.store m.filters).2 = m.filters

def Gives (x : Reading α) (m : Moment) (a : α) : Prop :=
  Reading.run x m.store m.filters = (a, m.filters)

theorem Steady.gives {x : Reading α} (h : Steady x m) : Gives x m (value x m) :=
  Prod.ext rfl h

theorem Gives.value_eq {x : Reading α} {a : α} (h : Gives x m a) : value x m = a :=
  congrArg Prod.fst h

theorem Gives.steady {x : Reading α} {a : α} (h : Gives x m a) : Steady x m :=
  congrArg Prod.snd h

theorem gives_pure (a : α) : Gives (pure a) m a := rfl

theorem gives_peek (f : Store → α) : Gives (peek f) m (f m.store) := rfl

theorem run_bind (x : Reading α) (f : α → Reading β) (s : Store) (l : List ListedFilter) :
    Reading.run (x >>= f) s l =
      Reading.run (f (Reading.run x s l).1) s (Reading.run x s l).2 := rfl

theorem Gives.bind {x : Reading α} {f : α → Reading β} {a : α} {b : β}
    (hx : Gives x m a) (hf : Gives (f a) m b) : Gives (x >>= f) m b := by
  unfold Gives at hx hf ⊢
  rw [run_bind, hx]
  exact hf

theorem Gives.map {x : Reading α} {a : α} (f : α → β) (hx : Gives x m a) :
    Gives (f <$> x) m (f a) := by
  rw [← bind_pure_comp]
  exact hx.bind (gives_pure (f a))

def after (m : Moment) (x : Reading α) : Moment := ⟨m.store, (Reading.run x m.store m.filters).2⟩

theorem value_bind (x : Reading α) (f : α → Reading β) (m : Moment) :
    value (x >>= f) m = value (f (value x m)) (after m x) := rfl

theorem after_bind (x : Reading α) (f : α → Reading β) (m : Moment) :
    after m (x >>= f) = after (after m x) (f (value x m)) := rfl

theorem Steady.after_eq {x : Reading α} (h : Steady x m) : after m x = m :=
  congrArg (Moment.mk m.store) h

end Reading

namespace Filter

def chain (filters : List Filter) (p : Property) : Option Property :=
  (StateT.run (applyAll filters p) []).1

section Step

variable {F : Type} {step : F → Property → Threaded (Option Property)} {f : F} {rest : List F}
  {l l' : List ListedFilter} {p next : Property} {r : Option Property}

theorem run_applyEach_passed (hstep : StateT.run (step f p) l = (some next, l'))
    (hnext : next.isPresent = true) : StateT.run (applyEach step (f :: rest) p) l =
      StateT.run (applyEach step rest next) l' := by
  rw [applyEach, StateT.run_bind, hstep]
  change StateT.run _ l' = _
  rw [Option.filter_some_pos hnext]

theorem run_applyEach_vetoed (hstep : StateT.run (step f p) l = (r, l'))
    (hveto : r.filter Property.isPresent = none) :
    StateT.run (applyEach step (f :: rest) p) l = (none, l') := by
  rw [applyEach, StateT.run_bind, hstep]
  change StateT.run _ l' = _
  rw [hveto]
  rfl

theorem run_applyEach_append {fs gs : List F}
    (h : StateT.run (applyEach step fs p) l = (r, l')) :
    StateT.run (applyEach step (fs ++ gs) p) l =
      r.elim (none, l') (fun q => StateT.run (applyEach step gs q) l') := by
  rw [applyEach_append, StateT.run_bind, h]
  cases r <;> rfl

end Step

theorem applyEach_rule (name : String) (run : Property → Option Property) (rest : List Filter)
    (p : Property) : applyEach Filter.apply (.rule name run :: rest) p =
      match (run p).filter Property.isPresent with
      | some next => applyEach Filter.apply rest next
      | none => pure none := rfl

theorem applyEach_rules {filters : List Filter} (h : ∀ f ∈ filters, f.IsRule) (p : Property) :
    ∃ q, ∀ l, StateT.run (applyEach Filter.apply filters p) l = (q, l) := by
  induction filters generalizing p with
  | nil => exact ⟨some p, fun l => rfl⟩
  | cons f rest ih =>
    match f, h f List.mem_cons_self with
    | .rule name run, _ =>
      rw [applyEach_rule]
      cases (run p).filter Property.isPresent with
      | none => exact ⟨none, fun l => rfl⟩
      | some next => exact ih (fun f hf => h f (List.mem_cons_of_mem _ hf)) next

theorem chain_gives {filters : List Filter} (h : ∀ f ∈ filters, f.IsRule) (p : Property)
    (m : Moment) : (Reading.thread (applyAll filters p)).Gives m (chain filters p) := by
  obtain ⟨q, hq⟩ := applyEach_rules h p
  have hc : chain filters p = q := congrArg Prod.fst (hq [])
  rw [hc]
  exact hq m.filters

theorem applyEach_isPresent {F : Type} (step : F → Property → Threaded (Option Property))
    {filters : List F} {l : List ListedFilter} {p q : Property} (hp : p.isPresent = true)
    (h : (StateT.run (applyEach step filters p) l).1 = some q) : q.isPresent = true := by
  induction filters generalizing p l with
  | nil =>
    cases h
    exact hp
  | cons f rest ih =>
    cases hr : (StateT.run (step f p) l).1.filter Property.isPresent with
    | none =>
      rw [run_applyEach_vetoed rfl hr] at h
      cases h
    | some next =>
      obtain ⟨hrun, hnext⟩ := Option.filter_eq_some_iff.mp hr
      rw [run_applyEach_passed (Prod.ext hrun rfl) hnext] at h
      exact ih hnext h

theorem chain_isPresent {filters : List Filter} {p q : Property} (hp : p.isPresent = true)
    (h : chain filters p = some q) : q.isPresent = true :=
  applyEach_isPresent Filter.apply hp h

end Filter

namespace Source

def value? (s : Source) (m : Moment) (key : String) : Option Property :=
  ((s.get key).value m).filter Property.isPresent

def listed? (s : Source) (m : Moment) (key : String) : Option Property :=
  ((s.properties.value m).get? key).filter Property.isPresent

def ordinalAt (s : Source) (m : Moment) : Int := s.ordinal.value m

structure Steady (s : Source) (m : Moment) : Prop where
  declared : s.declared.Steady m
  get : ∀ key, (s.get key).Steady m
  properties : s.properties.Steady m

def AgreesOn (s : Source) (m : Moment) (key : String) : Prop := s.value? m key = s.listed? m key

def Agrees (s : Source) (m : Moment) : Prop := ∀ key, s.AgreesOn m key

theorem isPresent_of_value? {s : Source} {m : Moment} {key : String} {p : Property}
    (h : s.value? m key = some p) : p.isPresent = true :=
  (Option.filter_eq_some_iff.mp h).2

def ownOrdinal? (s : Source) (m : Moment) : Option Int :=
  (((s.get ordinalKey).value m).bind (·.value)).bind readOrdinal

theorem ordinal_gives {s : Source} {m : Moment} (h : s.Steady m) :
    s.ordinal.Gives m ((s.ownOrdinal? m).getD (s.declared.value m)) := by
  refine (h.get ordinalKey).gives.bind ?_
  split
  · rename_i n hown
    rw [ownOrdinal?, hown]
    exact Reading.gives_pure n
  · rename_i hown
    rw [ownOrdinal?, hown]
    exact h.declared.gives

theorem ordinalAt_eq_getD (s : Source) (m : Moment) :
    s.ordinalAt m =
      (s.ownOrdinal? m).getD (s.declared.value (Reading.after m (s.get ordinalKey))) := by
  -- The declared ordinal is asked for after the ordinal key has been read.
  rw [ordinalAt, ordinal, Reading.value, Reading.run_bind, ownOrdinal?]
  split
  · next n hown =>
    rw [Reading.value, hown]
    rfl
  · next hown =>
    rw [Reading.value, hown]
    rfl

theorem ordinalAt_eq {s : Source} {m : Moment} (h : s.Steady m) :
    s.ordinalAt m = (s.ownOrdinal? m).getD (s.declared.value m) :=
  (ordinal_gives h).value_eq

theorem ordinal_steady {s : Source} {m : Moment} (h : s.Steady m) : s.ordinal.Steady m :=
  (ordinal_gives h).steady

end Source

structure Context.Steady (c : Context) (m : Moment) : Prop where
  sources : ∀ s ∈ c.sources, s.Steady m
  filters : ∀ f ∈ c.filters, f.IsRule

end LayeredConfig
