import LayeredConfig.Proofs.Combining
import LayeredConfig.Proofs.Answers
import LayeredConfig.Proofs.Conversions

namespace LayeredConfig

theorem RegistryOf.eq_conversionFailed {T : Type} [DecidableEq T] [Convertible T]
    {r : RegistryOf T} {t : T} {key raw : String} {e : ConfigError}
    (h : r.convert t key raw = .error e) : e = .conversionFailed key raw (Convertible.typeName t) :=
  (((tryAll_answers t _ key raw).2 e).mp h).2

namespace Context

variable {c : Context} {t : Target} {key raw : String} {mo : Moment}

def Refuses (c : Context) (t : Target) (key raw : String) : Prop :=
  ∀ v, c.registry.convert t key raw ≠ .ok v

theorem convert_eq_error_iff {e : ConfigError} : c.registry.convert t key raw = .error e ↔
    c.Refuses t key raw ∧ e = .conversionFailed key raw t.typeName := by
  constructor
  · intro h
    refine ⟨fun v hv => ?_, RegistryOf.eq_conversionFailed h⟩
    rw [hv] at h
    cases h
  · rintro ⟨hrefuses, rfl⟩
    cases h : c.registry.convert t key raw with
    | ok v => exact absurd h (hrefuses v)
    | error e => exact congrArg Except.error (RegistryOf.eq_conversionFailed h)

theorem value_getTyped (c : Context) (t : Target) (key : String) (mo : Moment) :
    (c.getTyped t key).value mo = (c.textAt mo key).elim (.ok none)
      (fun raw => (c.registry.convert t key raw).map some) := by
  rw [getTyped, Reading.value_bind, ← textAt]
  cases c.textAt mo key <;> rfl

theorem after_getTyped (c : Context) (t : Target) (key : String) (mo : Moment) :
    Reading.after mo (c.getTyped t key) = Reading.after mo (c.get key) := by
  rw [getTyped, Reading.after_bind, ← textAt]
  cases c.textAt mo key <;> rfl

end Context

namespace Combined

variable {m : Combined} {mo : Moment} {t : Target} {key : String}

def turns (key : String) : Moment → List Context → List (Context × Option String)
  | _, [] => []
  | mo, c :: rest => (c, c.textAt mo key) :: turns key (Reading.after mo (c.get key)) rest

section Decision

variable {readings : List (Context × Option String)} {c : Context} {raw : String}

def FirstRefused (t : Target) (key : String) (readings : List (Context × Option String))
    (c : Context) (raw : String) : Prop :=
  ∃ before after, readings = before ++ (c, some raw) :: after ∧ c.Refuses t key raw ∧
    ∀ d text, (d, some text) ∈ before → ¬ d.Refuses t key text

def LastGiven (readings : List (Context × Option String)) (c : Context) (raw : String) : Prop :=
  ∃ before after, readings = before ++ (c, some raw) :: after ∧ ∀ r ∈ after, r.2 = none

structure Decided (t : Target) (key : String) (readings : List (Context × Option String))
    (result : Except ConfigError (Option t.Carrier)) : Prop where
  refused : (∃ e, result = .error e) ↔ ∃ c raw, (c, some raw) ∈ readings ∧ c.Refuses t key raw
  error : ∀ e, result = .error e ↔
    ∃ c raw, FirstRefused t key readings c raw ∧ e = .conversionFailed key raw t.typeName
  missing : result = .ok none ↔ ∀ r ∈ readings, r.2 = none
  found : ∀ v, result = .ok (some v) ↔
    (∀ c raw, (c, some raw) ∈ readings → ¬ c.Refuses t key raw) ∧
      ∃ c raw, LastGiven readings c raw ∧ c.registry.convert t key raw = .ok v

def refusal? (t : Target) (key : String) (r : Context × Option String) : Option ConfigError :=
  r.2.bind (fun raw => match r.1.registry.convert t key raw with
    | .ok _ => none
    | .error e => some e)

def converted? (t : Target) (key : String) (r : Context × Option String) : Option t.Carrier :=
  r.2.bind (fun raw => (r.1.registry.convert t key raw).toOption)

theorem refusal?_eq_some_iff {r : Context × Option String} {e : ConfigError} :
    refusal? t key r = some e ↔ ∃ raw, r.2 = some raw ∧ r.1.Refuses t key raw ∧
      e = .conversionFailed key raw t.typeName := by
  rw [refusal?, Option.bind_eq_some_iff]
  refine exists_congr fun raw => and_congr_right fun _ => ?_
  rw [← Context.convert_eq_error_iff]
  cases r.1.registry.convert t key raw <;> simp

theorem refusal?_eq_none_iff {r : Context × Option String} :
    refusal? t key r = none ↔ ∀ raw, r.2 = some raw → ¬ r.1.Refuses t key raw := by
  rw [Option.eq_none_iff_forall_ne_some]
  simp only [Ne, refusal?_eq_some_iff]
  constructor
  · intro h raw htext hrefuses
    exact h _ ⟨raw, htext, hrefuses, rfl⟩
  · rintro h e ⟨raw, htext, hrefuses, -⟩
    exact h raw htext hrefuses

theorem converted?_eq_some_iff {r : Context × Option String} {v : t.Carrier} :
    converted? t key r = some v ↔
      ∃ raw, r.2 = some raw ∧ r.1.registry.convert t key raw = .ok v := by
  rw [converted?, Option.bind_eq_some_iff]
  refine exists_congr fun raw => and_congr_right fun _ => ?_
  cases r.1.registry.convert t key raw <;> simp [Except.toOption]

theorem converted?_eq_none_iff {r : Context × Option String} (h : refusal? t key r = none) :
    converted? t key r = none ↔ r.2 = none := by
  rw [refusal?_eq_none_iff] at h
  cases htext : r.2 with
  | none => simp [converted?, htext]
  | some raw =>
    have hraw := h raw htext
    simp only [Context.Refuses, not_forall, not_not] at hraw
    obtain ⟨v, hv⟩ := hraw
    simp [converted?_eq_some_iff.mpr ⟨raw, htext, hv⟩]

theorem none_refused_iff : readings.findSome? (refusal? t key) = none ↔
    ∀ c raw, (c, some raw) ∈ readings → ¬ c.Refuses t key raw := by
  rw [List.findSome?_eq_none_iff]
  simp only [refusal?_eq_none_iff]
  constructor
  · intro h c raw hmem
    exact h _ hmem raw rfl
  · rintro h ⟨c, text⟩ hmem raw rfl
    exact h c raw hmem

theorem first_refused_iff {e : ConfigError} : readings.findSome? (refusal? t key) = some e ↔
    ∃ c raw, FirstRefused t key readings c raw ∧ e = .conversionFailed key raw t.typeName := by
  rw [List.findSome?_eq_some_iff]
  constructor
  · rintro ⟨before, ⟨c, text⟩, after, hsplit, hrefusal, hbefore⟩
    obtain ⟨raw, rfl, hrefuses, he⟩ := refusal?_eq_some_iff.mp hrefusal
    refine ⟨c, raw, ⟨before, after, hsplit, hrefuses, fun d text hd => ?_⟩, he⟩
    exact refusal?_eq_none_iff.mp (hbefore _ hd) text rfl
  · rintro ⟨c, raw, ⟨before, after, hsplit, hrefuses, hbefore⟩, he⟩
    refine ⟨before, (c, some raw), after, hsplit, ?_, ?_⟩
    · exact refusal?_eq_some_iff.mpr ⟨raw, rfl, hrefuses, he⟩
    · rintro ⟨d, text⟩ hd
      rw [refusal?_eq_none_iff]
      rintro text rfl
      exact hbefore d text hd

theorem last_converted_iff (h : readings.findSome? (refusal? t key) = none) {v : t.Carrier} :
    readings.reverse.findSome? (converted? t key) = some v ↔
      ∃ c raw, LastGiven readings c raw ∧ c.registry.convert t key raw = .ok v := by
  rw [List.findSome?_eq_none_iff] at h
  rw [findSome?_reverse_eq_some_iff]
  constructor
  · rintro ⟨before, ⟨c, text⟩, after, rfl, hv, hafter⟩
    obtain ⟨raw, rfl, hraw⟩ := converted?_eq_some_iff.mp hv
    refine ⟨c, raw, ⟨before, after, rfl, fun r hr => ?_⟩, hraw⟩
    exact (converted?_eq_none_iff (h r (by simp [hr]))).mp (hafter r hr)
  · rintro ⟨c, raw, ⟨before, after, rfl, hafter⟩, hraw⟩
    refine ⟨before, (c, some raw), after, rfl, ?_, fun r hr => ?_⟩
    · exact converted?_eq_some_iff.mpr ⟨raw, rfl, hraw⟩
    · exact (converted?_eq_none_iff (h r (by simp [hr]))).mpr (hafter r hr)

def settled (t : Target) (key : String) (current : Option t.Carrier)
    (readings : List (Context × Option String)) : Except ConfigError (Option t.Carrier) :=
  (readings.findSome? (refusal? t key)).elim
    (.ok ((readings.reverse.findSome? (converted? t key)).or current)) .error

section Settled

variable {current : Option t.Carrier}

theorem settled_none : settled t key current ((c, none) :: readings) =
    settled t key current readings := by
  have hrefusal : refusal? t key (c, none) = none := rfl
  have hconverted : converted? t key (c, none) = none := rfl
  simp [settled, hrefusal, hconverted]

theorem settled_ok {v : t.Carrier} (h : c.registry.convert t key raw = .ok v) :
    settled t key current ((c, some raw) :: readings) = settled t key (some v) readings := by
  have hrefusal : refusal? t key (c, some raw) = none := by simp [refusal?, h]
  have hconverted : converted? t key (c, some raw) = some v := by
    simp [converted?, h, Except.toOption]
  simp [settled, hrefusal, hconverted]

theorem settled_error {e : ConfigError} (h : c.registry.convert t key raw = .error e) :
    settled t key current ((c, some raw) :: readings) = .error e := by
  have hrefusal : refusal? t key (c, some raw) = some e := by simp [refusal?, h]
  simp [settled, hrefusal]

end Settled

theorem decided_settled (t : Target) (key : String) (readings : List (Context × Option String)) :
    Decided t key readings (settled t key none readings) := by
  rw [settled, Option.or_none]
  cases hrefusal : readings.findSome? (refusal? t key) with
  | some e =>
    refine ⟨?_, fun e' => ?_, ?_, fun v => ?_⟩
    · obtain ⟨c, raw, ⟨before, after, rfl, hrefuses, -⟩, -⟩ := first_refused_iff.mp hrefusal
      exact iff_of_true ⟨e, rfl⟩ ⟨c, raw, by simp, hrefuses⟩
    · rw [← first_refused_iff, hrefusal]
      simp
    · obtain ⟨c, raw, ⟨before, after, rfl, -⟩, -⟩ := first_refused_iff.mp hrefusal
      refine iff_of_false nofun fun h => ?_
      cases h (c, some raw) (by simp)
    · rw [← none_refused_iff, hrefusal]
      simp
  | none =>
    refine ⟨?_, fun e => ?_, ?_, fun v => ?_⟩
    · have hnone := none_refused_iff.mp hrefusal
      refine iff_of_false nofun ?_
      rintro ⟨c, raw, hmem, hrefuses⟩
      exact hnone c raw hmem hrefuses
    · rw [← first_refused_iff, hrefusal]
      simp
    · have hnone := List.findSome?_eq_none_iff.mp hrefusal
      simp only [Option.elim_none, Except.ok.injEq, List.findSome?_eq_none_iff, List.mem_reverse]
      exact forall₂_congr fun r hr => converted?_eq_none_iff (hnone r hr)
    · rw [← none_refused_iff, ← last_converted_iff hrefusal]
      simp [hrefusal]

end Decision

theorem value_typedFrom (members : List Context) (current : Option t.Carrier) (mo : Moment) :
    (typedFrom t key current members).value mo = settled t key current (turns key mo members) := by
  induction members generalizing current mo with
  | nil => rfl
  | cons c rest ih =>
    rw [typedFrom, Reading.value_bind, Context.value_getTyped, Context.after_getTyped, turns]
    cases c.textAt mo key with
    | none =>
      rw [settled_none]
      exact ih current _
    | some raw =>
      cases hraw : c.registry.convert t key raw with
      | error e =>
        rw [settled_error hraw]
        simp only [Option.elim_some, hraw]
        rfl
      | ok v =>
        rw [settled_ok hraw]
        simp only [Option.elim_some, hraw]
        exact ih (some v) _

theorem getTyped_decided (m : Combined) (mo : Moment) (t : Target) (key : String) :
    Decided t key (turns key mo m.members) ((m.getTyped t key).value mo) := by
  rw [getTyped, value_typedFrom]
  exact decided_settled t key _

inductive Reached (m : Combined) (key : String) (mo : Moment) : Moment → Prop where
  | start : Reached m key mo mo
  | read {mo' : Moment} {c : Context} : Reached m key mo mo' → c ∈ m.members →
      Reached m key mo (Reading.after mo' (c.get key))

/-- However often the key is read from members, each of them gives the same for it. -/
def Undisturbed (m : Combined) (mo : Moment) (key : String) : Prop :=
  ∀ mo', m.Reached key mo mo' → ∀ c ∈ m.members, c.textAt mo' key = c.textAt mo key

theorem undisturbed_of_steady (h : ∀ c ∈ m.members, (c.get key).Steady mo) :
    m.Undisturbed mo key := by
  have hsame : ∀ mo', m.Reached key mo mo' → mo' = mo := by
    intro mo' hreached
    induction hreached with
    | start => rfl
    | read _ hc ih =>
      subst ih
      exact (h _ hc).after_eq
  intro mo' hreached c _
  rw [hsame mo' hreached]

namespace Undisturbed

variable {mo' : Moment} {members : List Context}

theorem turns_eq (h : m.Undisturbed mo key) (hmembers : ∀ c ∈ members, c ∈ m.members)
    (hreached : m.Reached key mo mo') :
    turns key mo' members = members.map (fun c => (c, c.textAt mo key)) := by
  induction members generalizing mo' with
  | nil => rfl
  | cons c rest ih =>
    have hc := hmembers c List.mem_cons_self
    rw [turns, h mo' hreached c hc, List.map_cons,
      ih (fun d hd => hmembers d (List.mem_cons_of_mem c hd)) (hreached.read hc)]

theorem value_firstOf (h : m.Undisturbed mo key) (hmembers : ∀ c ∈ members, c ∈ m.members)
    (hreached : m.Reached key mo mo') :
    (firstOf key members).value mo' = members.findSome? (Context.textAt mo key) := by
  induction members generalizing mo' with
  | nil => rfl
  | cons c rest ih =>
    have hc := hmembers c List.mem_cons_self
    have hrest := ih (fun d hd => hmembers d (List.mem_cons_of_mem c hd)) (hreached.read hc)
    have htext : (c.get key).value mo' = c.textAt mo key := h mo' hreached c hc
    rw [firstOf, Reading.value_bind, htext, List.findSome?_cons]
    cases c.textAt mo key with
    | none => exact hrest
    | some text => rfl

theorem value_get (h : m.Undisturbed mo key) :
    (m.get key).value mo = m.members.reverse.findSome? (Context.textAt mo key) :=
  h.value_firstOf (fun _ => List.mem_reverse.mp) .start

theorem last_of_lastGiven {c : Context} {raw : String}
    (h : LastGiven (m.members.map (fun c => (c, c.textAt mo key))) c raw) :
    m.Last (Context.textAt mo key) c raw := by
  obtain ⟨before, after, hsplit, hafter⟩ := h
  obtain ⟨first, rest, hmembers, rfl, hrest⟩ := List.map_eq_append_iff.mp hsplit
  obtain ⟨d, last, rfl, hd, rfl⟩ := List.map_eq_cons_iff.mp hrest
  obtain ⟨rfl, htext⟩ := Prod.mk.inj hd
  refine ⟨first, last, hmembers, htext, fun e he => ?_⟩
  exact hafter _ (List.mem_map_of_mem he)

end Undisturbed

/-- The first text that its own member cannot convert makes a typed read of several contexts an
error; otherwise the last text decides, and the default stands in only where there is none. These
are the texts of the members read in their order. Where reading the key does not disturb them, they
are those of a single read as well, and the read finds the very text that the typed read converts,
in the same member. -/
theorem getTyped_exact (m : Combined) (mo : Moment) (t : Target) (key : String) :
    let result := (m.getTyped t key).value mo
    Decided t key (turns key mo m.members) result ∧
    (∀ other, (∀ e, (m.getTypedOr t key other).value mo = .error e ↔ result = .error e) ∧
      (result = .ok none → (m.getTypedOr t key other).value mo = .ok other) ∧
      ∀ v, result = .ok (some v) → (m.getTypedOr t key other).value mo = .ok v) ∧
    (m.Undisturbed mo key →
      turns key mo m.members = m.members.map (fun c => (c, c.textAt mo key)) ∧
      (result = .ok none ↔ (m.get key).value mo = none) ∧
      (∀ raw, (m.get key).value mo = some raw ↔ ∃ c, m.Last (Context.textAt mo key) c raw) ∧
      ∀ v, result = .ok (some v) → ∃ c raw, m.Last (Context.textAt mo key) c raw ∧
        (m.get key).value mo = some raw ∧ c.registry.convert t key raw = .ok v) := by
  intro result
  have hdecided : Decided t key (turns key mo m.members) result := getTyped_decided m mo t key
  refine ⟨hdecided, fun other => ?_, fun hundisturbed => ?_⟩
  · have hor : (m.getTypedOr t key other).value mo = result.map (·.getD other) := rfl
    rw [hor]
    refine ⟨fun e => ?_, fun h => by rw [h]; rfl, fun v h => by rw [h]; rfl⟩
    cases result <;> simp [Except.map]
  · have hturns := hundisturbed.turns_eq (fun _ hc => hc) .start
    have hgiven (raw : String) : (m.get key).value mo = some raw ↔
        ∃ c, m.Last (Context.textAt mo key) c raw := by
      rw [hundisturbed.value_get]
      exact lastAnswer_eq_some_iff
    refine ⟨hturns, ?_, hgiven, fun v hv => ?_⟩
    · rw [hdecided.missing, hturns, hundisturbed.value_get]
      simp
    · obtain ⟨-, c, raw, hlast, hraw⟩ := (hdecided.found v).mp hv
      rw [hturns] at hlast
      have hc := Undisturbed.last_of_lastGiven hlast
      exact ⟨c, raw, hc, (hgiven raw).mpr ⟨c, hc⟩, hraw⟩

theorem getTyped_exact_refused :
    let first : Context := ⟨[.fixed 0 "low" 0 true (.ofList [("k", "7"), ("r", "x")]) .empty], [],
      .withDefaults 0⟩
    let second : Context := ⟨[.fixed 1 "high" 0 true (.ofList [("k", "8"), ("r", "3")]) .empty],
      [.threadLocal], .withDefaults 1⟩
    let m := Combined.mk "both" [first, second]
    let mo : Moment := ⟨.empty,
      [.rule "zero" (fun p => p.value.map (fun value => p.withValue (value ++ "0")))]⟩
    m.Undisturbed mo "k" ∧ (m.get "k").value mo = some "80" ∧
      (m.getTyped (.integer .i32) "k").value mo = .ok (some 80) ∧
      m.Undisturbed mo "r" ∧ (m.get "r").value mo = some "30" ∧
      (m.getTyped (.integer .i32) "r").value mo = .error (.conversionFailed "r" "x" "i32") ∧
      (m.getTypedOr (.integer .i32) "s" 5).value mo = .ok 5 := by
  intro first second m mo
  have hfirst (key : String) :=
    Context.run_get_single (c := first) (Source.fixed_steady (m := mo) ..) rfl key
  have hsecond (key : String) :=
    Context.run_get_single (c := second) (Source.fixed_steady (m := mo) ..) rfl key
  have hread (key : String) {x y : Option String} (hx : (first.get key).Gives mo x)
      (hy : (second.get key).Gives mo y) :
      m.Undisturbed mo key ∧ second.textAt mo key = y ∧
        turns key mo m.members = [(first, x), (second, y)] := by
    have hundisturbed : m.Undisturbed mo key :=
      undisturbed_of_steady (by simpa [m] using ⟨hx.steady, hy.steady⟩)
    refine ⟨hundisturbed, hy.value_eq, ?_⟩
    rw [hundisturbed.turns_eq (fun _ hc => hc) .start]
    simp [m, Context.textAt, hx.value_eq, hy.value_eq]
  have hk := hread "k" (x := some "7") (y := some "80") ((hfirst "k").trans rfl)
    ((hsecond "k").trans rfl)
  have hr := hread "r" (x := some "x") (y := some "30") ((hfirst "r").trans rfl)
    ((hsecond "r").trans rfl)
  have hs := hread "s" (x := none) (y := none) ((hfirst "s").trans rfl) ((hsecond "s").trans rfl)
  have h80 : second.registry.convert (.integer .i32) "k" "80" = .ok (80 : Int) :=
    (Registry.convert_withDefaults_eq_ok_iff rfl).mpr rfl
  have hconvertible : ∀ c raw, (c, some raw) ∈ [(first, some "7"), (second, some "80")] →
      ¬c.Refuses (.integer .i32) "k" raw := by
    intro c raw hc h
    simp only [List.mem_cons, Prod.mk.injEq, Option.some.injEq, List.not_mem_nil, or_false] at hc
    obtain ⟨rfl, rfl⟩ | ⟨rfl, rfl⟩ := hc
    · exact h (7 : Int) ((Registry.convert_withDefaults_eq_ok_iff rfl).mpr rfl)
    · exact h _ h80
  have hx : first.Refuses (.integer .i32) "r" "x" := by
    intro v hv
    cases (Registry.convert_withDefaults_eq_ok_iff rfl).mp hv
  obtain ⟨hdecided, -, hsingle⟩ := getTyped_exact m mo (.integer .i32) "k"
  obtain ⟨hrefused, -, hsingleR⟩ := getTyped_exact m mo (.integer .i32) "r"
  obtain ⟨hmissing, hor, -⟩ := getTyped_exact m mo (.integer .i32) "s"
  obtain ⟨-, -, hfound, -⟩ := hsingle hk.1
  obtain ⟨-, -, hfoundR, -⟩ := hsingleR hr.1
  rw [hk.2.2] at hdecided
  rw [hr.2.2] at hrefused
  rw [hs.2.2] at hmissing
  refine ⟨hk.1, (hfound "80").mpr ⟨second, [first], [], rfl, hk.2.1, by simp⟩, ?_, hr.1,
    (hfoundR "30").mpr ⟨second, [first], [], rfl, hr.2.1, by simp⟩, ?_, ?_⟩
  · exact (hdecided.found 80).mpr
      ⟨hconvertible, second, "80", ⟨[(first, some "7")], [], rfl, by simp⟩, h80⟩
  · exact (hrefused.error _).mpr ⟨first, "x", ⟨[], _, rfl, hx, by simp⟩, rfl⟩
  · exact (hor 5).2.1 (hmissing.missing.mpr (by simp))

theorem getTyped_enrolling_differs :
    let added : ListedFilter :=
      .rule "added" (fun p => p.value.map (fun v => p.withValue (v ++ "0")))
    let first : Context := ⟨[.fixed 0 "low" 0 true (.ofList [("k", "1")]) .empty],
      [.enrolling "tf_adder" added], .withDefaults 0⟩
    let second : Context := ⟨[.fixed 1 "high" 0 true (.ofList [("k", "2")]) .empty],
      [.threadLocal], .withDefaults 1⟩
    let m := Combined.mk "both" [first, second]
    let mo : Moment := ⟨.empty, []⟩
    (m.get "k").Gives mo (some "2") ∧ m.Last (Context.textAt mo "k") second "2" ∧
      second.registry.convert (.integer .i32) "k" "2" = .ok (2 : Int) ∧
      (m.getTyped (.integer .i32) "k").value mo = .ok (some 20) := by
  intro added first second m mo
  have hfirst : Reading.run (first.get "k") .empty [] = (some "1", [added]) :=
    (Context.run_get_single (m := mo) (Source.fixed_steady ..) rfl "k").trans rfl
  have hsecond (l : List ListedFilter) := Context.run_get_single (c := second) (m := ⟨.empty, l⟩)
    (Source.fixed_steady ..) rfl "k"
  have halone : (second.get "k").Gives mo (some "2") := (hsecond []).trans rfl
  have hafter : Reading.run (second.get "k") .empty [added] = (some "20", [added]) :=
    (hsecond [added]).trans rfl
  have hconvert (registry : Nat) {raw : String} {v : Int}
      (h : Conversion.integerRule Number.i32 raw = some v) :
      (Registry.withDefaults registry).convert (.integer .i32) "k" raw = .ok v :=
    (Registry.convert_withDefaults_eq_ok_iff rfl).mpr h
  have hturns : turns "k" mo m.members = [(first, some "1"), (second, some "20")] := by
    simp only [m, mo, turns, Context.textAt, Reading.value, Reading.after, hfirst, hafter]
  refine ⟨halone.bind (Reading.gives_pure _), ⟨[first], [], rfl, halone.value_eq, by simp⟩,
    hconvert 1 rfl, ?_⟩
  rw [getTyped, value_typedFrom, hturns, settled_ok (hconvert 0 rfl), settled_ok (hconvert 1 rfl)]
  rfl

end Combined

end LayeredConfig
