import LayeredConfig.Event.Listeners
import LayeredConfig.Source.Memory
import LayeredConfig.Proofs.Dispatching
import LayeredConfig.Proofs.Passes

namespace LayeredConfig

def Source.Unnamed (s : Source) : Prop := Text.isAllBlank s.name = true

instance (s : Source) : Decidable s.Unnamed := inferInstanceAs (Decidable (_ = true))

namespace Builder

variable {b : Builder}

theorem addSources_eq (b : Builder) (l : List Source) :
    b.addSources l = { b with sources := b.sources ++ l } := by
  induction l generalizing b with
  | nil => simp [addSources]
  | cons s rest ih =>
    have hrest : (b.addSource s).addSources rest =
        { b with sources := b.sources ++ [s] ++ rest } := ih (b.addSource s)
    rw [List.append_assoc] at hrest
    exact hrest

theorem unnamed?_eq_none_iff : b.unnamed? = none ↔ ∀ s ∈ b.sources, ¬s.Unnamed := by
  simp [unnamed?, Source.Unnamed]

theorem build_ok (hb : ∀ s ∈ b.sources, ¬s.Unnamed) :
    b.build = .ok ⟨b.sources, b.filters, b.registry⟩ := by
  rw [build, unnamed?_eq_none_iff.mpr hb]

theorem build_error (hb : ∃ s ∈ b.sources, s.Unnamed) : ∃ e, b.build = .error e := by
  cases hn : b.unnamed? with
  | none =>
    obtain ⟨s, hs, hunnamed⟩ := hb
    exact absurd hunnamed (unnamed?_eq_none_iff.mp hn s hs)
  | some position =>
    rw [build, hn]
    exact ⟨_, rfl⟩

theorem build_eq_ok_iff {c : Context} :
    b.build = .ok c ↔
      (∀ s ∈ b.sources, ¬s.Unnamed) ∧ c = ⟨b.sources, b.filters, b.registry⟩ := by
  constructor
  · intro hc
    cases hn : b.unnamed? with
    | none =>
      have hb := unnamed?_eq_none_iff.mp hn
      rw [build_ok hb] at hc
      exact ⟨hb, (Except.ok.inj hc).symm⟩
    | some position =>
      rw [build, hn] at hc
      cases hc
  · rintro ⟨hb, rfl⟩
    exact build_ok hb

theorem named_of_build {c : Context} (hc : b.build = .ok c) : ∀ s ∈ c.sources, ¬s.Unnamed := by
  obtain ⟨hb, rfl⟩ := build_eq_ok_iff.mp hc
  exact hb

end Builder

namespace Listener

theorem rebuilding_spares {e : Event} (he : e.kind = .contextReplaced) (holder : Nat)
    (manager : Option Nat) (i : Nat) (E : Event → Prop) :
    ((rebuilding holder manager).react e).Spares i E := by
  cases e with
  | change c => cases he
  | contextChanged c => cases he
  | contextReplaced version time => trivial

end Listener

namespace ContextChange

def Idle (change : ContextChange) (c : Context) : Prop :=
  change.added = [] ∧ change.updated = [] ∧
    ∀ s ∈ c.sources, s.name ∉ change.removed.map (·.name)

def revised (change : ContextChange) (c : Context) : List Source :=
  c.sources.filter (fun s => s.name ∉ change.staleNames) ++ change.added ++ change.updated

theorem affects_iff {change : ContextChange} {s : Source} (hadded : change.added = [])
    (hupdated : change.updated = []) :
    change.affects s = true ↔ s.name ∈ change.removed.map (·.name) := by
  simp [affects, affectedNames, hadded, hupdated]

theorem revised_of_idle {change : ContextChange} {c : Context} (hidle : change.Idle c) :
    change.revised c = c.sources := by
  obtain ⟨hadded, hupdated, hremoved⟩ := hidle
  have hstale : change.staleNames = change.removed.map (·.name) := by
    rw [staleNames, hupdated, List.append_nil]
  rw [revised, hadded, hupdated, hstale, List.append_nil, List.append_nil, List.filter_eq_self]
  intro s hs
  exact decide_eq_true (hremoved s hs)

theorem mem_revised {change : ContextChange} {c : Context} {s : Source} :
    s ∈ change.revised c ↔
      (s ∈ c.sources ∧ s.name ∉ change.staleNames) ∨ s ∈ change.added ++ change.updated := by
  simp only [revised, List.mem_append, List.mem_filter, decide_eq_true_eq, or_assoc]

end ContextChange

namespace Hub

variable {h : Hub} {c : Context} {change : ContextChange}

theorem touches_eq_false_iff : touches c change = false ↔ change.Idle c := by
  simp only [touches, ContextChange.Idle, Bool.or_eq_false_iff, Bool.not_eq_false',
    List.isEmpty_iff, List.any_eq_false, and_assoc]
  refine and_congr_right fun hadded => and_congr_right fun hupdated => ?_
  simp only [ContextChange.affects_iff hadded hupdated]

theorem touches_of_not_idle (hidle : ¬change.Idle c) : touches c change = true := by
  rwa [← touches_eq_false_iff, Bool.not_eq_false] at hidle

theorem rebuild_eq (change : ContextChange) (c : Context) :
    rebuild change c = Builder.build ⟨change.revised c, c.filters, c.registry⟩ := by
  rw [rebuild, Builder.addSources_eq, Builder.addSources_eq]
  rfl

theorem rebuild_ok (hc : ∀ s ∈ c.sources, ¬s.Unnamed)
    (hnew : ∀ s ∈ change.added ++ change.updated, ¬s.Unnamed) :
    rebuild change c = .ok ⟨change.revised c, c.filters, c.registry⟩ := by
  rw [rebuild_eq]
  apply Builder.build_ok
  intro s hs
  rcases ContextChange.mem_revised.mp hs with ⟨hkept, -⟩ | hfresh
  · exact hc s hkept
  · exact hnew s hfresh

theorem rebuild_error (c : Context)
    (hbad : ∃ s ∈ change.added ++ change.updated, s.Unnamed) :
    ∃ e, rebuild change c = .error e := by
  rw [rebuild_eq]
  obtain ⟨s, hs, hunnamed⟩ := hbad
  exact Builder.build_error ⟨s, ContextChange.mem_revised.mpr (.inr hs), hunnamed⟩

theorem live?_eq_none_iff {manager : Option Nat} :
    h.live? manager = none ↔ ∀ m, manager = some m → h.manager? m = none := by
  simp [live?, Option.filter_eq_none_iff]

theorem live?_of_manager? {m : Nat} {a : Manager} (hm : h.manager? m = some a) :
    h.live? (some m) = some m := by
  simp [live?, Option.filter, hm]

def announced (depth : Nat) (manager : Option Nat) (version : String) (h : Hub) : Hub :=
  match h.live? manager with
  | none => h
  | some m => (fireWithin depth m (.contextReplaced version h.now) h.tick).2

theorem announced_live (depth : Nat) {m : Nat} {a : Manager} (hm : h.manager? m = some a)
    (version : String) : announced depth (some m) version h =
      (fireWithin depth m (.contextReplaced version h.now) h.tick).2 := by
  rw [announced, live?_of_manager? hm]

theorem announced_keeps {i : Nat} {E : Event → Prop}
    (hE : ∀ version time, E (.contextReplaced version time)) (hs : h.Spares i E) (depth : Nat)
    (manager : Option Nat) (version : String) :
    Keeps i h (announced depth manager version h) := by
  rw [announced]
  split
  · exact .refl i h
  · exact (tick_keeps i h).andThen hs (fireWithin_keeps hE depth _ _ h.tick (hE _ _))

section Apply

variable {depth i : Nat} {held : Holder} {manager : Option Nat}

theorem applyChange_idle (hi : h.holder? i = some held) (hidle : change.Idle held.current) :
    applyChange (fireWithin depth) i manager change h = (.unchanged held.current, h) := by
  have htouches := touches_eq_false_iff.mpr hidle
  simp only [applyChange, hi, htouches, Bool.false_eq_true, if_false]

theorem applyChange_rebuilt (hi : h.holder? i = some held) (hidle : ¬change.Idle held.current)
    (hc : rebuild change held.current = .ok c) :
    applyChange (fireWithin depth) i manager change h =
      (.rebuilt c, announced depth manager change.version (h.setHolder i (held.publish c))) := by
  simp only [applyChange, hi, touches_of_not_idle hidle, if_true, Holder.update_ok hc, announced]
  cases (h.setHolder i (held.publish c)).live? manager <;> rfl

theorem applyChange_error (hi : h.holder? i = some held) (hidle : ¬change.Idle held.current)
    {e : ConfigError} (he : rebuild change held.current = .error e) :
    applyChange (fireWithin depth) i manager change h =
      (.failed (.reconfigurationFailed e.message), h) := by
  simp only [applyChange, hi, touches_of_not_idle hidle, if_true, Holder.update_error he]

theorem applyChange_failed (hi : h.holder? i = some held)
    (hbad : ∃ s ∈ change.added ++ change.updated, s.Unnamed) :
    ∃ reason, applyChange (fireWithin depth) i manager change h =
      (.failed (.reconfigurationFailed reason), h) := by
  have hidle : ¬change.Idle held.current := by
    rintro ⟨hadded, hupdated, -⟩
    simp [hadded, hupdated] at hbad
  obtain ⟨e, he⟩ := rebuild_error held.current hbad
  exact ⟨e.message, applyChange_error hi hidle he⟩

end Apply

/-- A change either publishes exactly what it says, and a live manager serves one event that tells
of it to every listener registered with it, or it changes nothing. -/
theorem applyChange_exact (depth : Nat) {h : Hub} {i : Nat} {held : Holder}
    (hi : h.holder? i = some held) (hbuilt : ∃ b : Builder, b.build = .ok held.current)
    (manager : Option Nat) (change : ContextChange) :
    let apply := applyChange (fireWithin (depth + 1)) i manager change h
    ((∀ s ∈ change.added ++ change.updated, ¬s.Unnamed) → ∃ c : Context,
      c.sources = held.current.sources.filter (fun s => s.name ∉ change.staleNames) ++
        change.added ++ change.updated ∧
      c.filters = held.current.filters ∧ c.registry = held.current.registry ∧
      (change.Idle held.current → c = held.current ∧ apply = (.unchanged held.current, h)) ∧
      (¬change.Idle held.current →
        let replaced := h.setHolder i (held.publish c)
        let event := Event.contextReplaced change.version h.now
        ∃ after, apply = (.rebuilt c, after) ∧
          replaced.holder? i = some (held.publish c) ∧
          ((∀ m, manager = some m → h.manager? m = none) → after = replaced) ∧
          (∀ m a, manager = some m → h.manager? m = some a → ∃ turns report,
            fireWithin (depth + 1) m event replaced.tick = (some report, after) ∧
            Passed (serve (fireWithin depth)) event a.registrations replaced.tick turns report
              after) ∧
          ∀ E : Event → Prop, (∀ version time, E (.contextReplaced version time)) →
            h.Spares i E → after.holder? i = some (held.publish c))) ∧
    ((∃ s ∈ change.added ++ change.updated, s.Unnamed) → ∃ reason,
      apply = (.failed (.reconfigurationFailed reason), h)) := by
  intro apply
  obtain ⟨b, hb⟩ := hbuilt
  refine ⟨fun hnew => ?_, applyChange_failed hi⟩
  refine ⟨⟨change.revised held.current, held.current.filters, held.current.registry⟩,
    rfl, rfl, rfl, fun hidle => ⟨?_, applyChange_idle hi hidle⟩, fun hidle => ?_⟩
  · rw [ContextChange.revised_of_idle hidle]
  · intro replaced event
    have hreplaced : replaced.holder? i = some (held.publish _) := holder?_setHolder hi _
    have hrebuild := rebuild_ok (Builder.named_of_build hb) hnew
    refine ⟨_, applyChange_rebuilt hi hidle hrebuild, hreplaced, fun hdropped => ?_,
      fun m a hmanager hm => ?_, fun E hE hs => ?_⟩
    · have hlive : replaced.live? manager = none := live?_eq_none_iff.mpr hdropped
      rw [announced, hlive]
    · obtain ⟨turns, report, after, hfire, hpassed⟩ :=
        fireBy_passed (serve (fireWithin depth)) event (h := replaced.tick) hm
      have hafter : announced (depth + 1) manager change.version replaced = after := by
        rw [hmanager, announced_live _ (h := replaced) hm]
        exact congrArg Prod.snd hfire
      rw [hafter]
      exact ⟨turns, report, hfire, hpassed⟩
    · have hs : replaced.Spares i E := hs
      exact ((announced_keeps hE hs _ manager change.version).holder).trans hreplaced

theorem applyChange_exact_update :
    let file := Source.fixed 0 "file" 100 true (.ofList [("a", "1"), ("b", "2")]) .empty
    let env := Source.fixed 1 "env" 200 true (.ofList [("a", "9")]) .empty
    let fresh := Source.fixed 2 "env" 200 true (.ofList [("a", "42")]) .empty
    let remote := Source.fixed 3 "remote" 50 true (.ofList [("c", "3")]) .empty
    let held := Holder.new ⟨[file, env], [], .empty 0⟩
    let recorder : Listener := ⟨"recorder", true, [], fun e =>
      .note (e.kind.text ++ " " ++ e.version) (.finish .done)⟩
    let h : Hub := { Hub.empty with
      listeners := [.rebuilding 0 (some 0), recorder]
      managers := [some ⟨3, [⟨1, 0⟩, ⟨2, 1⟩]⟩]
      holders := [held] }
    let change : ContextChange := ⟨"c1", default, [remote], [], [fresh]⟩
    h.holder? 0 = some held ∧ (∃ b : Builder, b.build = .ok held.current) ∧
      ∃ c after, applyChange (fireWithin 1) 0 (some 0) change h = (.rebuilt c, after) ∧
        c.sources = [file, remote, fresh] ∧ after.holder? 0 = some ⟨c, 1⟩ ∧
        (∃ turns, Passed (serve (fireWithin 0)) (.contextReplaced "c1" default) [⟨1, 0⟩, ⟨2, 1⟩]
          (h.setHolder 0 ⟨c, 1⟩).tick turns ⟨.contextReplaced, "c1", 1, 1, []⟩ after) ∧
        after.notes = ["ContextReplaced c1"] := by
  intro file env fresh remote held recorder h change
  have hnamed : ∀ s ∈ [file, env], ¬s.Unnamed := by
    simp only [List.forall_mem_cons]
    exact ⟨by decide, by decide, by simp⟩
  have hbuilt : ∃ b : Builder, b.build = .ok held.current :=
    ⟨⟨[file, env], [], .empty 0⟩, Builder.build_ok hnamed⟩
  have hnew : ∀ s ∈ change.added ++ change.updated, ¬s.Unnamed := by
    simp only [change, List.singleton_append, List.forall_mem_cons]
    exact ⟨by decide, by decide, by simp⟩
  have hidle : ¬change.Idle held.current := fun hidle => List.cons_ne_nil _ _ hidle.1
  have hspares : h.Spares 0 (fun e => e.kind = .contextReplaced) := by
    intro l e he
    match l with
    | 0 => exact Listener.rebuilding_spares he 0 (some 0) 0 _
    | 1 => trivial
    | _ + 2 => trivial
  have hheld : h.holder? 0 = some held := rfl
  refine ⟨hheld, hbuilt, ?_⟩
  obtain ⟨c, hsources, -, -, -, hreplaced⟩ :=
    (applyChange_exact 0 hheld hbuilt (some 0) change).1 hnew
  obtain ⟨after, happly, -, -, hfired, hkept⟩ := hreplaced hidle
  obtain ⟨turns, report, hfire, hpassed⟩ := hfired 0 _ rfl rfl
  have hreport : (fireWithin 1 0 (.contextReplaced "c1" default)
      (h.setHolder 0 (held.publish c)).tick).1 = some ⟨.contextReplaced, "c1", 1, 1, []⟩ := rfl
  have hnotes : (fireWithin 1 0 (.contextReplaced "c1" default)
      (h.setHolder 0 (held.publish c)).tick).2.notes = ["ContextReplaced c1"] := rfl
  have hfire : fireWithin 1 0 (.contextReplaced "c1" default)
      (h.setHolder 0 (held.publish c)).tick = (some report, after) := hfire
  rw [hfire] at hreport hnotes
  obtain rfl := Option.some.inj hreport
  exact ⟨c, after, happly, hsources, hkept _ (fun _ _ => rfl) hspares, ⟨turns, hpassed⟩, hnotes⟩

end Hub

end LayeredConfig
