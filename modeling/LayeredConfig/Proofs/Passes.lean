import LayeredConfig.Proofs.Managers
import Mathlib.Logic.Function.Iterate

namespace LayeredConfig

namespace Outcome

def isDone : Outcome → Bool
  | done => true
  | _ => false

def failure? (name : String) : Outcome → Option Failure
  | done => none
  | failed err => some ⟨name, err.message, false⟩
  | panicked carried => some ⟨name, carried.getD Hub.unknownPanic, true⟩

def logLine? (name : String) : Outcome → Option LogLine
  | done => none
  | failed err => some ⟨.error, "监听器 " ++ name ++ " 处理事件失败: " ++ err.message⟩
  | panicked carried => some ⟨.error, "监听器 " ++ name ++ " 处理事件时 panic: " ++
      carried.getD Hub.unknownPanic⟩

end Outcome

structure Turn where
  registration : Registration
  before : Hub
  ended : Option Outcome
  after : Hub

namespace Turn

def listener (t : Turn) : Listener := t.before.listener t.registration.listener

def failure? (t : Turn) : Option Failure := t.ended.bind (Outcome.failure? t.listener.name)

def delivery (t : Turn) : Delivery :=
  match t.ended with
  | none => .skipped
  | some o => (o.failure? t.listener.name).elim .delivered .failed

structure Served (behave : Nat → Event → Hub → Outcome × Hub) (e : Event) (t : Turn) : Prop where
  invoked_iff : t.ended.isSome = true ↔
    t.listener.enabled = true ∧ (t.listener.interested = [] ∨ e.kind ∈ t.listener.interested)
  skipped : t.ended = none → t.after = t.before
  ran : ∀ o, t.ended = some o → ∃ left, behave t.registration.listener e t.before = (o, left) ∧
    t.after = (o.logLine? t.listener.name).elim left left.addLog

def Joined : Hub → List Turn → Hub → Prop
  | h, [], h' => h' = h
  | h, t :: rest, h' => t.before = h ∧ Joined t.after rest h'

theorem Served.lasting {R : Hub → Hub → Prop} (hR : Hub.Lasting R)
    {behave : Nat → Event → Hub → Outcome × Hub} {e : Event} {t : Turn} (ht : t.Served behave e)
    (hb : ∀ l h, R h (behave l e h).2) : R t.before t.after := by
  rcases hended : t.ended with _ | o
  · rw [ht.skipped hended]
    exact hR.refl _
  · obtain ⟨left, hrun, hafter⟩ := ht.ran o hended
    have hleft : R t.before left := by
      have := hb t.registration.listener t.before
      rwa [hrun] at this
    rw [hafter]
    cases o.logLine? t.listener.name with
    | none => exact hleft
    | some line => exact hR.trans hleft (hR.addLog left line)

theorem Joined.lasting {R : Hub → Hub → Prop} (hR : Hub.Lasting R) {turns : List Turn}
    {h h' : Hub} (hj : Joined h turns h') (ht : ∀ t ∈ turns, R t.before t.after) :
    (∀ t ∈ turns, R h t.before) ∧ R h h' := by
  induction turns generalizing h with
  | nil =>
    obtain rfl : h' = h := hj
    exact ⟨by simp, hR.refl h'⟩
  | cons t rest ih =>
    obtain ⟨rfl, hrest⟩ := hj
    have hfirst := ht t List.mem_cons_self
    obtain ⟨hall, hlast⟩ := ih hrest (fun u hu => ht u (List.mem_cons_of_mem _ hu))
    refine ⟨List.forall_mem_cons.mpr ⟨hR.refl _, fun u hu => ?_⟩, hR.trans hfirst hlast⟩
    exact hR.trans hfirst (hall u hu)

theorem count_delivered (turns : List Turn) :
    (turns.map delivery).count .delivered = turns.countP (fun t => t.ended.any Outcome.isDone) := by
  rw [List.count, List.countP_map]
  apply List.countP_congr
  intro t _
  rcases ht : t.ended with _ | o
  · simp [delivery, ht]
  · cases o <;> simp [delivery, ht, Outcome.failure?, Outcome.isDone]

theorem count_skipped (turns : List Turn) :
    (turns.map delivery).count .skipped = turns.countP (fun t => t.ended.isNone) := by
  rw [List.count, List.countP_map]
  apply List.countP_congr
  intro t _
  rcases ht : t.ended with _ | o
  · simp [delivery, ht]
  · cases o <;> simp [delivery, ht, Outcome.failure?]

theorem delivery_failure? (t : Turn) : t.delivery.failure? = t.failure? := by
  rcases ht : t.ended with _ | o
  · simp [delivery, failure?, Delivery.failure?, ht]
  · cases o <;> simp [delivery, failure?, Delivery.failure?, Outcome.failure?, ht]

theorem filterMap_failure? (turns : List Turn) :
    (turns.map delivery).filterMap Delivery.failure? = turns.filterMap failure? := by
  have hcomp : Delivery.failure? ∘ delivery = failure? := funext delivery_failure?
  rw [List.filterMap_map, hcomp]

end Turn

theorem Delivery.count_add_count_add_length (deliveries : List Delivery) :
    deliveries.count .delivered + deliveries.count .skipped +
      (deliveries.filterMap failure?).length = deliveries.length := by
  induction deliveries with
  | nil => rfl
  | cons d rest ih =>
    cases d <;> simp only [List.count_cons, List.filterMap_cons, failure?, List.length_cons] <;>
      simp <;> omega

theorem Listener.considers_iff (l : Listener) (kind : EventKind) :
    l.considers kind = true ↔ l.enabled = true ∧ (l.interested = [] ∨ kind ∈ l.interested) := by
  simp [considers]

namespace Hub

variable {behave : Nat → Event → Hub → Outcome × Hub} {e : Event}

theorem deliver_considered (behave : Nat → Event → Hub → Outcome × Hub) {r : Registration} {h : Hub}
    (hc : (h.listener r.listener).considers e.kind = true) {o : Outcome} {left : Hub}
    (hrun : behave r.listener e h = (o, left)) :
    deliver behave e r h =
      ((o.failure? (h.listener r.listener).name).elim .delivered .failed,
        (o.logLine? (h.listener r.listener).name).elim left left.addLog) := by
  simp only [deliver, hc, if_true, hrun]
  cases o <;> rfl

theorem deliver_skipped (behave : Nat → Event → Hub → Outcome × Hub) {r : Registration} {h : Hub}
    (hc : ¬(h.listener r.listener).considers e.kind = true) :
    deliver behave e r h = (.skipped, h) := by
  rw [deliver, if_neg hc]

theorem deliver_turn (behave : Nat → Event → Hub → Outcome × Hub) (e : Event) (r : Registration)
    (h : Hub) : ∃ t : Turn, t.registration = r ∧ t.before = h ∧ t.Served behave e ∧
      deliver behave e r h = (t.delivery, t.after) := by
  by_cases hc : (h.listener r.listener).considers e.kind = true
  · rcases hrun : behave r.listener e h with ⟨o, left⟩
    refine ⟨⟨r, h, some o, (o.logLine? (h.listener r.listener).name).elim left left.addLog⟩,
      rfl, rfl, ⟨?_, ?_, ?_⟩, deliver_considered behave hc hrun⟩
    · exact iff_of_true rfl ((Listener.considers_iff _ _).mp hc)
    · intro hnone
      cases hnone
    · rintro o' ⟨⟩
      exact ⟨left, hrun, rfl⟩
  · refine ⟨⟨r, h, none, h⟩, rfl, rfl, ⟨?_, fun _ => rfl, ?_⟩, deliver_skipped behave hc⟩
    · exact iff_of_false Bool.false_ne_true (mt (Listener.considers_iff _ _).mpr hc)
    · intro o ho
      cases ho

theorem pass_turns (behave : Nat → Event → Hub → Outcome × Hub) (e : Event)
    (registrations : List Registration) (h : Hub) :
    ∃ turns : List Turn, turns.map Turn.registration = registrations ∧
      Turn.Joined h turns (pass behave e registrations h).2 ∧
      (∀ t ∈ turns, t.Served behave e) ∧
      (pass behave e registrations h).1 = turns.map Turn.delivery := by
  induction registrations generalizing h with
  | nil => exact ⟨[], rfl, rfl, by simp, rfl⟩
  | cons r rest ih =>
    obtain ⟨t, hr, hbefore, hserved, hdeliver⟩ := deliver_turn behave e r h
    obtain ⟨turns, hmap, hjoined, hall, hdeliveries⟩ := ih t.after
    refine ⟨t :: turns, ?_, ?_, List.forall_mem_cons.mpr ⟨hserved, hall⟩, ?_⟩
    · rw [List.map_cons, hmap, hr]
    · rw [pass, hdeliver]
      exact ⟨hbefore, hjoined⟩
    · rw [pass, hdeliver, List.map_cons, ← hdeliveries]

theorem Lasting.pass {R : Hub → Hub → Prop} (hR : Lasting R)
    (hb : ∀ l h, R h (behave l e h).2) (registrations : List Registration) (h : Hub) :
    R h (Hub.pass behave e registrations h).2 := by
  obtain ⟨turns, -, hjoined, hserved, -⟩ := pass_turns behave e registrations h
  exact (hjoined.lasting hR (fun t ht => (hserved t ht).lasting hR hb)).2

theorem Lasting.fireWithin {R : Hub → Hub → Prop} (hR : Lasting R) (depth m : Nat) (e : Event)
    (h : Hub) : R h (Hub.fireWithin depth m e h).2 := by
  induction depth generalizing m e h with
  | zero => exact hR.refl h
  | succ depth ih =>
    rw [Hub.fireWithin, fireBy]
    cases h.manager? m with
    | none => exact hR.refl h
    | some manager => exact hR.pass (fun l h => hR.runTask ih _ h) manager.registrations h

theorem fireWithin_eq_iterate (depth : Nat) :
    fireWithin depth = (fun fire => fireBy (serve fire))^[depth] (fun _ _ h => (none, h)) := by
  induction depth with
  | zero => rfl
  | succ depth ih =>
    rw [Function.iterate_succ_apply', ← ih]
    rfl

/-- No event is fired deeper than this: what would happen there makes no difference. -/
def Ends (depth m : Nat) (e : Event) (h : Hub) : Prop :=
  ∀ deeper, (fun fire => fireBy (serve fire))^[depth] deeper m e h = fireWithin depth m e h

theorem Ends.fireWithin_add {depth m : Nat} {e : Event} {h : Hub} (hends : Ends depth m e h)
    (more : Nat) : fireWithin (depth + more) m e h = fireWithin depth m e h := by
  rw [fireWithin_eq_iterate (depth + more), Function.iterate_add_apply]
  exact hends _

theorem serve_evolves (depth l : Nat) (e : Event) (h : Hub) :
    Evolves h (serve (fireWithin depth) l e h).2 :=
  evolves_lasting.runTask (evolves_lasting.fireWithin depth) _ h

/-- The turns of a pass, one for each registration and in their order, and the report that counts
and lists how they ended. -/
structure Passed (behave : Nat → Event → Hub → Outcome × Hub) (e : Event)
    (registrations : List Registration) (h : Hub) (turns : List Turn) (report : Report)
    (after : Hub) : Prop where
  registrations : turns.map Turn.registration = registrations
  joined : Turn.Joined h turns after
  served : ∀ t ∈ turns, t.Served behave e
  kind : report.kind = e.kind
  version : report.version = e.version
  delivered : report.delivered = turns.countP (fun t => t.ended.any Outcome.isDone)
  skipped : report.skipped = turns.countP (fun t => t.ended.isNone)
  failures : report.failures = turns.filterMap Turn.failure?

section Fire

variable {m : Nat} {h : Hub} {manager : Manager}

theorem fireBy_passed (behave : Nat → Event → Hub → Outcome × Hub) (e : Event)
    (hm : h.manager? m = some manager) : ∃ turns report after,
      fireBy behave m e h = (some report, after) ∧
      Passed behave e manager.registrations h turns report after := by
  obtain ⟨turns, hmap, hjoined, hserved, hdeliveries⟩ := pass_turns behave e manager.registrations h
  refine ⟨turns, _, _, by rw [fireBy, hm], hmap, hjoined, hserved, rfl, rfl, ?_, ?_, ?_⟩
  · rw [Report.ofDeliveries, hdeliveries, Turn.count_delivered]
  · rw [Report.ofDeliveries, hdeliveries, Turn.count_skipped]
  · rw [Report.ofDeliveries, hdeliveries, Turn.filterMap_failure?]

variable {behave : Nat → Event → Hub → Outcome × Hub} {e : Event}
  {registrations : List Registration} {turns : List Turn} {report : Report} {after : Hub}

theorem Passed.length_eq (hp : Passed behave e registrations h turns report after) :
    report.delivered + report.skipped + report.failures.length = registrations.length := by
  rw [hp.delivered, hp.skipped, hp.failures, ← Turn.count_delivered, ← Turn.count_skipped,
    ← Turn.filterMap_failure?, Delivery.count_add_count_add_length, List.length_map,
    ← hp.registrations, List.length_map]

theorem Passed.evolves (hp : Passed behave e registrations h turns report after)
    (hb : ∀ l e h, Evolves h (behave l e h).2) :
    ∀ g ∈ after :: turns.map Turn.before, Evolves h g := by
  obtain ⟨hbefore, hafter⟩ := hp.joined.lasting evolves_lasting
    (fun t ht => (hp.served t ht).lasting evolves_lasting (fun l h => hb l e h))
  exact List.forall_mem_cons.mpr ⟨hafter, List.forall_mem_map.mpr hbefore⟩

end Fire

/-- A pass serves the listeners that are registered when it begins, each once and in order, and
reports how they ended. They may do anything on the hub, as long as managers only lose and gain
registrations; nothing else is done by tasks, in which events are fired again. -/
theorem fireWithin_serves_registered :
    (∀ behave : Nat → Event → Hub → Outcome × Hub, (∀ l e h, Evolves h (behave l e h).2) →
      ∀ (m : Nat) (e : Event) (h : Hub) (manager : Manager), h.manager? m = some manager →
      ∃ (turns : List Turn) (report : Report) (after : Hub),
        fireBy behave m e h = (some report, after) ∧
        Passed behave e manager.registrations h turns report after ∧
        report.delivered + report.skipped + report.failures.length =
          manager.registrations.length ∧
        ∀ g ∈ after :: turns.map Turn.before, ∃ now, g.manager? m = some now ∧
          ∀ r ∈ now.registrations, r ∉ manager.registrations → manager.next ≤ r.id ∧
            ((∀ s ∈ manager.registrations, s.id < manager.next) →
              ∀ t ∈ turns, t.registration.id ≠ r.id)) ∧
    ∀ depth, fireWithin (depth + 1) = fireBy (serve (fireWithin depth)) ∧
      (∀ l e h, Evolves h (serve (fireWithin depth) l e h).2) ∧
      ∀ m e h, Ends (depth + 1) m e h →
        ∀ more, fireWithin (depth + 1 + more) m e h = fireWithin (depth + 1) m e h := by
  refine ⟨fun behave hb m e h manager hm => ?_,
    fun depth => ⟨rfl, serve_evolves depth, fun m e h hends => hends.fireWithin_add⟩⟩
  obtain ⟨turns, report, after, hfire, hpassed⟩ := fireBy_passed behave e hm
  refine ⟨turns, report, after, hfire, hpassed, hpassed.length_eq, fun g hg => ?_⟩
  obtain ⟨now, hnow, hlater⟩ := hpassed.evolves hb g hg m manager hm
  refine ⟨now, hnow, fun r hr hnew => ⟨hlater.next_le_id hr hnew, fun hissued t ht heq => ?_⟩⟩
  -- Identities of turns were issued before, that of a new registration was not.
  have hold := hissued _ (hpassed.registrations ▸ List.mem_map_of_mem ht)
  have hfresh := hlater.next_le_id hr hnew
  omega

theorem fireWithin_serves_registered_reentrant :
    let first : Listener := ⟨"first", true, [], fun e =>
      if e.version = "v1" then
        .remove 0 2 (fun _ => .register 0 5 (fun _ =>
          .fire 0 (.contextReplaced "v2" default) (fun _ => .finish .done)))
      else .finish .done⟩
    let removed : Listener := ⟨"removed", true, [], fun _ =>
      .note "removed" (.finish (.failed (.contextBuildFailed "no room")))⟩
    let breaking : Listener := ⟨"breaking", true, [.contextReplaced], fun _ =>
      .finish (.panicked (some "boom"))⟩
    let elsewhere : Listener := ⟨"elsewhere", true, [.change], fun _ =>
      .note "elsewhere" (.finish .done)⟩
    let once : Listener := ⟨"once", true, [], fun e =>
      .look (fun v => if v.memory.get? "once" = none then .remember "once" e.version (.finish .done)
        else .note "again" (.finish .done))⟩
    let late : Listener := ⟨"late", true, [], fun e => .note ("late " ++ e.version) (.finish .done)⟩
    let manager : Manager := ⟨6, [⟨1, 0⟩, ⟨2, 1⟩, ⟨3, 2⟩, ⟨4, 3⟩, ⟨5, 4⟩]⟩
    let h : Hub := { Hub.empty with
      listeners := [first, removed, breaking, elsewhere, once, late], managers := [some manager] }
    let e : Event := .contextReplaced "v1" default
    h.manager? 0 = some manager ∧ (∀ l e h, Evolves h (serve (fireWithin 1) l e h).2) ∧
      ∃ (turns : List Turn) (after : Hub),
        (∀ more, fireWithin (2 + more) 0 e h = (some ⟨.contextReplaced, "v1", 2, 1,
          [⟨"removed", "配置上下文构建失败: no room", false⟩, ⟨"breaking", "boom", true⟩]⟩, after)) ∧
        turns.map (·.registration.id) = [1, 2, 3, 4, 5] ∧
        after.manager? 0 = some ⟨7, [⟨1, 0⟩, ⟨3, 2⟩, ⟨4, 3⟩, ⟨5, 4⟩, ⟨6, 5⟩]⟩ ∧
        after.notes = ["late v2", "removed", "again"] ∧
        after.memory.get? "once" = some "v2" ∧ ∀ t ∈ turns, t.registration.id ≠ 6 := by
  intro first removed breaking elsewhere once late manager h e
  obtain ⟨hserves, hdepths⟩ := fireWithin_serves_registered
  obtain ⟨hlevel, hevolves, hdeeper⟩ := hdepths 1
  have hm : h.manager? 0 = some manager := rfl
  have hends : Ends 2 0 e h := fun deeper => Prod.ext rfl rfl
  obtain ⟨turns, report, after, hfire, hpassed, -, hnew⟩ := hserves _ hevolves 0 e h manager hm
  rw [← hlevel] at hfire
  have hreport : (fireWithin 2 0 e h).1 = some ⟨.contextReplaced, "v1", 2, 1,
      [⟨"removed", "配置上下文构建失败: no room", false⟩, ⟨"breaking", "boom", true⟩]⟩ := rfl
  have hmanager : (fireWithin 2 0 e h).2.manager? 0 =
      some ⟨7, [⟨1, 0⟩, ⟨3, 2⟩, ⟨4, 3⟩, ⟨5, 4⟩, ⟨6, 5⟩]⟩ := rfl
  have hnotes : (fireWithin 2 0 e h).2.notes = ["late v2", "removed", "again"] := rfl
  have hmemory : (fireWithin 2 0 e h).2.memory.get? "once" = some "v2" := rfl
  rw [hfire] at hreport hmanager hnotes hmemory
  refine ⟨hm, hevolves, turns, after, fun more => ?_, ?_, hmanager, hnotes, hmemory, ?_⟩
  · exact (hdeeper 0 e h hends more).trans (hfire.trans (Prod.ext hreport rfl))
  · have hids := congrArg (List.map Registration.id) hpassed.registrations
    rwa [List.map_map] at hids
  · obtain ⟨now, hnow, hids⟩ := hnew after List.mem_cons_self
    obtain rfl := Option.some.inj (hnow.symm.trans hmanager)
    exact (hids ⟨6, 5⟩ (by decide) (by decide)).2 (by decide)

end Hub

end LayeredConfig
