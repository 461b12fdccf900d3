import LayeredConfig.Event.Dispatch

namespace LayeredConfig

inductive Request where
  | register (listener : Nat)
  | remove (id : Nat)
  | removeNamed (name : String)
  | clear

structure Call where
  manager : Nat
  request : Request
  before : Hub

namespace Call

def after (c : Call) : Hub :=
  match c.request with
  | .register listener => (c.before.register c.manager listener).2
  | .remove id => (c.before.remove c.manager id).2
  | .removeNamed name => (c.before.removeNamed c.manager name).2
  | .clear => c.before.clear c.manager

/-- The manager is first as given, then as each call in turn left it, and nothing else is done to
it until it is as given at the end. -/
def Chained (m : Nat) : Option Manager → List Call → Option Manager → Prop
  | a, [], b => b = a
  | a, c :: rest, b => c.before.manager? m = a ∧ Chained m (c.after.manager? m) rest b

end Call

section Calls

open Hub

variable (fire : Nat → Event → Hub → Option Report × Hub) (nested : Nat → Event → Hub → List Call)

def Hub.changeCalls (holder : Nat) (manager : Option Nat) (change : ContextChange) (h : Hub) :
    List Call :=
  match h.holder? holder with
  | none => []
  | some held =>
    if touches held.current change then
      match held.update (rebuild change) [] with
      | (.error _, _, _) => []
      | (.ok _, _, held) =>
        let h := h.setHolder holder held
        match h.live? manager with
        | none => []
        | some m => nested m (.contextReplaced change.version h.now) h.tick
    else []

def Task.calls : Task → Hub → List Call
  | .finish _, _ => []
  | .note line next, h => next.calls (h.addNote line)
  | .log line next, h => next.calls (h.addLog line)
  | .look next, h => (next h.view).calls h
  | .remember cell text next, h => next.calls (h.remember cell text)
  | .time next, h => (next h.now).calls h.tick
  | .register m l next, h =>
    ⟨m, .register l, h⟩ :: (next (h.register m l).1).calls (h.register m l).2
  | .remove m id next, h => ⟨m, .remove id, h⟩ :: (next (h.remove m id).1).calls (h.remove m id).2
  | .removeLabelled m label next, h =>
    match h.labels.get? label with
    | none => (next false).calls h
    | some id => ⟨m, .remove id, h⟩ :: (next (h.remove m id).1).calls (h.remove m id).2
  | .removeNamed m name next, h =>
    ⟨m, .removeNamed name, h⟩ :: (next (h.removeNamed m name).1).calls (h.removeNamed m name).2
  | .clear m next, h => ⟨m, .clear, h⟩ :: next.calls (h.clear m)
  | .setEnabled l enabled next, h => next.calls (h.setEnabled l enabled)
  | .fire m e next, h => nested m e h ++ (next (fire m e h).1).calls (fire m e h).2
  | .apply holder manager change next, h =>
    changeCalls nested holder manager change h ++
      (next (applyChange fire holder manager change h).1).calls
        (applyChange fire holder manager change h).2

end Calls

namespace Hub

def passCalls (behave : Nat → Event → Hub → Outcome × Hub) (calls : Nat → Hub → List Call)
    (e : Event) : List Registration → Hub → List Call
  | [], _ => []
  | r :: rest, h =>
    (if (h.listener r.listener).considers e.kind then calls r.listener h else []) ++
      passCalls behave calls e rest (deliver behave e r h).2

def callsWithin : Nat → Nat → Event → Hub → List Call
  | 0, _, _, _ => []
  | depth + 1, m, e, h =>
    match h.manager? m with
    | none => []
    | some manager =>
      passCalls (serve (fireWithin depth))
        (fun l h => ((h.listener l).react e).calls (fireWithin depth) (callsWithin depth) h)
        e manager.registrations h

end Hub

namespace Call

variable {m : Nat} {a b d : Option Manager} {calls later : List Call}

theorem Chained.refl (m : Nat) (a : Option Manager) : Chained m a [] a := rfl

theorem Chained.cons (c : Call) (hc : Chained m (c.after.manager? m) calls b) :
    Chained m (c.before.manager? m) (c :: calls) b := ⟨rfl, hc⟩

theorem Chained.append (hf : Chained m a calls b) (hg : Chained m b later d) :
    Chained m a (calls ++ later) d := by
  induction calls generalizing a with
  | nil =>
    obtain rfl : b = a := hf
    exact hg
  | cons c rest ih => exact ⟨hf.1, ih hf.2⟩

end Call

open Call

section Chains

open Hub

variable {m : Nat} {fire : Nat → Event → Hub → Option Report × Hub}
  {nested : Nat → Event → Hub → List Call}

theorem Hub.changeCalls_chained
    (hn : ∀ k e h, Chained m (h.manager? m) (nested k e h) ((fire k e h).2.manager? m))
    (holder : Nat) (manager : Option Nat) (change : ContextChange) (h : Hub) :
    Chained m (h.manager? m) (changeCalls nested holder manager change h)
      ((applyChange fire holder manager change h).2.manager? m) := by
  rw [changeCalls, applyChange]
  cases h.holder? holder with
  | none => exact .refl ..
  | some held =>
    dsimp only
    split
    · rcases held.update (rebuild change) [] with ⟨_ | c, _, held⟩
      · exact .refl ..
      · dsimp only
        cases (h.setHolder holder held).live? manager with
        | none => exact .refl ..
        | some k => exact hn k _ (h.setHolder holder held).tick
    · exact .refl ..

theorem Task.calls_chained
    (hn : ∀ k e h, Chained m (h.manager? m) (nested k e h) ((fire k e h).2.manager? m)) (t : Task)
    (h : Hub) :
    Chained m (h.manager? m) (t.calls fire nested h) ((runTask fire t h).2.manager? m) := by
  induction t generalizing h with
  | finish o => exact .refl ..
  | note line next ih => exact ih (h.addNote line)
  | log line next ih => exact ih (h.addLog line)
  | look next ih => exact ih _ h
  | remember cell text next ih => exact ih (h.remember cell text)
  | time next ih => exact ih _ h.tick
  | register k l next ih => exact .cons ⟨k, .register l, h⟩ (ih _ _)
  | remove k id next ih => exact .cons ⟨k, .remove id, h⟩ (ih _ _)
  | removeLabelled k label next ih =>
    rw [calls, runTask]
    cases h.labels.get? label with
    | none => exact ih false h
    | some id => exact .cons ⟨k, .remove id, h⟩ (ih _ _)
  | removeNamed k name next ih => exact .cons ⟨k, .removeNamed name, h⟩ (ih _ _)
  | clear k next ih => exact .cons ⟨k, .clear, h⟩ (ih _)
  | setEnabled l enabled next ih => exact ih (h.setEnabled l enabled)
  | fire k e next ih => exact (hn k e h).append (ih _ _)
  | apply holder manager change next ih =>
    exact (changeCalls_chained hn holder manager change h).append (ih _ _)

namespace Hub

variable {behave : Nat → Event → Hub → Outcome × Hub} {e : Event} {calls : Nat → Hub → List Call}

theorem deliver_chained
    (hb : ∀ l h, Chained m (h.manager? m) (calls l h) ((behave l e h).2.manager? m))
    (r : Registration) (h : Hub) :
    Chained m (h.manager? m)
      (if (h.listener r.listener).considers e.kind then calls r.listener h else [])
      ((deliver behave e r h).2.manager? m) := by
  have hcalls := hb r.listener h
  rw [deliver]
  dsimp only
  split
  · split
    all_goals
      rename_i hbehave
      rw [hbehave] at hcalls
      exact hcalls
  · exact .refl ..

theorem passCalls_chained
    (hb : ∀ l h, Chained m (h.manager? m) (calls l h) ((behave l e h).2.manager? m))
    (registrations : List Registration) (h : Hub) :
    Chained m (h.manager? m) (passCalls behave calls e registrations h)
      ((pass behave e registrations h).2.manager? m) := by
  induction registrations generalizing h with
  | nil => exact .refl ..
  | cons r rest ih => exact (deliver_chained hb r h).append (ih _)

theorem callsWithin_chained (m depth k : Nat) (e : Event) (h : Hub) :
    Chained m (h.manager? m) (callsWithin depth k e h)
      ((fireWithin depth k e h).2.manager? m) := by
  induction depth generalizing k e h with
  | zero => exact .refl ..
  | succ depth ih =>
    rw [callsWithin, fireWithin, fireBy]
    cases h.manager? k with
    | none => exact .refl ..
    | some manager => exact passCalls_chained (fun l h => Task.calls_chained ih _ h) _ h

end Hub

end Chains

end LayeredConfig
