import LayeredConfig.Event.Hub

/-!
Dispatch: an event goes to the listeners that are registered when it is fired, one after another.
A listener may register and remove listeners and fire events itself; what it changes does not
change the pass that it is part of. An error or a panic of one listener does not keep the others
from being served.
-/

namespace LayeredConfig

inductive Delivery where
  | skipped
  | delivered
  | failed (f : Failure)
deriving DecidableEq, Repr

namespace Delivery

def failure? : Delivery → Option Failure
  | failed f => some f
  | _ => none

end Delivery

def Report.ofDeliveries (e : Event) (deliveries : List Delivery) : Report :=
  ⟨e.kind, e.version, deliveries.count .delivered, deliveries.count .skipped,
    deliveries.filterMap Delivery.failure?⟩

namespace Hub

def unknownPanic : String := "<unknown panic>"

def deliver (behave : Nat → Event → Hub → Outcome × Hub) (e : Event) (r : Registration)
    (h : Hub) : Delivery × Hub :=
  let l := h.listener r.listener
  if l.considers e.kind then
    match behave r.listener e h with
    | (.done, h) => (.delivered, h)
    | (.failed err, h) =>
      (.failed ⟨l.name, err.message, false⟩,
        h.addLog ⟨.error, "监听器 " ++ l.name ++ " 处理事件失败: " ++ err.message⟩)
    | (.panicked carried, h) =>
      let message := carried.getD unknownPanic
      (.failed ⟨l.name, message, true⟩,
        h.addLog ⟨.error, "监听器 " ++ l.name ++ " 处理事件时 panic: " ++ message⟩)
  else (.skipped, h)

def pass (behave : Nat → Event → Hub → Outcome × Hub) (e : Event) :
    List Registration → Hub → List Delivery × Hub
  | [], h => ([], h)
  | r :: rest, h =>
    let (d, h) := deliver behave e r h
    let (ds, h) := pass behave e rest h
    (d :: ds, h)

def touches (c : Context) (change : ContextChange) : Bool :=
  !change.added.isEmpty || !change.updated.isEmpty || c.sources.any change.affects

def rebuild (change : ContextChange) (c : Context) : Except ConfigError Context :=
  ((((Builder.ofContext c).removeSources change.staleNames).addSources change.added).addSources
    change.updated).build

def applyChange (fire : Nat → Event → Hub → Option Report × Hub) (holder : Nat)
    (manager : Option Nat) (change : ContextChange) (h : Hub) : Applied × Hub :=
  match h.holder? holder with
  | none => (.failed (.reconfigurationFailed ""), h)
  | some held =>
    -- The lines that holders and this listener log are left out.
    if touches held.current change then
      match held.update (rebuild change) [] with
      | (.error e, _, _) => (.failed (.reconfigurationFailed e.message), h)
      | (.ok c, _, held) =>
        let h := h.setHolder holder held
        match h.live? manager with
        | none => (.rebuilt c, h)
        | some m => (.rebuilt c, (fire m (.contextReplaced change.version h.now) h.tick).2)
    else (.unchanged held.current, h)

def runTask (fire : Nat → Event → Hub → Option Report × Hub) : Task → Hub → Outcome × Hub
  | .finish o, h => (o, h)
  | .note line next, h => runTask fire next (h.addNote line)
  | .log line next, h => runTask fire next (h.addLog line)
  | .look next, h => runTask fire (next h.view) h
  | .remember cell text next, h => runTask fire next (h.remember cell text)
  | .time next, h => runTask fire (next h.now) h.tick
  | .register m l next, h =>
    let (id, h) := h.register m l
    runTask fire (next id) h
  | .remove m id next, h =>
    let (removed, h) := h.remove m id
    runTask fire (next removed) h
  | .removeLabelled m label next, h =>
    match h.labels.get? label with
    | none => runTask fire (next false) h
    | some id =>
      let (removed, h) := h.remove m id
      runTask fire (next removed) h
  | .removeNamed m name next, h =>
    let (removed, h) := h.removeNamed m name
    runTask fire (next removed) h
  | .clear m next, h => runTask fire next (h.clear m)
  | .setEnabled l enabled next, h => runTask fire next (h.setEnabled l enabled)
  | .fire m e next, h =>
    let (report, h) := fire m e h
    runTask fire (next report) h
  | .apply holder manager change next, h =>
    let (applied, h) := applyChange fire holder manager change h
    runTask fire (next applied) h

def fireBy (behave : Nat → Event → Hub → Outcome × Hub) (m : Nat) (e : Event) (h : Hub) :
    Option Report × Hub :=
  match h.manager? m with
  | none => (none, h)
  | some manager =>
    let (deliveries, h) := pass behave e manager.registrations h
    (some (Report.ofDeliveries e deliveries), h)

def serve (fire : Nat → Event → Hub → Option Report × Hub) (l : Nat) (e : Event) (h : Hub) :
    Outcome × Hub :=
  runTask fire ((h.listener l).react e) h

/-- Fire an event, with events fired by listeners nested at most `depth` deep. Beyond that depth
nothing is served or reported. -/
def fireWithin : Nat → Nat → Event → Hub → Option Report × Hub
  | 0, _, _, h => (none, h)
  | depth + 1, m, e, h => fireBy (serve (fireWithin depth)) m e h

def nestingLimit : Nat := 4096

def fire (m : Nat) (e : Event) (h : Hub) : Option Report × Hub := fireWithin nestingLimit m e h

def notify (l : Nat) (e : Event) (h : Hub) : Outcome × Hub := serve fire l e h

end Hub

end LayeredConfig
