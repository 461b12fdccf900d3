import LayeredConfig.Context.Builder

/-!
Holders of a published context. Publishing replaces the context as a whole; an update works on the
current one and starts again when another publication came in between. Main statement: an update
that fails leaves what was published (`update_error`).
-/

namespace LayeredConfig

structure Holder where
  current : Context
  -- How many contexts were published before the current one.
  generation : Nat

namespace Holder

def new (c : Context) : Holder := ⟨c, 0⟩

def publish (h : Holder) (c : Context) : Holder := ⟨c, h.generation + 1⟩

def update (rebuild : Context → Except ConfigError Context) (h : Holder) :
    List Context → Except ConfigError Context × Nat × Holder
  -- Each rival publishes during one attempt, which is then made again.
  | [] =>
    match rebuild h.current with
    | .error e => (.error e, 1, h)
    | .ok c => (.ok c, 1, h.publish c)
  | rival :: rivals =>
    match rebuild h.current with
    | .error e => (.error e, 1, h.publish rival)
    | .ok _ =>
      let (result, attempts, h) := update rebuild (h.publish rival) rivals
      (result, attempts + 1, h)

theorem update_error {rebuild : Context → Except ConfigError Context} {h : Holder}
    {e : ConfigError} (he : rebuild h.current = .error e) :
    h.update rebuild [] = (.error e, 1, h) := by
  simp [update, he]

theorem update_ok {rebuild : Context → Except ConfigError Context} {h : Holder} {c : Context}
    (hc : rebuild h.current = .ok c) : h.update rebuild [] = (.ok c, 1, h.publish c) := by
  simp [update, hc]

def debugText (h : Holder) (s : Store) : String :=
  Text.record "ContextHolder" [("current", h.current.debugText s)]

end Holder

end LayeredConfig
