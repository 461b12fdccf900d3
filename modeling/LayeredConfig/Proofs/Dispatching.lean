import LayeredConfig.Event.Dispatch

namespace LayeredConfig

def Task.Spares (i : Nat) (E : Event → Prop) : Task → Prop
  | .finish _ => True
  | .note _ next => next.Spares i E
  | .log _ next => next.Spares i E
  | .look next => ∀ view, (next view).Spares i E
  | .remember _ _ next => next.Spares i E
  | .time next => ∀ now, (next now).Spares i E
  | .register _ _ next => ∀ id, (next id).Spares i E
  | .remove _ _ next => ∀ removed, (next removed).Spares i E
  | .removeLabelled _ _ next => ∀ removed, (next removed).Spares i E
  | .removeNamed _ _ next => ∀ removed, (next removed).Spares i E
  | .clear _ next => next.Spares i E
  | .setEnabled _ _ next => next.Spares i E
  | .fire _ e next => E e ∧ ∀ report, (next report).Spares i E
  | .apply holder _ _ next => holder ≠ i ∧ ∀ applied, (next applied).Spares i E

namespace Hub

variable {h h' h'' : Hub} {i : Nat} {E : Event → Prop}

structure Keeps (i : Nat) (h h' : Hub) : Prop where
  holder : h'.holder? i = h.holder? i
  reactions : ∀ l, (h'.listener l).react = (h.listener l).react

def Spares (h : Hub) (i : Nat) (E : Event → Prop) : Prop :=
  ∀ l e, E e → ((h.listener l).react e).Spares i E

theorem Keeps.refl (i : Nat) (h : Hub) : Keeps i h h := ⟨rfl, fun _ => rfl⟩

theorem Keeps.trans (hf : Keeps i h h') (hg : Keeps i h' h'') : Keeps i h h'' :=
  ⟨hg.holder.trans hf.holder, fun l => (hg.reactions l).trans (hf.reactions l)⟩

theorem Keeps.spares (hk : Keeps i h h') (hs : h.Spares i E) : h'.Spares i E := by
  intro l e he
  rw [hk.reactions l]
  exact hs l e he

theorem Keeps.andThen (hk : Keeps i h h') (hs : h.Spares i E)
    (hnext : h'.Spares i E → Keeps i h' h'') : Keeps i h h'' :=
  hk.trans (hnext (hk.spares hs))

theorem Keeps.of_eq (hh : h'.holders = h.holders) (hl : h'.listeners = h.listeners) :
    Keeps i h h' := by
  constructor
  · rw [holder?, holder?, hh]
  · intro l
    rw [listener, listener, hl]

@[simp] theorem holder?_setHolder_ne {j : Nat} (hj : j ≠ i) (h : Hub) (held : Holder) :
    (h.setHolder j held).holder? i = h.holder? i := by
  simp only [holder?, setHolder]
  exact List.getElem?_set_ne hj

theorem holder?_setHolder {held : Holder} (hi : h.holder? i = some held) (new : Holder) :
    (h.setHolder i new).holder? i = some new := by
  obtain ⟨hlt, -⟩ := List.getElem?_eq_some_iff.mp hi
  simp only [holder?, setHolder]
  exact List.getElem?_set_self hlt

theorem setManager_keeps (i : Nat) (h : Hub) (m : Nat) (manager : Manager) :
    Keeps i h (h.setManager m manager) := .of_eq rfl rfl

theorem addNote_keeps (i : Nat) (h : Hub) (line : String) : Keeps i h (h.addNote line) :=
  .of_eq rfl rfl

theorem addLog_keeps (i : Nat) (h : Hub) (line : LogLine) : Keeps i h (h.addLog line) :=
  .of_eq rfl rfl

theorem remember_keeps (i : Nat) (h : Hub) (cell text : String) :
    Keeps i h (h.remember cell text) := .of_eq rfl rfl

theorem tick_keeps (i : Nat) (h : Hub) : Keeps i h h.tick := .of_eq rfl rfl

theorem setHolder_keeps {j : Nat} (hj : j ≠ i) (h : Hub) (held : Holder) :
    Keeps i h (h.setHolder j held) :=
  ⟨holder?_setHolder_ne hj h held, fun _ => rfl⟩

theorem setEnabled_keeps (i : Nat) (h : Hub) (l : Nat) (enabled : Bool) :
    Keeps i h (h.setEnabled l enabled) := by
  refine ⟨rfl, fun k => ?_⟩
  simp only [listener, setEnabled, List.getD_eq_getElem?_getD, List.getElem?_modify]
  cases h.listeners[k]? with
  | none => rfl
  | some listener => by_cases hk : l = k <;> simp [hk]

theorem register_keeps (i : Nat) (h : Hub) (m l : Nat) : Keeps i h (h.register m l).2 := by
  rw [register]
  cases h.manager? m with
  | none => exact .refl i h
  | some manager => exact (addLog_keeps i h _).trans (setManager_keeps ..)

theorem remove_keeps (i : Nat) (h : Hub) (m id : Nat) : Keeps i h (h.remove m id).2 := by
  rw [remove]
  cases h.manager? m with
  | none => exact .refl i h
  | some manager =>
    dsimp only
    split
    · exact (setManager_keeps i h ..).trans (addLog_keeps ..)
    · exact .refl i h

theorem removeNamed_keeps (i : Nat) (h : Hub) (m : Nat) (name : String) :
    Keeps i h (h.removeNamed m name).2 := by
  rw [removeNamed]
  cases h.manager? m with
  | none => exact .refl i h
  | some manager =>
    dsimp only
    split
    · exact (setManager_keeps i h ..).trans (addLog_keeps ..)
    · exact setManager_keeps i h ..

theorem clear_keeps (i : Nat) (h : Hub) (m : Nat) : Keeps i h (h.clear m) := by
  rw [clear]
  cases h.manager? m with
  | none => exact .refl i h
  | some manager => exact (setManager_keeps i h ..).trans (addLog_keeps ..)

section Run

variable {fire : Nat → Event → Hub → Option Report × Hub}

def FiringKeeps (fire : Nat → Event → Hub → Option Report × Hub) (i : Nat) (E : Event → Prop) :
    Prop :=
  ∀ m e h, E e → h.Spares i E → Keeps i h (fire m e h).2

theorem applyChange_keeps (hf : FiringKeeps fire i E)
    (hE : ∀ version time, E (.contextReplaced version time)) {j : Nat} (hj : j ≠ i)
    (manager : Option Nat) (change : ContextChange) (hs : h.Spares i E) :
    Keeps i h (applyChange fire j manager change h).2 := by
  rw [applyChange]
  cases h.holder? j with
  | none => exact .refl i h
  | some held =>
    dsimp only
    split
    · split
      · exact .refl i h
      · have hset := setHolder_keeps hj h
        split
        · exact hset _
        · exact ((hset _).trans (tick_keeps i _)).andThen hs (hf _ _ _ (hE _ _))
    · exact .refl i h

theorem runTask_keeps (hf : FiringKeeps fire i E)
    (hE : ∀ version time, E (.contextReplaced version time)) {t : Task} (ht : t.Spares i E)
    (hs : h.Spares i E) : Keeps i h (runTask fire t h).2 := by
  induction t generalizing h with
  | finish o => exact .refl i h
  | note line next ih => exact (addNote_keeps i h line).andThen hs (ih ht)
  | log line next ih => exact (addLog_keeps i h line).andThen hs (ih ht)
  | look next ih => exact ih _ (ht _) hs
  | remember cell text next ih => exact (remember_keeps i h cell text).andThen hs (ih ht)
  | time next ih => exact (tick_keeps i h).andThen hs (ih _ (ht _))
  | register m l next ih => exact (register_keeps i h m l).andThen hs (ih _ (ht _))
  | remove m id next ih => exact (remove_keeps i h m id).andThen hs (ih _ (ht _))
  | removeLabelled m label next ih =>
    rw [runTask]
    cases h.labels.get? label with
    | none => exact ih false (ht false) hs
    | some id => exact (remove_keeps i h m id).andThen hs (ih _ (ht _))
  | removeNamed m name next ih => exact (removeNamed_keeps i h m name).andThen hs (ih _ (ht _))
  | clear m next ih => exact (clear_keeps i h m).andThen hs (ih ht)
  | setEnabled l enabled next ih => exact (setEnabled_keeps i h l enabled).andThen hs (ih ht)
  | fire m e next ih => exact (hf m e h ht.1 hs).andThen hs (ih _ (ht.2 _))
  | apply holder manager change next ih =>
    exact (applyChange_keeps hf hE ht.1 manager change hs).andThen hs (ih _ (ht.2 _))

variable {behave : Nat → Event → Hub → Outcome × Hub} {e : Event}

theorem deliver_keeps (hb : ∀ l h, h.Spares i E → Keeps i h (behave l e h).2) (r : Registration)
    (hs : h.Spares i E) : Keeps i h (deliver behave e r h).2 := by
  have hkeeps := hb r.listener h hs
  rw [deliver]
  split
  · split
    all_goals rename_i hbehave; rw [hbehave] at hkeeps
    · exact hkeeps
    · exact hkeeps.trans (addLog_keeps ..)
    · exact hkeeps.trans (addLog_keeps ..)
  · exact .refl i h

theorem pass_keeps (hb : ∀ l h, h.Spares i E → Keeps i h (behave l e h).2)
    (registrations : List Registration) (hs : h.Spares i E) :
    Keeps i h (pass behave e registrations h).2 := by
  induction registrations generalizing h with
  | nil => exact .refl i h
  | cons r rest ih =>
    have hr := deliver_keeps hb r hs
    exact hr.andThen hs ih

end Run

theorem fireWithin_keeps (hE : ∀ version time, E (.contextReplaced version time)) (depth : Nat) :
    FiringKeeps (fireWithin depth) i E := by
  induction depth with
  | zero => exact fun _ _ h _ _ => .refl i h
  | succ depth ih =>
    intro m e h he hs
    rw [fireWithin, fireBy]
    cases h.manager? m with
    | none => exact .refl i h
    | some manager =>
      apply pass_keeps _ manager.registrations hs
      intro l h hs
      exact runTask_keeps ih hE (hs l e he) hs

end Hub

end LayeredConfig
