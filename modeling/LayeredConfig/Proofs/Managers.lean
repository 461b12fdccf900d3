import LayeredConfig.Event.Dispatch

namespace LayeredConfig

structure Manager.Evolves (a b : Manager) : Prop where
  next_le : a.next ≤ b.next
  split : ∃ left fresh, b.registrations = left ++ fresh ∧ left.Sublist a.registrations ∧
    fresh.Pairwise (fun r s => r.id < s.id) ∧ ∀ r ∈ fresh, a.next ≤ r.id ∧ r.id < b.next

namespace Manager

variable {a b c : Manager}

theorem Evolves.of_sublist {registrations : List Registration}
    (hs : registrations.Sublist a.registrations) : a.Evolves ⟨a.next, registrations⟩ :=
  ⟨Nat.le_refl _, registrations, [], (List.append_nil _).symm, hs, .nil, by simp⟩

theorem Evolves.refl (a : Manager) : a.Evolves a := .of_sublist (List.Sublist.refl _)

theorem Evolves.register (a : Manager) (listener : Nat) :
    a.Evolves ⟨a.next + 1, a.registrations ++ [⟨a.next, listener⟩]⟩ := by
  refine ⟨Nat.le_succ _, a.registrations, [⟨a.next, listener⟩], rfl, List.Sublist.refl _,
    List.pairwise_singleton _ _, ?_⟩
  intro r hr
  rw [List.mem_singleton.mp hr]
  exact ⟨Nat.le_refl _, Nat.lt_succ_self _⟩

theorem Evolves.trans (hab : a.Evolves b) (hbc : b.Evolves c) : a.Evolves c := by
  obtain ⟨hnext, left, fresh, hb, hleft, hfresh, hids⟩ := hab
  obtain ⟨hnext', left', fresh', hc, hleft', hfresh', hids'⟩ := hbc
  -- What is left of the second manager is partly old and partly new for the first one.
  rw [hb] at hleft'
  obtain ⟨old, young, rfl, hold, hyoung⟩ := List.sublist_append_iff.mp hleft'
  refine ⟨Nat.le_trans hnext hnext', old, young ++ fresh', by rw [hc, List.append_assoc],
    hold.trans hleft, List.pairwise_append.mpr ⟨hfresh.sublist hyoung, hfresh', ?_⟩, ?_⟩
  · intro r hr s hs
    exact Nat.lt_of_lt_of_le (hids r (hyoung.subset hr)).2 (hids' s hs).1
  · intro r hr
    rcases List.mem_append.mp hr with hr | hr
    · have := hids r (hyoung.subset hr)
      omega
    · have := hids' r hr
      omega

theorem Evolves.next_le_id (hab : a.Evolves b) {r : Registration} (hr : r ∈ b.registrations)
    (hnew : r ∉ a.registrations) : a.next ≤ r.id := by
  obtain ⟨-, left, fresh, hb, hleft, -, hids⟩ := hab
  rw [hb] at hr
  rcases List.mem_append.mp hr with hr | hr
  · exact absurd (hleft.subset hr) hnew
  · exact (hids r hr).1

end Manager

namespace Hub

variable {h h' h'' : Hub}

def Evolves (h h' : Hub) : Prop :=
  ∀ m a, h.manager? m = some a → ∃ b, h'.manager? m = some b ∧ a.Evolves b

theorem manager?_setManager {m : Nat} {a : Manager} (hm : h.manager? m = some a) (b : Manager)
    (k : Nat) : (h.setManager m b).manager? k = if m = k then some b else h.manager? k := by
  obtain ⟨hlt, -⟩ := List.getElem?_eq_some_iff.mp (Option.join_eq_some_iff.mp hm)
  simp only [manager?, setManager, List.getElem?_set]
  by_cases hk : m = k
  · subst hk
    simp [hlt]
  · simp [hk]

theorem Evolves.of_managers_eq (hm : h'.managers = h.managers) : Evolves h h' := by
  intro m a ha
  refine ⟨a, ?_, .refl a⟩
  rw [manager?, hm]
  exact ha

theorem Evolves.trans (hf : Evolves h h') (hg : Evolves h' h'') : Evolves h h'' := by
  intro m a ha
  obtain ⟨b, hb, hab⟩ := hf m a ha
  obtain ⟨c, hc, hbc⟩ := hg m b hb
  exact ⟨c, hc, hab.trans hbc⟩

theorem Evolves.setManager {m : Nat} {a b : Manager} (hm : h.manager? m = some a)
    (hab : a.Evolves b) : Evolves h (h.setManager m b) := by
  intro k c hc
  rw [manager?_setManager hm]
  by_cases hk : m = k
  · subst hk
    obtain rfl : a = c := Option.some.inj (hm.symm.trans hc)
    exact ⟨b, if_pos rfl, hab⟩
  · exact ⟨c, by rw [if_neg hk, hc], .refl c⟩

theorem register_evolves (h : Hub) (m l : Nat) : Evolves h (h.register m l).2 := by
  rw [register]
  cases hm : h.manager? m with
  | none => exact .of_managers_eq rfl
  | some a => exact Evolves.setManager (h := h.info _) hm (.register a l)

theorem remove_evolves (h : Hub) (m id : Nat) : Evolves h (h.remove m id).2 := by
  rw [remove]
  cases hm : h.manager? m with
  | none => exact .of_managers_eq rfl
  | some a =>
    dsimp only
    split
    · exact (Evolves.setManager hm (.of_sublist List.filter_sublist)).trans (.of_managers_eq rfl)
    · exact .of_managers_eq rfl

theorem removeNamed_evolves (h : Hub) (m : Nat) (name : String) :
    Evolves h (h.removeNamed m name).2 := by
  rw [removeNamed]
  cases hm : h.manager? m with
  | none => exact .of_managers_eq rfl
  | some a =>
    dsimp only
    split
    · exact (Evolves.setManager hm (.of_sublist List.filter_sublist)).trans (.of_managers_eq rfl)
    · exact Evolves.setManager hm (.of_sublist List.filter_sublist)

theorem clear_evolves (h : Hub) (m : Nat) : Evolves h (h.clear m) := by
  rw [clear]
  cases hm : h.manager? m with
  | none => exact .of_managers_eq rfl
  | some a =>
    exact (Evolves.setManager hm (.of_sublist (List.nil_sublist _))).trans (.of_managers_eq rfl)

structure Lasting (R : Hub → Hub → Prop) : Prop where
  refl : ∀ h, R h h
  trans : ∀ {h h' h''}, R h h' → R h' h'' → R h h''
  addNote : ∀ h line, R h (h.addNote line)
  addLog : ∀ h line, R h (h.addLog line)
  remember : ∀ h cell text, R h (h.remember cell text)
  tick : ∀ h, R h h.tick
  register : ∀ h m l, R h (h.register m l).2
  remove : ∀ h m id, R h (h.remove m id).2
  removeNamed : ∀ h m name, R h (h.removeNamed m name).2
  clear : ∀ h m, R h (h.clear m)
  setEnabled : ∀ h l enabled, R h (h.setEnabled l enabled)
  setHolder : ∀ h i held, R h (h.setHolder i held)

theorem evolves_lasting : Lasting Evolves where
  refl _ := .of_managers_eq rfl
  trans := Evolves.trans
  addNote _ _ := .of_managers_eq rfl
  addLog _ _ := .of_managers_eq rfl
  remember _ _ _ := .of_managers_eq rfl
  tick _ := .of_managers_eq rfl
  register := register_evolves
  remove := remove_evolves
  removeNamed := removeNamed_evolves
  clear := clear_evolves
  setEnabled _ _ _ := .of_managers_eq rfl
  setHolder _ _ _ := .of_managers_eq rfl

namespace Lasting

variable {R : Hub → Hub → Prop} {fire : Nat → Event → Hub → Option Report × Hub}

theorem applyChange (hR : Lasting R) (hf : ∀ m e h, R h (fire m e h).2) (i : Nat)
    (manager : Option Nat) (change : ContextChange) (h : Hub) :
    R h (Hub.applyChange fire i manager change h).2 := by
  rw [Hub.applyChange]
  cases h.holder? i with
  | none => exact hR.refl h
  | some held =>
    dsimp only
    split
    · split
      · exact hR.refl h
      · split
        · exact hR.setHolder h i _
        · exact hR.trans (hR.trans (hR.setHolder h i _) (hR.tick _)) (hf _ _ _)
    · exact hR.refl h

theorem runTask (hR : Lasting R) (hf : ∀ m e h, R h (fire m e h).2) (t : Task) (h : Hub) :
    R h (Hub.runTask fire t h).2 := by
  induction t generalizing h with
  | finish o => exact hR.refl h
  | note line next ih => exact hR.trans (hR.addNote h line) (ih _)
  | log line next ih => exact hR.trans (hR.addLog h line) (ih _)
  | look next ih => exact ih _ h
  | remember cell text next ih => exact hR.trans (hR.remember h cell text) (ih _)
  | time next ih => exact hR.trans (hR.tick h) (ih _ _)
  | register m l next ih => exact hR.trans (hR.register h m l) (ih _ _)
  | remove m id next ih => exact hR.trans (hR.remove h m id) (ih _ _)
  | removeLabelled m label next ih =>
    rw [Hub.runTask]
    cases h.labels.get? label with
    | none => exact ih false h
    | some id => exact hR.trans (hR.remove h m id) (ih _ _)
  | removeNamed m name next ih => exact hR.trans (hR.removeNamed h m name) (ih _ _)
  | clear m next ih => exact hR.trans (hR.clear h m) (ih _)
  | setEnabled l enabled next ih => exact hR.trans (hR.setEnabled h l enabled) (ih _)
  | fire m e next ih => exact hR.trans (hf m e h) (ih _ _)
  | apply holder manager change next ih =>
    exact hR.trans (hR.applyChange hf holder manager change h) (ih _ _)

end Lasting

end Hub

end LayeredConfig
