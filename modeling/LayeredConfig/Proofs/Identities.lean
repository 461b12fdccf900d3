import LayeredConfig.Proofs.Calls
import LayeredConfig.Proofs.Managers
import LayeredConfig.Proofs.Places

/-!
Identities of registrations. Through the whole life of a manager its identities are issued in order
and none of them twice, the registered ones stand in that order too, and each call answers what it
did (`Life.identities_unique`).
-/

namespace LayeredConfig

namespace Request

def applied (h : Hub) (a : Manager) : Request → Manager
  | register listener => ⟨a.next + 1, a.registrations ++ [⟨a.next, listener⟩]⟩
  | remove id => ⟨a.next, a.registrations.filter (·.id ≠ id)⟩
  | removeNamed name =>
    ⟨a.next, a.registrations.filter (fun r => (h.listener r.listener).name ≠ name)⟩
  | clear => ⟨a.next, []⟩

def issued? (a : Manager) : Request → Option Nat
  | register _ => some a.next
  | _ => none

end Request

theorem Hub.manager?_remove {h : Hub} {m : Nat} {a : Manager} (hm : h.manager? m = some a)
    (id k : Nat) : (h.remove m id).2.manager? k =
      if m = k then some ⟨a.next, a.registrations.filter (·.id ≠ id)⟩ else h.manager? k := by
  simp only [remove, hm]
  split
  · exact manager?_setManager hm _ k
  · next hnone =>
    have hall : a.registrations.filter (·.id ≠ id) = a.registrations := by
      simpa [List.filter_eq_self] using hnone
    rw [hall]
    split
    · next hk => rw [← hk, hm]
    · rfl

theorem Hub.manager?_removeNamed {h : Hub} {m : Nat} {a : Manager} (hm : h.manager? m = some a)
    (name : String) (k : Nat) : (h.removeNamed m name).2.manager? k =
      if m = k then
        some ⟨a.next, a.registrations.filter (fun r => (h.listener r.listener).name ≠ name)⟩
      else h.manager? k := by
  simp only [removeNamed, hm, beq_eq_decide, ← decide_not]
  split
  · exact manager?_setManager hm _ k
  · exact manager?_setManager hm _ k

namespace Call

variable {c : Call} {m : Nat} {a : Manager}

def issued? (m : Nat) (c : Call) : Option Nat :=
  match c.request with
  | .register listener => if c.manager = m then (c.before.register c.manager listener).1 else none
  | _ => none

theorem manager?_after (hm : c.before.manager? c.manager = some a) (k : Nat) :
    c.after.manager? k =
      if c.manager = k then some (c.request.applied c.before a) else c.before.manager? k := by
  obtain ⟨manager, request, before⟩ := c
  cases request with
  | register listener =>
    simp only [after, Hub.register, hm]
    exact Hub.manager?_setManager hm _ k
  | remove id => exact Hub.manager?_remove hm id k
  | removeNamed name => exact Hub.manager?_removeNamed hm name k
  | clear =>
    simp only [after, Hub.clear, hm]
    exact Hub.manager?_setManager hm _ k

theorem after_dropped (hm : c.before.manager? c.manager = none) : c.after = c.before := by
  obtain ⟨manager, request, before⟩ := c
  cases request <;>
    simp only [after, Hub.register, Hub.remove, Hub.removeNamed, Hub.clear, hm]

theorem manager?_after_of_ne (hne : c.manager ≠ m) :
    c.after.manager? m = c.before.manager? m := by
  cases hm : c.before.manager? c.manager with
  | none => rw [after_dropped hm]
  | some a => rw [manager?_after hm, if_neg hne]

theorem issued?_of_ne (hne : c.manager ≠ m) : c.issued? m = none := by
  rw [issued?]
  split
  · exact if_neg hne
  · rfl

theorem issued?_live (hm : c.before.manager? c.manager = some a) :
    c.issued? c.manager = c.request.issued? a := by
  obtain ⟨manager, request, before⟩ := c
  cases request with
  | register listener => simp only [issued?, Hub.register, hm, Request.issued?, if_true]
  | _ => rfl

end Call

structure Manager.Ledger (a : Manager) (issued : List Nat) : Prop where
  counted : issued = List.range' 1 issued.length
  next_eq : a.next = issued.length + 1
  registered : (a.registrations.map Registration.id).Sublist issued

namespace Manager

variable {a : Manager} {issued : List Nat}

theorem Ledger.new : Manager.new.Ledger [] := ⟨rfl, rfl, .slnil⟩

theorem Ledger.of_sublist (hl : a.Ledger issued) {registrations : List Registration}
    (hs : registrations.Sublist a.registrations) :
    (Manager.mk a.next registrations).Ledger issued :=
  ⟨hl.counted, hl.next_eq, (hs.map Registration.id).trans hl.registered⟩

theorem Ledger.register (hl : a.Ledger issued) (listener : Nat) :
    (Manager.mk (a.next + 1) (a.registrations ++ [⟨a.next, listener⟩])).Ledger
      (issued ++ [a.next]) := by
  refine ⟨?_, ?_, ?_⟩
  · rw [List.length_append, List.length_singleton, List.range'_concat, ← hl.counted, hl.next_eq]
    simp [Nat.add_comm]
  · rw [List.length_append, List.length_singleton, hl.next_eq]
  · rw [List.map_append]
    exact hl.registered.append (List.Sublist.refl _)

theorem Ledger.applied (hl : a.Ledger issued) (h : Hub) (q : Request) :
    (q.applied h a).Ledger (issued ++ (q.issued? a).toList) := by
  cases q with
  | register listener => exact hl.register listener
  | remove id => exact (List.append_nil issued).symm ▸ hl.of_sublist List.filter_sublist
  | removeNamed name => exact (List.append_nil issued).symm ▸ hl.of_sublist List.filter_sublist
  | clear => exact (List.append_nil issued).symm ▸ hl.of_sublist (List.nil_sublist _)

structure Orderly (a : Manager) (issued : List Nat) : Prop where
  increasing : a.registrations.Pairwise (fun r s => r.id < s.id)
  below_next : ∀ r ∈ a.registrations, r.id < a.next
  known : ∀ r ∈ a.registrations, r.id ∈ issued
  issued_below_next : ∀ id ∈ issued, id < a.next

theorem Ledger.id_lt_next (hl : a.Ledger issued) {id : Nat} (hid : id ∈ issued) : id < a.next := by
  rw [hl.counted, List.mem_range'_1] at hid
  rw [hl.next_eq]
  omega

theorem Ledger.nodup (hl : a.Ledger issued) : issued.Nodup := by
  rw [hl.counted]
  exact List.nodup_range'

theorem Ledger.orderly (hl : a.Ledger issued) : a.Orderly issued := by
  have hmem : ∀ r ∈ a.registrations, r.id ∈ issued :=
    fun r hr => hl.registered.subset (List.mem_map_of_mem hr)
  refine ⟨?_, fun r hr => hl.id_lt_next (hmem r hr), hmem, fun _ => hl.id_lt_next⟩
  have hissued : issued.Pairwise (· < ·) := by
    rw [hl.counted]
    exact List.pairwise_lt_range'
  exact List.pairwise_map.mp (hissued.sublist hl.registered)

theorem Orderly.filter_id_ne (ho : a.Orderly issued) {r : Registration}
    (hr : r ∈ a.registrations) : ∃ front back, a.registrations = front ++ r :: back ∧
      a.registrations.filter (·.id ≠ r.id) = front ++ back := by
  -- Identities are unique, so that only one registration is removed by its identity.
  obtain ⟨front, back, hsplit⟩ := List.append_of_mem hr
  have hincreasing := ho.increasing
  rw [hsplit, List.pairwise_append, List.pairwise_cons] at hincreasing
  obtain ⟨-, ⟨hback, -⟩, hfront⟩ := hincreasing
  have hne : ∀ s ∈ front ++ back, s.id ≠ r.id := by
    intro s hs
    rcases List.mem_append.mp hs with hs | hs
    · exact Nat.ne_of_lt (hfront s hs r List.mem_cons_self)
    · exact Nat.ne_of_gt (hback s hs)
  refine ⟨front, back, hsplit, ?_⟩
  rw [hsplit, List.filter_append, List.filter_cons_of_neg (by simp), ← List.filter_append,
    List.filter_eq_self]
  exact fun s hs => decide_eq_true (hne s hs)

end Manager

def Call.Exact (c : Call) (a b : Manager) : Prop :=
  match c.request with
  | .register listener =>
    (c.before.register c.manager listener).1 = some a.next ∧
      b = ⟨a.next + 1, a.registrations ++ [⟨a.next, listener⟩]⟩
  | .remove id =>
    ((c.before.remove c.manager id).1 = true ↔ ∃ r ∈ a.registrations, r.id = id) ∧
      b.next = a.next ∧
      if (c.before.remove c.manager id).1 then
        ∃ front r back, r.id = id ∧ a.registrations = front ++ r :: back ∧
          b.registrations = front ++ back
      else b.registrations = a.registrations
  | .removeNamed name =>
    (c.before.removeNamed c.manager name).1 + b.registrations.length = a.registrations.length ∧
      b.next = a.next ∧
      b.registrations = a.registrations.filter (fun r => (c.before.listener r.listener).name ≠ name)
  | .clear => b = ⟨a.next, []⟩

namespace Call

variable {c : Call} {a : Manager} {issued : List Nat}

theorem exact_remove {h : Hub} {m : Nat} (hm : h.manager? m = some a) (ho : a.Orderly issued)
    (id : Nat) : Exact ⟨m, .remove id, h⟩ a ((Request.remove id).applied h a) := by
  have hany : a.registrations.any (·.id == id) = true ↔ ∃ r ∈ a.registrations, r.id = id := by
    simp
  have hanswer : (h.remove m id).1 = true ↔ ∃ r ∈ a.registrations, r.id = id := by
    simp only [Hub.remove, hm]
    split
    · next hregistered => exact iff_of_true rfl (hany.mp hregistered)
    · next hnot => exact iff_of_false Bool.false_ne_true (mt hany.mpr hnot)
  refine ⟨hanswer, rfl, ?_⟩
  dsimp only
  split
  · next hremoved =>
    obtain ⟨r, hr, rfl⟩ := hanswer.mp hremoved
    obtain ⟨front, back, hsplit, hrest⟩ := ho.filter_id_ne hr
    exact ⟨front, r, back, rfl, hsplit, hrest⟩
  · next hkept =>
    rw [hanswer] at hkept
    exact List.filter_eq_self.mpr (fun r hr => decide_eq_true (fun hid => hkept ⟨r, hr, hid⟩))

theorem exact_removeNamed {h : Hub} {m : Nat} (hm : h.manager? m = some a) (name : String) :
    Exact ⟨m, .removeNamed name, h⟩ a ((Request.removeNamed name).applied h a) := by
  refine ⟨?_, rfl, ?_⟩
  · simp only [Hub.removeNamed, hm, Request.applied, beq_eq_decide, decide_not]
    exact (List.length_eq_length_filter_add _).symm
  · rfl

theorem exact_of_orderly (hm : c.before.manager? c.manager = some a) (ho : a.Orderly issued) :
    c.Exact a (c.request.applied c.before a) := by
  obtain ⟨manager, request, before⟩ := c
  cases request with
  | register listener =>
    refine ⟨?_, rfl⟩
    simp only [Hub.register, hm]
  | remove id => exact exact_remove hm ho id
  | removeNamed name => exact exact_removeNamed hm name
  | clear => rfl

end Call

theorem Manager.Ledger.call {c : Call} {m : Nat} {a : Manager} {issued : List Nat}
    (hl : a.Ledger issued) (hm : c.before.manager? m = some a) :
    ∃ b, c.after.manager? m = some b ∧ b.Ledger (issued ++ (c.issued? m).toList) ∧
      (c.manager ≠ m → b = a) ∧ (c.manager = m → c.Exact a b) := by
  by_cases hc : c.manager = m
  · subst hc
    refine ⟨c.request.applied c.before a, ?_, ?_, fun hne => absurd rfl hne, fun _ => ?_⟩
    · rw [Call.manager?_after hm, if_pos rfl]
    · rw [Call.issued?_live hm]
      exact hl.applied c.before c.request
    · exact Call.exact_of_orderly hm hl.orderly
  · refine ⟨a, by rw [Call.manager?_after_of_ne hc, hm], ?_, fun _ => rfl, fun heq => absurd heq hc⟩
    rw [Call.issued?_of_ne hc, Option.toList, List.append_nil]
    exact hl

def issuedBy (m : Nat) (calls : List Call) : List Nat := calls.filterMap (Call.issued? m)

theorem issuedBy_nil (m : Nat) : issuedBy m [] = [] := rfl

theorem issuedBy_cons (m : Nat) (c : Call) (calls : List Call) :
    issuedBy m (c :: calls) = (c.issued? m).toList ++ issuedBy m calls := by
  rw [issuedBy, List.filterMap_cons]
  cases c.issued? m <;> rfl

theorem issuedBy_concat (m : Nat) (calls : List Call) (c : Call) :
    issuedBy m (calls ++ [c]) = issuedBy m calls ++ (c.issued? m).toList := by
  rw [issuedBy, List.filterMap_append, ← issuedBy, ← issuedBy, issuedBy_cons, issuedBy_nil,
    List.append_nil]

theorem Call.Chained.ledgers {m : Nat} {a : Manager} {calls : List Call} {last : Option Manager}
    {issued : List Nat} (hc : Chained m (some a) calls last) (hl : a.Ledger issued) :
    (∃ b, last = some b ∧ b.Ledger (issued ++ issuedBy m calls)) ∧
    ∀ past c later, calls = past ++ c :: later →
      ∃ b, c.before.manager? m = some b ∧ b.Ledger (issued ++ issuedBy m past) := by
  induction calls generalizing a issued with
  | nil =>
    rw [issuedBy_nil, List.append_nil]
    exact ⟨⟨a, hc, hl⟩, by simp⟩
  | cons d rest ih =>
    obtain ⟨hbefore, hrest⟩ := hc
    obtain ⟨next, hafter, hnext, -⟩ := hl.call hbefore
    rw [hafter] at hrest
    obtain ⟨hend, hall⟩ := ih hrest hnext
    rw [issuedBy_cons, ← List.append_assoc]
    refine ⟨hend, fun past c later heq => ?_⟩
    -- The call asked for is the first one, or it is one of the rest with the first in its past.
    cases past with
    | nil =>
      obtain ⟨rfl, -⟩ := List.cons_eq_cons.mp heq
      rw [issuedBy_nil, List.append_nil]
      exact ⟨a, hbefore, hl⟩
    | cons first past =>
      obtain ⟨rfl, hsplit⟩ := List.cons_eq_cons.mp heq
      rw [issuedBy_cons, ← List.append_assoc]
      exact hall past c later hsplit

/-- All calls of managers in the life of one of them. It begins as a new manager; what programs do
to it are tasks, and what else happens on the hub leaves it alone. -/
inductive Life (m : Nat) : List Call → Hub → Prop
  | born {h : Hub} (hm : h.manager? m = some .new) : Life m [] h
  | elsewhere {calls : List Call} {h h' : Hub} (hl : Life m calls h)
      (hm : h'.manager? m = h.manager? m) : Life m calls h'
  | run {calls : List Call} {h : Hub} (hl : Life m calls h) (depth : Nat) (t : Task) :
      Life m (calls ++ t.calls (Hub.fireWithin depth) (Hub.callsWithin depth) h)
        (Hub.runTask (Hub.fireWithin depth) t h).2

namespace Life

variable {m : Nat} {calls : List Call} {h : Hub}

theorem chained (hl : Life m calls h) : Call.Chained m (some .new) calls (h.manager? m) := by
  induction hl with
  | born hm => exact hm
  | elsewhere _ hm ih => rwa [hm]
  | run _ depth t ih => exact ih.append (t.calls_chained (Hub.callsWithin_chained m depth) _)

/-- Through the life of a manager no identity is issued twice; while fewer than `2 ^ 64` are, each
is what 64 bits hold of it. At every moment the identities of the registrations increase along the
list and are below the next one, and each call answers what it does to the registrations. -/
theorem identities_unique (hl : Life m calls h) :
    (issuedBy m calls).Nodup ∧
    ((issuedBy m calls).length < UInt64.size →
      ∀ id ∈ issuedBy m calls, (UInt64.ofNat id).toNat = id) ∧
    Call.Chained m (some .new) calls (h.manager? m) ∧
    (∃ now, h.manager? m = some now ∧ now.Orderly (issuedBy m calls)) ∧
    ∀ past c later, calls = past ++ c :: later → ∃ a b,
      c.before.manager? m = some a ∧ a.Orderly (issuedBy m past) ∧
      c.after.manager? m = some b ∧ b.Orderly (issuedBy m (past ++ [c])) ∧
      (c.manager ≠ m → b = a) ∧ (c.manager = m → c.Exact a b) := by
  have hrun := hl.chained.ledgers .new
  simp only [List.nil_append] at hrun
  obtain ⟨⟨now, hnow, hledger⟩, hmoments⟩ := hrun
  refine ⟨hledger.nodup, fun hfew id hid => ?_, hl.chained, ⟨now, hnow, hledger.orderly⟩, ?_⟩
  · have hlt := hledger.id_lt_next hid
    rw [hledger.next_eq] at hlt
    exact UInt64.toNat_ofNat_of_lt (by omega)
  · intro past c later heq
    obtain ⟨a, hm, ha⟩ := hmoments past c later heq
    obtain ⟨b, hb, hledger', hother, hown⟩ := ha.call hm
    rw [issuedBy_concat]
    exact ⟨a, b, hm, ha.orderly, hb, hledger'.orderly, hother, hown⟩

section Reentrant

def reentrant : Listener := ⟨"first", true, [], fun e =>
  if e.version = "v1" then
    .remove 0 1 (fun _ => .register 0 2 (fun _ => .fire 0 (.contextReplaced "v2" default) (fun _ =>
      .removeNamed 0 "twin" (fun n => .note (toString n) (.finish .done)))))
  else .finish .done⟩

def reentrantHub : Hub :=
  { Hub.empty with
    listeners := [reentrant, ⟨"twin", true, [], fun _ => .finish .done⟩,
      ⟨"late", true, [], fun _ => .register 0 1 (fun _ => .finish .done)⟩]
    managers := [some .new] }

def reentrantTask : Task :=
  .register 0 0 (fun _ => .register 0 1 (fun _ => .register 0 1 (fun _ =>
    .fire 0 (.contextReplaced "v1" default) (fun _ => .clear 0 (.register 0 0 (fun _ =>
      .finish .done))))))

def reentrantCalls : List Call :=
  reentrantTask.calls (Hub.fireWithin 2) (Hub.callsWithin 2) reentrantHub

def reentrantEnd : Hub := (Hub.runTask (Hub.fireWithin 2) reentrantTask reentrantHub).2

theorem identities_unique_reentrant :
    Life 0 reentrantCalls reentrantEnd ∧ issuedBy 0 reentrantCalls = [1, 2, 3, 4, 5, 6] ∧
      (issuedBy 0 reentrantCalls).Nodup ∧
      (∀ id ∈ issuedBy 0 reentrantCalls, (UInt64.ofNat id).toNat = id) ∧
      reentrantEnd.manager? 0 = some ⟨7, [⟨6, 0⟩]⟩ ∧ reentrantEnd.notes = ["3"] ∧
      ∃ c, reentrantCalls[6]? = some c ∧ c.request = .removeNamed "twin" ∧
        c.Exact ⟨6, [⟨2, 1⟩, ⟨3, 1⟩, ⟨4, 2⟩, ⟨5, 1⟩]⟩ ⟨6, [⟨4, 2⟩]⟩ := by
  have hl : Life 0 reentrantCalls reentrantEnd := .run (.born rfl) 2 reentrantTask
  obtain ⟨hnodup, hwords, -, -, hmoments⟩ := identities_unique hl
  have hissued : issuedBy 0 reentrantCalls = [1, 2, 3, 4, 5, 6] := rfl
  obtain ⟨c, hc⟩ : ∃ c, reentrantCalls[6]? = some c := ⟨_, rfl⟩
  obtain ⟨a, b, ha, -, hb, -, -, hexact⟩ := hmoments _ _ _ (eq_take_cons_drop hc)
  have hbefore : reentrantCalls[6]?.map (·.before.manager? 0) =
      some (some ⟨6, [⟨2, 1⟩, ⟨3, 1⟩, ⟨4, 2⟩, ⟨5, 1⟩]⟩) := rfl
  have hafter : reentrantCalls[6]?.map (·.after.manager? 0) = some (some ⟨6, [⟨4, 2⟩]⟩) := rfl
  have hrequest : reentrantCalls[6]?.map (fun c => (c.manager, c.request)) =
      some (0, .removeNamed "twin") := rfl
  rw [hc] at hbefore hafter hrequest
  simp only [Option.map_some, Option.some.injEq, Prod.mk.injEq] at hbefore hafter hrequest
  obtain rfl := Option.some.inj (ha.symm.trans hbefore)
  obtain rfl := Option.some.inj (hb.symm.trans hafter)
  exact ⟨hl, hissued, hnodup, hwords (by rw [hissued]; decide), rfl, rfl, c, hc, hrequest.2,
    hexact hrequest.1⟩

end Reentrant

end Life

end LayeredConfig
