import LayeredConfig.Conversion.Registry
import LayeredConfig.Proofs.Places
import Mathlib.Data.List.Nodup
import Mathlib.Logic.Function.Basic

/-!
What registries hold. Whatever is registered, merged, removed and copied, in any order, each copy
holds for each type the list that these words say, although it keeps the lists with their types
hidden, their lengths beside them and with each a function that joins it to another one. What was
discovered before makes no difference to a conversion.
-/

namespace LayeredConfig

namespace RegistryOf

open Convertible

variable {T : Type} [DecidableEq T]

section Entries

variable {α : Type} {t u : T} {a : α} {l : List (T × α)}

theorem find?_put (t : T) (a : α) (l : List (T × α)) (u : T) :
    find? u (put t a l) = if t = u then some a else find? u l := by
  induction l with
  | nil => rfl
  | cons e rest ih =>
    obtain ⟨v, b⟩ := e
    rw [put]
    split
    · next hv =>
      subst hv
      simp only [find?]
      split <;> rfl
    · next hv =>
      simp only [find?, ih]
      by_cases htu : t = u
      · subst htu
        rw [if_neg hv, if_pos rfl, if_pos rfl]
      · rw [if_neg htu, if_neg htu]

theorem find?_drop (t : T) (l : List (T × α)) (u : T) :
    find? u (drop t l) = if t = u then none else find? u l := by
  induction l with
  | nil => simp [drop, find?]
  | cons e rest ih =>
    obtain ⟨v, b⟩ := e
    rw [drop] at ih ⊢
    by_cases hv : v = t
    · subst hv
      rw [List.filter_cons_of_neg (by simp), ih, find?]
      by_cases hu : v = u <;> simp [hu]
    · rw [List.filter_cons_of_pos (by simpa using hv), find?, find?, ih]
      by_cases hu : v = u
      · subst hu
        rw [if_pos rfl, if_pos rfl, if_neg (Ne.symm hv)]
      · rw [if_neg hu, if_neg hu]

theorem find?_isSome_iff : (find? t l).isSome ↔ t ∈ l.map (·.1) := by
  induction l with
  | nil => simp [find?]
  | cons e rest ih =>
    rw [find?]
    by_cases h : e.1 = t
    · simp [h]
    · rw [if_neg h, ih, List.map_cons, List.mem_cons, or_iff_right (Ne.symm h)]

theorem find?_eq_some_iff (hl : (l.map (·.1)).Nodup) : find? t l = some a ↔ (t, a) ∈ l := by
  induction l with
  | nil => simp [find?]
  | cons e rest ih =>
    obtain ⟨v, b⟩ := e
    obtain ⟨hv, hrest⟩ := List.nodup_cons.mp hl
    rw [find?, List.mem_cons]
    by_cases h : v = t
    · subst h
      have hnot : (v, a) ∉ rest := fun hmem => hv (List.mem_map.mpr ⟨_, hmem, rfl⟩)
      rw [if_pos rfl, or_iff_left hnot]
      simp [eq_comm]
    · rw [if_neg h, ih hrest]
      simp [Ne.symm h]

theorem map_fst_put (t : T) (a : α) (l : List (T × α)) :
    (put t a l).map (·.1) = if t ∈ l.map (·.1) then l.map (·.1) else l.map (·.1) ++ [t] := by
  induction l with
  | nil => rfl
  | cons e rest ih =>
    obtain ⟨v, b⟩ := e
    rw [put]
    by_cases h : v = t
    · subst h
      simp
    · rw [if_neg h, List.map_cons, ih]
      by_cases hmem : t ∈ rest.map (·.1)
      · simp [hmem]
      · simp [hmem, Ne.symm h]

theorem nodup_put (t : T) (a : α) (hl : (l.map (·.1)).Nodup) : ((put t a l).map (·.1)).Nodup := by
  rw [map_fst_put]
  split
  · exact hl
  · next h => exact List.Nodup.append hl (List.nodup_singleton t) (List.disjoint_singleton.mpr h)

theorem nodup_drop (t : T) (hl : (l.map (·.1)).Nodup) : ((drop t l).map (·.1)).Nodup :=
  hl.sublist (List.filter_sublist.map _)

end Entries

theorem downcast_mk {F : T → Type} (t : T) (value : F t) : downcast t ⟨t, value⟩ = some value := by
  simp [downcast]

variable [Convertible T]

abbrev Lists (T : Type) [Convertible T] := (t : T) → List (Converter t)

namespace Lists

def empty : Lists T := fun _ => []

def append (lists : Lists T) (t : T) (more : List (Converter t)) : Lists T :=
  Function.update lists t (lists t ++ more)

def concat (lists others : Lists T) : Lists T := fun t => lists t ++ others t

def clear (lists : Lists T) (t : T) : Lists T := Function.update lists t []

def withDefaults (lists : Lists T) : Lists T :=
  (defaults (T := T)).foldl (fun lists e => lists.append e.1 [e.2]) lists

end Lists

def entryOf (t : T) (list : List (Converter t)) : ConverterEntry T :=
  ⟨typeName t, ⟨t, list⟩, list.length, appendLists t⟩

structure Holds (entries : List (T × ConverterEntry T)) (lists : Lists T) : Prop where
  nodup : (entries.map (·.1)).Nodup
  entry : ∀ t, find? t entries = if lists t = [] then none else some (entryOf t (lists t))

theorem append_entryOf (t : T) (list more : List (Converter t)) :
    (entryOf t list).append (entryOf t list).converters (entryOf t more).converters =
      (⟨t, list ++ more⟩, (list ++ more).length) := by
  simp only [entryOf, appendLists, downcast_mk, Option.getD_some]

section Holds

variable {entries : List (T × ConverterEntry T)} {lists : Lists T} {r : RegistryOf T}

theorem Holds.empty : Holds (T := T) [] .empty := ⟨List.nodup_nil, fun _ => rfl⟩

theorem Holds.put_append (h : Holds entries lists) {t : T} {more : List (Converter t)}
    (hmore : more ≠ []) :
    Holds (put t (entryOf t (lists t ++ more)) entries) (lists.append t more) := by
  refine ⟨nodup_put t _ h.nodup, fun u => ?_⟩
  rw [find?_put]
  by_cases hu : t = u
  · subst hu
    simp [Lists.append, hmore]
  · rw [if_neg hu, h.entry u, Lists.append, Function.update_of_ne (Ne.symm hu)]

theorem Holds.getD_record? (h : Holds r.entries lists) (t : T) :
    (r.record? t).getD (entryOf t []) = entryOf t (lists t) := by
  rw [record?, h.entry t]
  split
  · next hlist => rw [hlist, Option.getD_none]
  · rw [Option.getD_some]

theorem Holds.register (h : Holds r.entries lists) (t : T) (c : Converter t) :
    Holds (r.register t c).entries (lists.append t [c]) := by
  have hentry : (r.register t c).entries = put t (entryOf t (lists t ++ [c])) r.entries := by
    have hold := h.getD_record? t
    simp only [entryOf, List.length_nil] at hold
    simp only [RegistryOf.register, hold, downcast_mk, Option.getD_some, entryOf]
  rw [hentry]
  exact h.put_append (List.cons_ne_nil c [])

theorem Holds.registerDefaults (h : Holds r.entries lists) :
    Holds r.registerDefaults.entries lists.withDefaults := by
  rw [RegistryOf.registerDefaults, Lists.withDefaults]
  induction defaults (T := T) generalizing r lists with
  | nil => exact h
  | cons e rest ih => exact ih (h.register e.1 e.2)

theorem Holds.removeAll (h : Holds r.entries lists) (t : T) :
    Holds (r.removeAll t).2.entries (lists.clear t) := by
  refine ⟨nodup_drop t h.nodup, fun u => ?_⟩
  rw [RegistryOf.removeAll, find?_drop]
  by_cases hu : t = u
  · subst hu
    simp [Lists.clear]
  · rw [if_neg hu, h.entry u, Lists.clear, Function.update_of_ne (Ne.symm hu)]

theorem Holds.mergeEntry (h : Holds entries lists) {t : T} {more : List (Converter t)}
    (hmore : more ≠ []) :
    Holds (mergeEntry entries (t, entryOf t more)) (lists.append t more) := by
  have hentry : RegistryOf.mergeEntry entries (t, entryOf t more) =
      put t (entryOf t (lists t ++ more)) entries := by
    rw [RegistryOf.mergeEntry, h.entry t]
    by_cases hlist : lists t = []
    · rw [if_pos hlist, hlist, List.nil_append]
    · rw [if_neg hlist]
      simp only [append_entryOf]
      rfl
  rw [hentry]
  exact h.put_append hmore

theorem Holds.of_mem (h : Holds entries lists) {e : T × ConverterEntry T} (he : e ∈ entries) :
    lists e.1 ≠ [] ∧ e.2 = entryOf e.1 (lists e.1) := by
  have hfind := (find?_eq_some_iff h.nodup).mpr he
  rw [h.entry e.1] at hfind
  split at hfind
  · cases hfind
  · next hlist => exact ⟨hlist, (Option.some.inj hfind).symm⟩

theorem Holds.foldl_mergeEntry {others : Lists T} {l : List (T × ConverterEntry T)}
    (h : Holds entries lists) (hl : (l.map (·.1)).Nodup)
    (hfit : ∀ e ∈ l, others e.1 ≠ [] ∧ e.2 = entryOf e.1 (others e.1)) :
    Holds (l.foldl RegistryOf.mergeEntry entries)
      (fun t => lists t ++ if t ∈ l.map (·.1) then others t else []) := by
  induction l generalizing entries lists with
  | nil => simpa using h
  | cons e rest ih =>
    obtain ⟨t, entry⟩ := e
    obtain ⟨ht, hrest⟩ := List.nodup_cons.mp hl
    obtain ⟨hmore, hentry⟩ := hfit _ List.mem_cons_self
    obtain rfl : entry = entryOf t (others t) := hentry
    have hnext := ih (h.mergeEntry hmore) hrest (fun e he => hfit e (List.mem_cons_of_mem _ he))
    have hlists : (fun u => lists.append t (others t) u ++
          if u ∈ rest.map (·.1) then others u else []) =
        fun u => lists u ++
          if u ∈ ((t, entryOf t (others t)) :: rest).map (·.1) then others u else [] := by
      funext u
      by_cases hu : u = t
      · subst hu
        simp [Lists.append, ht]
      · simp only [Lists.append, Function.update_of_ne hu, List.map_cons, List.mem_cons, hu,
          false_or]
    rwa [hlists] at hnext

theorem Holds.mem_map_fst (h : Holds entries lists) (t : T) :
    t ∈ entries.map (·.1) ↔ lists t ≠ [] := by
  rw [← find?_isSome_iff, h.entry t]
  split
  · next hlist => simp [hlist]
  · next hlist => simp [hlist]

theorem Holds.merge {other : RegistryOf T} {others : Lists T} (h : Holds r.entries lists)
    (ho : Holds other.entries others) :
    Holds (r.merge other).entries (lists.concat others) := by
  have hfold := h.foldl_mergeEntry ho.nodup (fun _ he => ho.of_mem he)
  have hlists : (fun t => lists t ++ if t ∈ other.entries.map (·.1) then others t else []) =
      lists.concat others := by
    funext t
    rw [Lists.concat]
    by_cases ht : others t = []
    · rw [ht, ite_self]
    · rw [if_pos ((ho.mem_map_fst t).mpr ht)]
  rwa [hlists] at hfold

theorem Holds.registered? (h : Holds r.entries lists) (t : T) :
    r.registered? t = if lists t = [] then none else some (lists t) := by
  rw [RegistryOf.registered?, record?, h.entry t]
  split
  · rfl
  · exact downcast_mk (F := fun t => List (Converter t)) t (lists t)

theorem Holds.registered?_of_nil (h : Holds r.entries lists) {t : T} (ht : lists t = []) :
    r.registered? t = none := by
  rw [h.registered? t, if_pos ht]

theorem Holds.registered?_of_ne_nil (h : Holds r.entries lists) {t : T} (ht : lists t ≠ []) :
    r.registered? t = some (lists t) := by
  rw [h.registered? t, if_neg ht]

theorem Holds.registered?_getD (h : Holds r.entries lists) (t : T) :
    (r.registered? t).getD [] = lists t := by
  by_cases ht : lists t = []
  · rw [h.registered?_of_nil ht, ht, Option.getD_none]
  · rw [h.registered?_of_ne_nil ht, Option.getD_some]

theorem Holds.count (h : Holds r.entries lists) (t : T) : r.count t = (lists t).length := by
  rw [RegistryOf.count, record?, h.entry t]
  split
  · next hlist => rw [hlist]; rfl
  · rfl

theorem Holds.typeNames (h : Holds r.entries lists) : ∃ types : List T, types.Nodup ∧
    (∀ t, t ∈ types ↔ lists t ≠ []) ∧
    r.typeNames = (types.map typeName).mergeSort (fun a b => a ≤ b) := by
  refine ⟨r.entries.map (·.1), h.nodup, h.mem_map_fst, ?_⟩
  have hnames : r.entries.map (·.2.typeName) = (r.entries.map (·.1)).map typeName := by
    rw [List.map_map, List.map_inj_left]
    intro e he
    rw [(h.of_mem he).2]
    rfl
  rw [RegistryOf.typeNames, hnames]

theorem Holds.convert (h : Holds r.entries lists) (t : T) (key raw : String) :
    r.convert t key raw = tryAll t (lists t) key raw := by
  rw [RegistryOf.convert, h.registered?_getD t]

end Holds

def Answers (t : T) (list : List (Converter t)) (key raw : String)
    (result : Except ConfigError (Carrier t)) : Prop :=
  (∀ v, result = .ok v ↔ ∃ before c after, list = before ++ c :: after ∧ c raw = some v ∧
    ∀ b ∈ before, b raw = none) ∧
  ∀ e, result = .error e ↔
    (∀ c ∈ list, c raw = none) ∧ e = .conversionFailed key raw (typeName t)

omit [DecidableEq T] in
theorem tryAll_answers (t : T) (list : List (Converter t)) (key raw : String) :
    Answers t list key raw (tryAll t list key raw) := by
  refine ⟨fun v => Iff.trans ?_ List.findSome?_eq_some_iff, fun e => ?_⟩
  · rw [tryAll]
    cases list.findSome? (fun c => c raw) <;> simp
  · rw [tryAll, ← List.findSome?_eq_none_iff]
    cases list.findSome? (fun c => c raw) <;> simp [eq_comm]

omit [DecidableEq T] in
theorem tryAll_twice (t : T) (list : List (Converter t)) (key raw : String) :
    tryAll t (list ++ list) key raw = tryAll t list key raw := by
  rw [tryAll, tryAll, List.findSome?_append, Option.or_self]

section Discoveries

variable {d : Discoveries T} {r : RegistryOf T} {lists : Lists T}

def Discoveries.Sound (d : Discoveries T) : Prop :=
  ∀ cache ∈ d, ∀ t found, find? t cache = some found → ∃ c, written? t = some c ∧ found = ⟨t, c⟩

theorem Discoveries.Sound.get (hd : d.Sound) {i : Nat} {t : T} {found : (t : T) × Converter t}
    (hfind : find? t (d.get i) = some found) : ∃ c, written? t = some c ∧ found = ⟨t, c⟩ := by
  rw [Discoveries.get, List.getD_eq_getElem?_getD] at hfind
  cases hcache : d[i]? with
  | none =>
    rw [hcache] at hfind
    cases hfind
  | some cache =>
    rw [hcache] at hfind
    exact hd cache (List.mem_of_getElem? hcache) t found hfind

theorem Discoveries.Sound.converter (hd : d.Sound) (i : Nat) {t : T} {c : Converter t}
    (hc : written? t = some c) : (d.converter i t c).1 = c ∧ (d.converter i t c).2.Sound := by
  rw [Discoveries.converter]
  cases hfind : find? t (d.get i) with
  | some found =>
    obtain ⟨c', hc', rfl⟩ := hd.get hfind
    obtain rfl : c = c' := Option.some.inj (hc.symm.trans hc')
    simp only [downcast_mk]
    exact ⟨rfl, hd⟩
  | none =>
    refine ⟨rfl, fun cache hcache u found hfound => ?_⟩
    -- Only one cache is changed, and in it only what stands there for the type.
    obtain ⟨j, hj⟩ := List.mem_iff_getElem?.mp hcache
    rw [List.getElem?_modify] at hj
    obtain ⟨old, hold, rfl⟩ := Option.map_eq_some_iff.mp hj
    have hsound := hd old (List.mem_of_getElem? hold) u found
    split at hfound
    · rw [find?_put] at hfound
      split at hfound
      · next hu =>
        subst hu
        exact ⟨c, hc, (Option.some.inj hfound).symm⟩
      · exact hsound hfound
    · exact hsound hfound

theorem Discoveries.Sound.convertDiscovering (hd : d.Sound) (r : RegistryOf T) (t : T)
    (key raw : String) : (r.convertDiscovering d t key raw).2.Sound := by
  rw [RegistryOf.convertDiscovering]
  split
  · exact hd
  · next c _ hc => exact (hd.converter r.discoveries hc).2
  · exact hd

theorem Holds.convertDiscovering (h : Holds r.entries lists) {t : T} (ht : lists t ≠ [])
    (d : Discoveries T) (key raw : String) :
    (r.convertDiscovering d t key raw).1 = r.convert t key raw := by
  rw [RegistryOf.convertDiscovering, RegistryOf.convert, h.registered?_of_ne_nil ht]
  rfl

theorem Holds.convertDiscovering_written (h : Holds r.entries lists) (hd : d.Sound) {t : T}
    (ht : lists t = []) {c : Converter t} (hc : written? t = some c) (key raw : String) :
    (r.convertDiscovering d t key raw).1 = tryAll t [c] key raw := by
  rw [RegistryOf.convertDiscovering, h.registered?_of_nil ht, hc]
  simp only [(hd.converter r.discoveries hc).1]

theorem Holds.convert_merge_self (h : Holds r.entries lists) (t : T) (key raw : String) :
    (r.merge r).convert t key raw = r.convert t key raw := by
  rw [(h.merge h).convert, h.convert]
  exact tryAll_twice t (lists t) key raw

theorem Holds.convertDiscovering_merge_self (h : Holds r.entries lists) (d : Discoveries T) (t : T)
    (key raw : String) :
    ((r.merge r).convertDiscovering d t key raw).1 = (r.convertDiscovering d t key raw).1 := by
  have hmerged := h.merge h
  by_cases ht : lists t = []
  · have htwice : lists.concat lists t = [] := by rw [Lists.concat, ht, List.nil_append]
    rw [RegistryOf.convertDiscovering, RegistryOf.convertDiscovering, h.registered?_of_nil ht,
      hmerged.registered?_of_nil htwice]
    rfl
  · have htwice : lists.concat lists t ≠ [] := by simpa [Lists.concat] using ht
    rw [hmerged.convertDiscovering htwice, h.convertDiscovering ht, h.convert_merge_self]

theorem Discoveries.sound_nil : Discoveries.Sound ([] : Discoveries T) :=
  fun _ hcache => absurd hcache List.not_mem_nil

theorem Discoveries.Sound.create (hd : d.Sound) : Discoveries.Sound (d ++ [[]]) := by
  intro cache hcache t found hfind
  rcases List.mem_append.mp hcache with hold | hnew
  · exact hd cache hold t found hfind
  · rw [List.mem_singleton.mp hnew] at hfind
    cases hfind

end Discoveries

structure Copies (T : Type) [DecidableEq T] [Convertible T] where
  registries : List (RegistryOf T)
  caches : Discoveries T

inductive Act (T : Type) [Convertible T] where
  | create
  | copy (i : Nat)
  | register (i : Nat) (t : T) (c : Converter t)
  | merge (i j : Nat)
  | removeAll (i : Nat) (t : T)
  | registerDefaults (i : Nat)
  | discover (i : Nat) (t : T) (key raw : String)

def Act.changed? : Act T → Option Nat
  | .register i _ _ => some i
  | .merge i _ => some i
  | .removeAll i _ => some i
  | .registerDefaults i => some i
  | _ => none

def Act.lists (all : List (Lists T)) : Act T → List (Lists T)
  | .create => all ++ [.empty]
  | .copy i => all ++ (all[i]?).toList
  | .register i t c => all.modify i (·.append t [c])
  | .merge i j =>
    match all[j]? with
    | some others => all.modify i (·.concat others)
    | none => all
  | .removeAll i t => all.modify i (·.clear t)
  | .registerDefaults i => all.modify i (·.withDefaults)
  | .discover _ _ _ _ => all

namespace Copies

def start : Copies T := ⟨[empty 0], [[]]⟩

def change (s : Copies T) (i : Nat) (f : RegistryOf T → RegistryOf T) : Copies T :=
  { s with registries := s.registries.modify i f }

def step (s : Copies T) : Act T → Copies T
  | .create => ⟨s.registries ++ [empty s.caches.length], s.caches ++ [[]]⟩
  | .copy i => { s with registries := s.registries ++ (s.registries[i]?).toList }
  | .register i t c => s.change i (·.register t c)
  | .merge i j =>
    match s.registries[j]? with
    | some other => s.change i (·.merge other)
    | none => s
  | .removeAll i t => s.change i (fun r => (r.removeAll t).2)
  | .registerDefaults i => s.change i registerDefaults
  | .discover i t key raw =>
    match s.registries[i]? with
    | some r => { s with caches := (r.convertDiscovering s.caches t key raw).2 }
    | none => s

def run (s : Copies T) (acts : List (Act T)) : Copies T := acts.foldl step s

structure Keeps (s : Copies T) (all : List (Lists T)) : Prop where
  lists : List.Forall₂ (fun r lists => Holds r.entries lists) s.registries all
  caches : s.caches.Sound

variable {s : Copies T} {all : List (Lists T)}

theorem Keeps.start : (start : Copies T).Keeps [.empty] :=
  ⟨.cons .empty .nil, Discoveries.sound_nil.create⟩

theorem Keeps.change (h : s.Keeps all) (i : Nat) {f : RegistryOf T → RegistryOf T}
    {g : Lists T → Lists T}
    (hfg : ∀ r lists, Holds r.entries lists → Holds (f r).entries (g lists)) :
    (s.change i f).Keeps (all.modify i g) :=
  ⟨forall₂_modify h.lists i hfg, h.caches⟩

theorem Keeps.step (h : s.Keeps all) (act : Act T) : (s.step act).Keeps (act.lists all) := by
  cases act with
  | create => exact ⟨List.rel_append h.lists (.cons .empty .nil), h.caches.create⟩
  | copy i =>
    refine ⟨List.rel_append h.lists ?_, h.caches⟩
    cases hi : s.registries[i]? with
    | none =>
      have hall : all[i]? = none := by simpa [h.lists.length_eq] using hi
      rw [hall]
      exact .nil
    | some r =>
      obtain ⟨lists, hall, hr⟩ := exists_getElem?_of_forall₂ h.lists hi
      rw [hall]
      exact .cons hr .nil
  | register i t c => exact h.change i (fun _ _ hr => hr.register t c)
  | merge i j =>
    simp only [Copies.step, Act.lists]
    cases hj : s.registries[j]? with
    | none =>
      have hall : all[j]? = none := by simpa [h.lists.length_eq] using hj
      rw [hall]
      exact h
    | some other =>
      obtain ⟨others, hall, ho⟩ := exists_getElem?_of_forall₂ h.lists hj
      rw [hall]
      exact h.change i (fun _ _ hr => hr.merge ho)
  | removeAll i t => exact h.change i (fun _ _ hr => hr.removeAll t)
  | registerDefaults i => exact h.change i (fun _ _ hr => hr.registerDefaults)
  | discover i t key raw =>
    simp only [Copies.step, Act.lists]
    cases s.registries[i]? with
    | none => exact h
    | some r => exact ⟨h.lists, h.caches.convertDiscovering r t key raw⟩

theorem Keeps.run (h : s.Keeps all) (acts : List (Act T)) :
    (s.run acts).Keeps (acts.foldl Act.lists all) := by
  induction acts generalizing s all with
  | nil => exact h
  | cons act rest ih => exact ih (h.step act)

theorem change_getElem? (s : Copies T) {i j : Nat} (hij : i ≠ j) (f : RegistryOf T → RegistryOf T) :
    (s.change i f).registries[j]? = s.registries[j]? :=
  List.getElem?_modify_ne f s.registries hij

theorem step_getElem? (s : Copies T) {act : Act T} {j : Nat} (hj : act.changed? ≠ some j)
    {r : RegistryOf T} (hr : s.registries[j]? = some r) : (s.step act).registries[j]? = some r := by
  obtain ⟨hlt, -⟩ := List.getElem?_eq_some_iff.mp hr
  have hne : ∀ i, act.changed? = some i → i ≠ j := fun i hi hij => hj (hij ▸ hi)
  cases act with
  | create => exact (List.getElem?_append_left hlt).trans hr
  | copy i => exact (List.getElem?_append_left hlt).trans hr
  | register i t c => exact (change_getElem? s (hne i rfl) _).trans hr
  | merge i k =>
    rw [step]
    cases s.registries[k]? with
    | none => exact hr
    | some other => exact (change_getElem? s (hne i rfl) _).trans hr
  | removeAll i t => exact (change_getElem? s (hne i rfl) _).trans hr
  | registerDefaults i => exact (change_getElem? s (hne i rfl) _).trans hr
  | discover i t key raw =>
    rw [step]
    cases s.registries[i]? with
    | none => exact hr
    | some r' => exact hr

theorem run_getElem? (s : Copies T) {acts : List (Act T)} {j : Nat}
    (hj : ∀ act ∈ acts, act.changed? ≠ some j) {r : RegistryOf T}
    (hr : s.registries[j]? = some r) : (s.run acts).registries[j]? = some r := by
  induction acts generalizing s with
  | nil => exact hr
  | cons act rest ih =>
    obtain ⟨hact, hrest⟩ := List.forall_mem_cons.mp hj
    exact ih (s.step act) hrest (s.step_getElem? hact hr)

/-- Whatever was done to registries, each holds the lists that it should, and converts with them.
What is done to other registries later leaves it as it is. -/
theorem run_holds_lists (acts : List (Act T)) {i : Nat} {lists : Lists T}
    (hlists : (acts.foldl Act.lists [.empty])[i]? = some lists) :
    ∃ r, (start.run acts).registries[i]? = some r ∧
      (∀ t, (r.registered? t).getD [] = lists t ∧ r.count t = (lists t).length ∧
        (r.removeAll t).1 = (lists t).length) ∧
      (∃ types : List T, types.Nodup ∧ (∀ t, t ∈ types ↔ lists t ≠ []) ∧
        r.typeNames = (types.map typeName).mergeSort (fun a b => a ≤ b)) ∧
      (∀ t key raw,
        let d := (start.run acts).caches
        Answers t (lists t) key raw (r.convert t key raw) ∧
        (lists t ≠ [] → Answers t (lists t) key raw (r.convertDiscovering d t key raw).1) ∧
        (∀ c, lists t = [] → written? t = some c →
          Answers t [c] key raw (r.convertDiscovering d t key raw).1) ∧
        (r.merge r).convert t key raw = r.convert t key raw ∧
        ((r.merge r).convertDiscovering d t key raw).1 = (r.convertDiscovering d t key raw).1) ∧
      ∀ later : List (Act T), (∀ act ∈ later, act.changed? ≠ some i) →
        ((start.run acts).run later).registries[i]? = some r := by
  have hkeeps := Keeps.start.run acts
  obtain ⟨r, hr, h⟩ := exists_getElem?_of_forall₂ hkeeps.lists.flip hlists
  refine ⟨r, hr, fun t => ⟨h.registered?_getD t, h.count t, h.count t⟩, h.typeNames,
    fun t key raw => ⟨?_, fun ht => ?_, fun c ht hc => ?_, ?_, ?_⟩,
    fun later hlater => run_getElem? _ hlater hr⟩
  · rw [h.convert]
    exact tryAll_answers ..
  · rw [h.convertDiscovering ht, h.convert]
    exact tryAll_answers ..
  · rw [h.convertDiscovering_written hkeeps.caches ht hc]
    exact tryAll_answers ..
  · exact h.convert_merge_self t key raw
  · exact h.convertDiscovering_merge_self _ t key raw

theorem run_holds_lists_merged :
    let yes : Converter Target.boolean := fun raw => if raw = "yes" then some true else none
    let no : Converter Target.boolean := fun raw => if raw = "no" then some false else none
    let acts : List (Act Target) := [.register 0 .boolean yes, .discover 0 .character "k" "c",
      .copy 0, .register 1 .boolean no, .merge 1 0, .merge 1 1, .removeAll 0 .boolean]
    ∃ emptied merged : Registry, (start.run acts).registries[0]? = some emptied ∧
      (start.run acts).registries[1]? = some merged ∧
      (merged.registered? .boolean).getD [] = [yes, no, yes, yes, no, yes] ∧
      merged.count .boolean = 6 ∧ merged.convert .boolean "k" "no" = .ok false ∧
      emptied.count .boolean = 0 ∧
      emptied.convert .boolean "k" "no" = .error (.conversionFailed "k" "no" "bool") ∧
      (emptied.convertDiscovering (start.run acts).caches .boolean "k" "false").1 = .ok false := by
  intro yes no acts
  obtain ⟨lists, hlists⟩ : ∃ l, (acts.foldl Act.lists [.empty])[0]? = some l := ⟨_, rfl⟩
  obtain ⟨lists', hlists'⟩ : ∃ l, (acts.foldl Act.lists [.empty])[1]? = some l := ⟨_, rfl⟩
  obtain ⟨emptied, hemptied, hheld, -, hconvert, -⟩ := run_holds_lists acts hlists
  obtain ⟨merged, hmerged, hheld', -, hconvert', -⟩ := run_holds_lists acts hlists'
  have hnone : ((acts.foldl Act.lists [.empty])[0]?).map (· .boolean) = some [] := rfl
  have hsix : ((acts.foldl Act.lists [.empty])[1]?).map (· .boolean) =
      some [yes, no, yes, yes, no, yes] := rfl
  rw [hlists] at hnone
  rw [hlists'] at hsix
  have hempty : lists .boolean = [] := Option.some.inj hnone
  have hlist : lists' .boolean = [yes, no, yes, yes, no, yes] := Option.some.inj hsix
  obtain ⟨-, hzero, -⟩ := hheld .boolean
  obtain ⟨hregistered, hcount, -⟩ := hheld' .boolean
  obtain ⟨⟨-, hfails⟩, -, -⟩ := hconvert .boolean "k" "no"
  obtain ⟨-, -, hwritten, -⟩ := hconvert .boolean "k" "false"
  obtain ⟨⟨hsucceeds, -⟩, -⟩ := hconvert' .boolean "k" "no"
  refine ⟨emptied, merged, hemptied, hmerged, hregistered.trans hlist, ?_, ?_, ?_, ?_, ?_⟩
  · rw [hcount, hlist]
    rfl
  · exact (hsucceeds false).mpr ⟨[yes], no, [yes, yes, no, yes], hlist, rfl, by simp [yes]⟩
  · rw [hzero, hempty]
    rfl
  · refine (hfails _).mpr ⟨?_, rfl⟩
    simp [hempty]
  · exact ((hwritten _ hempty rfl).1 false).mpr
      ⟨[], Conversion.plainBoolean, [], rfl, rfl, by simp⟩

end Copies

end RegistryOf

end LayeredConfig
