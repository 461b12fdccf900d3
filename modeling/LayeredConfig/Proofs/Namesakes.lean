import LayeredConfig.Proofs.Rebuilding

namespace LayeredConfig

def namesakes (sources : List Source) (name : String) : List Source :=
  sources.filter (fun s => s.name = name)

section Namesakes

variable {front rest : List Source} {s : Source} {name : String}

theorem namesakes_eq_nil_iff : namesakes front name = [] ↔ ∀ t ∈ front, t.name ≠ name := by
  simp [namesakes]

theorem namesakes_append (front rest : List Source) (name : String) :
    namesakes (front ++ rest) name = namesakes front name ++ namesakes rest name :=
  List.filter_append ..

theorem namesakes_cons_of_eq (h : s.name = name) :
    namesakes (s :: rest) name = s :: namesakes rest name :=
  List.filter_cons_of_pos (decide_eq_true h)

theorem namesakes_cons_of_ne (h : s.name ≠ name) :
    namesakes (s :: rest) name = namesakes rest name :=
  List.filter_cons_of_neg (by simpa using h)

end Namesakes

theorem Context.source?_eq_getLast? (c : Context) (name : String) :
    c.source? name = (namesakes c.sources name).getLast? :=
  List.getLast?_filter.symm

namespace Builder

variable {b : Builder} {r : Source} {name : String}

theorem replaceSource_absent (h : namesakes b.sources name = []) :
    b.replaceSource name r = b.addSource r := by
  have hidx : b.sources.findIdx? (fun t => t.name = name) = none := by
    simpa using namesakes_eq_nil_iff.mp h
  rw [replaceSource, hidx]

theorem replaceSource_present {front rest : List Source} {s : Source}
    (hsources : b.sources = front ++ s :: rest) (hfront : namesakes front name = [])
    (hs : s.name = name) :
    b.replaceSource name r = { b with sources := front ++ r :: rest } := by
  have hbefore : front.findIdx? (fun t => t.name = name) = none := by
    simpa using namesakes_eq_nil_iff.mp hfront
  have hidx : b.sources.findIdx? (fun t => t.name = name) = some front.length := by
    simp [hsources, List.findIdx?_append, List.findIdx?_cons, hbefore, hs]
  have hset : b.sources.set front.length r = front ++ r :: rest := by
    simp [hsources, List.set_append_right]
  simp only [replaceSource, hidx, hset]

theorem exists_first (h : namesakes b.sources name ≠ []) :
    ∃ front s rest, b.sources = front ++ s :: rest ∧ namesakes front name = [] ∧ s.name = name := by
  obtain ⟨s, hfind⟩ : ∃ s, b.sources.find? (fun t => t.name = name) = some s := by
    rw [← Option.isSome_iff_exists, List.find?_isSome]
    simpa [namesakes] using h
  obtain ⟨hs, front, rest, hsources, hfront⟩ := List.find?_eq_some_iff_append.mp hfind
  exact ⟨front, s, rest, hsources, namesakes_eq_nil_iff.mpr (by simpa using hfront),
    of_decide_eq_true hs⟩

/-- A replacement takes the place of the first source of its name and leaves the others where they
are; the source that is found by the name is the replacement, unless there are others of the name:
then it is the last of them, the one that was found before. -/
theorem replaceSource_exact {c : Context} (hname : r.name = name)
    (hc : (b.replaceSource name r).build = .ok c) :
    c.source? name = (if (namesakes b.sources name).length ≤ 1 then some r
      else (namesakes b.sources name).getLast?) ∧
    (∀ other, other ≠ name → c.source? other = (namesakes b.sources other).getLast?) ∧
    (namesakes b.sources name = [] → c.sources = b.sources ++ [r]) ∧
    (namesakes b.sources name ≠ [] → ∃ front s rest, b.sources = front ++ s :: rest ∧
      c.sources = front ++ r :: rest ∧ s.name = name ∧ ∀ t ∈ front, t.name ≠ name) ∧
    c.filters = b.filters ∧ c.registry = b.registry := by
  rw [c.source?_eq_getLast?]
  simp only [Context.source?_eq_getLast?]
  by_cases hnone : namesakes b.sources name = []
  · rw [replaceSource_absent hnone] at hc
    obtain ⟨-, rfl⟩ := build_eq_ok_iff.mp hc
    refine ⟨?_, fun other hother => ?_, fun _ => rfl, fun h => absurd hnone h, rfl, rfl⟩
    · rw [if_pos (by simp [hnone]), addSource, namesakes_append, hnone, namesakes_cons_of_eq hname]
      rfl
    · have hr : r.name ≠ other := hname ▸ Ne.symm hother
      rw [addSource, namesakes_append, namesakes_cons_of_ne hr]
      exact congrArg List.getLast? (List.append_nil _)
  · obtain ⟨front, s, rest, hsources, hfront, hs⟩ := exists_first hnone
    rw [replaceSource_present hsources hfront hs] at hc
    obtain ⟨-, rfl⟩ := build_eq_ok_iff.mp hc
    refine ⟨?_, fun other hother => ?_, fun h => absurd h hnone,
      fun _ => ⟨front, s, rest, hsources, rfl, hs, namesakes_eq_nil_iff.mp hfront⟩, rfl, rfl⟩
    · rw [hsources, namesakes_append, namesakes_append, hfront, namesakes_cons_of_eq hname,
        namesakes_cons_of_eq hs]
      cases hrest : namesakes rest name with
      | nil => rfl
      | cons t others => simp
    · have hr : r.name ≠ other := hname ▸ Ne.symm hother
      have hs' : s.name ≠ other := hs ▸ Ne.symm hother
      rw [hsources, namesakes_append, namesakes_append, namesakes_cons_of_ne hr,
        namesakes_cons_of_ne hs']

theorem replaceSource_exact_shadowed :
    let low := Source.fixed 0 "dup" 1 true .empty .empty
    let other := Source.fixed 1 "other" 5 true .empty .empty
    let high := Source.fixed 2 "dup" 2 true .empty .empty
    let r := Source.fixed 3 "dup" 9 true .empty .empty
    let b : Builder := ⟨[low, other, high], [], .empty 0⟩
    ∃ c, (b.replaceSource "dup" r).build = .ok c ∧ c.source? "dup" = some high ∧
      c.source? "other" = some other ∧
      ∃ front s rest, b.sources = front ++ s :: rest ∧ c.sources = front ++ r :: rest := by
  intro low other high r b
  have hnamed : ∀ s ∈ [r, other, high], ¬s.Unnamed := by
    simp only [List.forall_mem_cons]
    exact ⟨by decide, by decide, by decide, by simp⟩
  have hc : (b.replaceSource "dup" r).build = .ok ⟨[r, other, high], [], .empty 0⟩ :=
    build_ok hnamed
  have hname : r.name = "dup" := rfl
  obtain ⟨hfound, hothers, -, hplaces, -⟩ := replaceSource_exact hname hc
  obtain ⟨front, s, rest, hsources, hreplaced, -⟩ := hplaces (List.cons_ne_nil _ _)
  exact ⟨_, hc, hfound, hothers "other" (by decide), front, s, rest, hsources, hreplaced⟩

theorem replaceSource_hidden :
    ∃ (b : Builder) (r : Source) (c : Context), r.name = "dup" ∧
      (b.replaceSource "dup" r).build = .ok c ∧ c.source? "dup" ≠ some r := by
  let low := Source.fixed 0 "dup" 1 true .empty .empty
  let high := Source.fixed 1 "dup" 2 true .empty .empty
  let r := Source.fixed 2 "dup" 9 true .empty .empty
  have hnamed : ∀ s ∈ [r, high], ¬s.Unnamed := by
    simp only [List.forall_mem_cons]
    exact ⟨by decide, by decide, by simp⟩
  refine ⟨⟨[low, high], [], .empty 0⟩, r, ⟨[r, high], [], .empty 0⟩, rfl, build_ok hnamed, ?_⟩
  intro h
  have hid : high.id = r.id := congrArg Source.id (Option.some.inj h)
  exact absurd hid (by decide)

end Builder

end LayeredConfig
