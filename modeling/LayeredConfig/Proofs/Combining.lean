import LayeredConfig.Context.Combined
import LayeredConfig.Proofs.Enumeration

namespace LayeredConfig

theorem findSome?_reverse_eq_some_iff {α β : Type} {f : α → Option β} {l : List α} {b : β} :
    l.reverse.findSome? f = some b ↔ ∃ before a after, l = before ++ a :: after ∧ f a = some b ∧
      ∀ x ∈ after, f x = none := by
  rw [List.findSome?_eq_some_iff]
  constructor
  · rintro ⟨after, a, before, hsplit, ha, hafter⟩
    refine ⟨before.reverse, a, after.reverse, ?_, ha, ?_⟩
    · rw [← List.reverse_reverse l, hsplit]
      simp
    · intro x hx
      exact hafter x (List.mem_reverse.mp hx)
  · rintro ⟨before, a, after, hsplit, ha, hafter⟩
    refine ⟨after.reverse, a, before.reverse, ?_, ha, ?_⟩
    · rw [hsplit]
      simp
    · intro x hx
      exact hafter x (List.mem_reverse.mp hx)

def Context.textAt (mo : Moment) (key : String) (c : Context) : Option String :=
  (c.get key).value mo

def Context.listedAt (mo : Moment) (key : String) (c : Context) : Option String :=
  (c.properties.value mo).get? key

theorem Context.textAt_of_listedAt {c : Context} {mo : Moment} {key text : String}
    (hc : c.Steady mo) (ha : ∀ s ∈ c.sources, s.scannable = true → s.Agrees mo)
    (h : c.listedAt mo key = some text) : c.textAt mo key = some text := by
  have hget := properties_get? hc (fun s hs hscan => ha s hs hscan key)
  rw [listedAt, hget] at h
  rw [textAt, (get_gives hc key).value_eq]
  split at h
  · exact h
  · cases h

theorem Context.textAt_single {s : Source} {registry : Registry} {mo : Moment} {key : String}
    (h : s.Steady mo) :
    (Context.mk [s] [] registry).textAt mo key = (s.value? mo key).bind (·.value) :=
  (get_gives_single h registry key).value_eq

theorem Context.listedAt_single {s : Source} {registry : Registry} {mo : Moment} {key : String}
    (h : s.Steady mo) (ha : s.Agrees mo) :
    (Context.mk [s] [] registry).listedAt mo key =
      if s.scannable then (s.value? mo key).bind (·.value) else none :=
  properties_get?_single h ha

namespace Combined

variable {m : Combined} {mo : Moment}

def Last (m : Combined) (answer : Context → Option String) (c : Context) (text : String) : Prop :=
  ∃ before after, m.members = before ++ c :: after ∧ answer c = some text ∧
    ∀ d ∈ after, answer d = none

theorem lastAnswer_eq_some_iff {answer : Context → Option String} {text : String} :
    m.members.reverse.findSome? answer = some text ↔ ∃ c, m.Last answer c text := by
  rw [findSome?_reverse_eq_some_iff]
  constructor
  · rintro ⟨before, c, after, hlast⟩
    exact ⟨c, before, after, hlast⟩
  · rintro ⟨c, before, after, hlast⟩
    exact ⟨before, c, after, hlast⟩

theorem firstOf_gives {members : List Context} {key : String}
    (hread : ∀ c ∈ members, (c.get key).Steady mo) :
    (firstOf key members).Gives mo (members.findSome? (Context.textAt mo key)) := by
  induction members with
  | nil => exact Reading.gives_pure _
  | cons c rest ih =>
    have hrest := ih (fun d hd => hread d (List.mem_cons_of_mem _ hd))
    have hget : (c.get key).Gives mo (c.textAt mo key) := (hread c List.mem_cons_self).gives
    refine hget.bind ?_
    rw [List.findSome?_cons]
    cases c.textAt mo key with
    | none => exact hrest
    | some text => exact Reading.gives_pure _

theorem get_gives (hc : ∀ c ∈ m.members, c.Steady mo) (key : String) :
    (m.get key).Gives mo (m.members.reverse.findSome? (Context.textAt mo key)) :=
  firstOf_gives (fun c h => (Context.get_gives (hc c (List.mem_reverse.mp h)) key).steady)

theorem propertiesFrom_gives {members : List Context} (hc : ∀ c ∈ members, c.Steady mo)
    (result : Table String) :
    ∃ table, (propertiesFrom result members).Gives mo table ∧ ∀ key,
      table.get? key =
        (members.reverse.findSome? (Context.listedAt mo key)).or (result.get? key) := by
  induction members generalizing result with
  | nil => exact ⟨result, Reading.gives_pure _, fun key => rfl⟩
  | cons c rest ih =>
    have hlisted := (Context.properties_steady (hc c List.mem_cons_self)).gives
    have hrest := fun d hd => hc d (List.mem_cons_of_mem c hd)
    obtain ⟨table, htable, hget⟩ := ih hrest (result.insertMany (c.properties.value mo).entries)
    refine ⟨table, hlisted.bind htable, fun key => ?_⟩
    rw [hget, Table.get?_insertMany_entries, ← Option.or_assoc, List.reverse_cons,
      List.findSome?_append]
    simp [Context.listedAt]

theorem properties_gives (hc : ∀ c ∈ m.members, c.Steady mo) :
    ∃ table, m.properties.Gives mo table ∧ ∀ key,
      table.get? key = m.members.reverse.findSome? (Context.listedAt mo key) := by
  obtain ⟨table, htable, hget⟩ := propertiesFrom_gives hc .empty
  refine ⟨table, htable, fun key => ?_⟩
  rw [hget, Table.get?_empty, Option.or_none]

theorem listedAt_eq_textAt {key : String} (hc : ∀ c ∈ m.members, c.Steady mo)
    (ha : ∀ c ∈ m.members, ∀ s ∈ c.sources, s.scannable = true → s.Agrees mo) {c : Context}
    (h : c ∈ m.members) (hlisted : c.textAt mo key ≠ none → c.listedAt mo key ≠ none) :
    c.listedAt mo key = c.textAt mo key := by
  cases hl : c.listedAt mo key with
  | some text => exact (Context.textAt_of_listedAt (hc c h) (ha c h) hl).symm
  | none =>
    cases ht : c.textAt mo key with
    | none => rfl
    | some text => exact absurd hl (hlisted (by simp [ht]))

theorem Last.listed {key : String} (hc : ∀ c ∈ m.members, c.Steady mo)
    (ha : ∀ c ∈ m.members, ∀ s ∈ c.sources, s.scannable = true → s.Agrees mo) {c : Context}
    {text : String} (h : m.Last (Context.textAt mo key) c text)
    (hlisted : c.listedAt mo key ≠ none) : m.Last (Context.listedAt mo key) c text := by
  obtain ⟨before, after, hsplit, htext, hafter⟩ := h
  have hmem : ∀ d ∈ c :: after, d ∈ m.members := by
    intro d hd
    rw [hsplit]
    exact List.mem_append_right _ hd
  refine ⟨before, after, hsplit, ?_, fun d hd => ?_⟩
  · rw [← htext]
    exact listedAt_eq_textAt hc ha (hmem c List.mem_cons_self) (fun _ => hlisted)
  · have hnone := hafter d hd
    rw [← hnone]
    apply listedAt_eq_textAt hc ha (hmem d (List.mem_cons_of_mem _ hd))
    exact fun h => absurd hnone h

/-- The enumeration of several contexts agrees with single reads except where the last member that
gives a key does not enumerate it. -/
theorem agrees_iff_last_listed (hc : ∀ c ∈ m.members, c.Steady mo)
    (ha : ∀ c ∈ m.members, ∀ s ∈ c.sources, s.scannable = true → s.Agrees mo) :
    ∃ table, m.properties.Gives mo table ∧ ∀ key, ∃ found, (m.get key).Gives mo found ∧
      (∀ text, found = some text ↔ ∃ c, m.Last (Context.textAt mo key) c text) ∧
      (∀ text, table.get? key = some text ↔ ∃ c, m.Last (Context.listedAt mo key) c text) ∧
      (∀ text, table.get? key = some text → (found = some text ↔
        ∀ c other, m.Last (Context.textAt mo key) c other → c.listedAt mo key = none →
          other = text)) ∧
      ((∀ c ∈ m.members, c.textAt mo key ≠ none → c.listedAt mo key ≠ none) →
        table.get? key = found) := by
  obtain ⟨table, htable, hlisted⟩ := properties_gives hc
  refine ⟨table, htable, fun key => ⟨_, get_gives hc key, ?_, ?_, ?_, ?_⟩⟩
  · exact fun text => lastAnswer_eq_some_iff
  · intro text
    rw [hlisted]
    exact lastAnswer_eq_some_iff
  · intro text htext
    rw [hlisted] at htext
    constructor
    · intro hfound c other hlast _
      have hother := lastAnswer_eq_some_iff.mpr ⟨c, hlast⟩
      exact Option.some.inj (hother.symm.trans hfound)
    · intro hunlisted
      obtain ⟨d, before, after, hsplit, hd, -⟩ := lastAnswer_eq_some_iff.mp htext
      have hdm : d ∈ m.members := by
        rw [hsplit]
        simp
      have hgiven := Context.textAt_of_listedAt (hc d hdm) (ha d hdm) hd
      cases hfound : m.members.reverse.findSome? (Context.textAt mo key) with
      | none =>
        have := List.findSome?_eq_none_iff.mp hfound d (List.mem_reverse.mpr hdm)
        rw [hgiven] at this
        cases this
      | some other =>
        obtain ⟨c, hlast⟩ := lastAnswer_eq_some_iff.mp hfound
        by_cases hnone : c.listedAt mo key = none
        · rw [hunlisted c other hlast hnone]
        · have hother := lastAnswer_eq_some_iff.mpr ⟨c, hlast.listed hc ha hnone⟩
          exact hother.symm.trans htext
  · intro hall
    have hsame : m.members.reverse.map (Context.listedAt mo key) =
        m.members.reverse.map (Context.textAt mo key) := by
      apply List.map_congr_left
      intro c h
      have hmem := List.mem_reverse.mp h
      exact listedAt_eq_textAt hc ha hmem (hall c hmem)
    have hfirst := congrArg (List.findSome? id) hsame
    rw [List.findSome?_map, List.findSome?_map, Function.id_comp, Function.id_comp] at hfirst
    exact (hlisted key).trans hfirst

theorem agrees_iff_last_listed_later :
    let mo : Moment := ⟨.empty, []⟩
    let hidden := Source.fixed 0 "hidden" 0 false (.ofList [("a", "1")]) .empty
    let visible := Source.fixed 1 "visible" 0 true (.ofList [("a", "2")]) .empty
    let m := (Combined.mk "both" [⟨[hidden], [], .empty 0⟩]).add ⟨[visible], [], .empty 1⟩
    (∀ c ∈ m.members, c.Steady mo) ∧
      (∀ c ∈ m.members, ∀ s ∈ c.sources, s.scannable = true → s.Agrees mo) ∧
      ∃ table, m.properties.Gives mo table ∧ table.get? "a" = some "2" ∧
        (m.get "a").Gives mo (some "2") := by
  intro mo hidden visible m
  have hsteady : hidden.Steady mo ∧ visible.Steady mo :=
    ⟨Source.fixed_steady .., Source.fixed_steady ..⟩
  have hagrees : hidden.Agrees mo ∧ visible.Agrees mo :=
    ⟨(Source.fixed_tabled ..).agrees, (Source.fixed_tabled ..).agrees⟩
  have hc : ∀ c ∈ m.members, c.Steady mo := by
    simp [m, add, Context.single_steady hsteady.1, Context.single_steady hsteady.2]
  have ha : ∀ c ∈ m.members, ∀ s ∈ c.sources, s.scannable = true → s.Agrees mo := by
    simp [m, add, hagrees]
  have htext : Context.textAt mo "a" ⟨[visible], [], .empty 1⟩ = some "2" := by
    rw [Context.textAt_single hsteady.2]
    rfl
  have hlist : Context.listedAt mo "a" ⟨[visible], [], .empty 1⟩ = some "2" := by
    rw [Context.listedAt_single hsteady.2 hagrees.2]
    rfl
  obtain ⟨table, htable, hkeys⟩ := agrees_iff_last_listed hc ha
  obtain ⟨found, hfound, hgiven, hlisted, -⟩ := hkeys "a"
  have hlast : found = some "2" := (hgiven "2").mpr ⟨_, [_], [], rfl, htext, by simp⟩
  refine ⟨hc, ha, table, htable, ?_, hlast ▸ hfound⟩
  exact (hlisted "2").mpr ⟨_, [_], [], rfl, hlist, by simp⟩

theorem hidden_disagrees :
    ∃ (m : Combined) (mo : Moment), (∀ c ∈ m.members, c.Steady mo) ∧
      (∀ c ∈ m.members, ∀ s ∈ c.sources, s.Agrees mo) ∧
      ∃ table, m.properties.Gives mo table ∧ table.get? "a" = some "1" ∧
        (m.get "a").Gives mo (some "2") := by
  let mo : Moment := ⟨.empty, []⟩
  let visible := Source.fixed 0 "visible" 0 true (.ofList [("a", "1")]) .empty
  let hidden := Source.fixed 1 "hidden" 0 false (.ofList [("a", "2")]) .empty
  let m := (Combined.mk "both" [⟨[visible], [], .empty 0⟩]).add ⟨[hidden], [], .empty 1⟩
  have hsteady : visible.Steady mo ∧ hidden.Steady mo :=
    ⟨Source.fixed_steady .., Source.fixed_steady ..⟩
  have hagrees : visible.Agrees mo ∧ hidden.Agrees mo :=
    ⟨(Source.fixed_tabled ..).agrees, (Source.fixed_tabled ..).agrees⟩
  have hc : ∀ c ∈ m.members, c.Steady mo := by
    simp [m, add, Context.single_steady hsteady.1, Context.single_steady hsteady.2]
  have ha : ∀ c ∈ m.members, ∀ s ∈ c.sources, s.Agrees mo := by
    simp [m, add, hagrees]
  have hlist : Context.listedAt mo "a" ⟨[visible], [], .empty 0⟩ = some "1" := by
    rw [Context.listedAt_single hsteady.1 hagrees.1]
    rfl
  have hunlisted : Context.listedAt mo "a" ⟨[hidden], [], .empty 1⟩ = none := by
    rw [Context.listedAt_single hsteady.2 hagrees.2]
    rfl
  have htext : Context.textAt mo "a" ⟨[hidden], [], .empty 1⟩ = some "2" := by
    rw [Context.textAt_single hsteady.2]
    rfl
  obtain ⟨table, htable, hlisted⟩ := properties_gives hc
  refine ⟨m, mo, hc, ha, table, htable, ?_, ?_⟩
  · rw [hlisted]
    exact lastAnswer_eq_some_iff.mpr ⟨_, [], [_], rfl, hlist, by simpa using hunlisted⟩
  · have hlast : m.Last (Context.textAt mo "a") ⟨[hidden], [], .empty 1⟩ "2" :=
      ⟨[_], [], rfl, htext, by simp⟩
    rw [← lastAnswer_eq_some_iff.mpr ⟨_, hlast⟩]
    exact get_gives hc "a"

end Combined

end LayeredConfig
