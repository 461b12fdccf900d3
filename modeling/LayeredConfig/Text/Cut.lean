import LayeredConfig.Text.Blank

namespace LayeredConfig.Text

def stripStart? : List Char → List Char → Option (List Char)
  | [], s => some s
  | _ :: _, [] => none
  | c :: cs, d :: ds => if c = d then stripStart? cs ds else none

theorem stripStart?_eq_some_iff {start s rest : List Char} :
    stripStart? start s = some rest ↔ s = start ++ rest := by
  induction start generalizing s with
  | nil => simp [stripStart?]
  | cons c cs ih =>
    cases s with
    | nil => simp [stripStart?]
    | cons d ds =>
      by_cases h : c = d
      · subst h
        simp [stripStart?, ih]
      · have h' : ¬ d = c := fun he => h he.symm
        simp [stripStart?, h, h']

theorem stripStart?_of_not_mem {sep s : List Char} {c : Char} (hsep : sep ≠ []) (hc : c ∉ sep) :
    stripStart? sep (c :: s) = none := by
  cases sep with
  | nil => exact absurd rfl hsep
  | cons d rest =>
    have hne : d ≠ c := fun h => hc (h ▸ List.mem_cons_self)
    rw [stripStart?, if_neg hne]

def stripEnd? (tail s : List Char) : Option (List Char) :=
  (stripStart? tail.reverse s.reverse).map List.reverse

theorem stripEnd?_eq_some_iff {tail s rest : List Char} :
    stripEnd? tail s = some rest ↔ s = rest ++ tail := by
  simp only [stripEnd?, Option.map_eq_some_iff, stripStart?_eq_some_iff]
  constructor
  · rintro ⟨a, ha, rfl⟩
    have := congrArg List.reverse ha
    simpa using this
  · rintro rfl
    exact ⟨rest.reverse, by simp, by simp⟩

def startsWith (start s : List Char) : Bool := (stripStart? start s).isSome

def splitAt (sep : Char) : List Char → List (List Char)
  | [] => [[]]
  | c :: rest =>
    if c = sep then [] :: splitAt sep rest
    else
      match splitAt sep rest with
      | [] => [[c]]
      | part :: parts => (c :: part) :: parts

theorem splitAt_ne_nil (sep : Char) (s : List Char) : splitAt sep s ≠ [] := by
  induction s with
  | nil => simp [splitAt]
  | cons c rest ih =>
    by_cases h : c = sep
    · simp [splitAt, h]
    · cases hs : splitAt sep rest <;> simp [splitAt, h, hs]

def joinWith (sep : List Char) : List (List Char) → List Char
  | [] => []
  | [part] => part
  | part :: next :: parts => part ++ sep ++ joinWith sep (next :: parts)

theorem joinWith_splitAt (sep : Char) (s : List Char) : joinWith [sep] (splitAt sep s) = s := by
  induction s with
  | nil => rfl
  | cons c rest ih =>
    by_cases h : c = sep
    · subst h
      cases hs : splitAt c rest with
      | nil => exact absurd hs (splitAt_ne_nil c rest)
      | cons part parts => simpa [splitAt, hs, joinWith] using ih
    · cases hs : splitAt sep rest with
      | nil => exact absurd hs (splitAt_ne_nil sep rest)
      | cons part parts =>
        rw [hs] at ih
        cases parts with
        | nil => simpa [splitAt, h, hs, joinWith] using ih
        | cons next parts => simpa [splitAt, h, hs, joinWith] using ih

theorem joinWith_eq_intercalate (sep : List Char) (parts : List (List Char)) :
    joinWith sep parts = sep.intercalate parts := by
  induction parts with
  | nil => rfl
  | cons part rest ih =>
    cases rest with
    | nil => simp [joinWith]
    | cons next rest => simp [joinWith, ih]

theorem map_joinWith (f : Char → Char) (sep : List Char) (parts : List (List Char)) :
    (joinWith sep parts).map f = joinWith (sep.map f) (parts.map (List.map f)) := by
  induction parts with
  | nil => rfl
  | cons part rest ih =>
    cases rest with
    | nil => rfl
    | cons next rest =>
      rw [joinWith, List.map_append, List.map_append, ih]
      rfl

theorem exists_joinWith_cons (sep : List Char) (c : Char) (part : List Char)
    (rest : List (List Char)) : ∃ tail, joinWith sep ((c :: part) :: rest) = c :: tail := by
  cases rest <;> exact ⟨_, rfl⟩

theorem mem_joinWith {sep : List Char} {parts : List (List Char)} {c : Char}
    (h : c ∈ joinWith sep parts) : c ∈ sep ∨ ∃ part ∈ parts, c ∈ part := by
  induction parts with
  | nil => cases h
  | cons part rest ih =>
    cases rest with
    | nil => exact .inr ⟨part, List.mem_cons_self, h⟩
    | cons next rest =>
      rw [joinWith, List.append_assoc, List.mem_append, List.mem_append] at h
      rcases h with h | h | h
      · exact .inr ⟨part, List.mem_cons_self, h⟩
      · exact .inl h
      · exact (ih h).imp_right fun ⟨p, hp, hc⟩ => ⟨p, List.mem_cons_of_mem _ hp, hc⟩

theorem splitAt_append (sep : Char) (s t : List Char) :
    splitAt sep (s ++ sep :: t) = splitAt sep s ++ splitAt sep t := by
  induction s with
  | nil => simp [splitAt]
  | cons c rest ih =>
    by_cases hc : c = sep
    · simp [splitAt, hc, ih]
    · cases hs : splitAt sep rest with
      | nil => exact absurd hs (splitAt_ne_nil sep rest)
      | cons part parts => simp [splitAt, hc, ih, hs]

def dropRepeated (start : List Char) (s : List Char) : List Char :=
  -- Remove the start as often as it is repeated; the empty start is not removed.
  if start = [] then s
  else
    match _h : stripStart? start s with
    | none => s
    | some rest => dropRepeated start rest
termination_by s.length
decreasing_by
  have := stripStart?_eq_some_iff.1 _h
  subst this
  have : start.length ≠ 0 := by simpa using ‹¬ start = []›
  simp only [List.length_append]
  omega

theorem dropRepeated_of_not_mem {sep s : List Char} {c : Char} (hc : c ∉ sep) :
    dropRepeated sep (c :: s) = c :: s := by
  rw [dropRepeated]
  split
  · rfl
  · next hsep =>
    split
    · rfl
    · next h =>
      rw [stripStart?_of_not_mem hsep hc] at h
      cases h

def replaceSeparator (sep by' : List Char) (s : List Char) : List Char :=
  if sep = [] then by' ++ s.flatMap (fun c => c :: by')
  else
    match _h : stripStart? sep s with
    | some rest => by' ++ replaceSeparator sep by' rest
    | none =>
      match s with
      | [] => []
      | c :: rest => c :: replaceSeparator sep by' rest
termination_by s.length
decreasing_by
  · have := stripStart?_eq_some_iff.1 _h
    subst this
    have : sep.length ≠ 0 := by simpa using ‹¬ sep = []›
    simp only [List.length_append]
    omega
  · simp

section ReplaceSeparator

variable {sep by' part s : List Char} {parts : List (List Char)}

theorem replaceSeparator_nil (hsep : sep ≠ []) : replaceSeparator sep by' [] = [] := by
  rw [replaceSeparator, if_neg hsep]
  split
  · next h =>
    have hnil := stripStart?_eq_some_iff.mp h
    exact absurd (List.append_eq_nil_iff.mp hnil.symm).1 hsep
  · rfl

theorem replaceSeparator_part (hsep : sep ≠ []) (hpart : ∀ c ∈ part, c ∉ sep) :
    replaceSeparator sep by' (part ++ s) = part ++ replaceSeparator sep by' s := by
  induction part with
  | nil => rfl
  | cons c rest ih =>
    have hc := hpart c List.mem_cons_self
    rw [List.cons_append, replaceSeparator, if_neg hsep]
    split
    · next h =>
      rw [stripStart?_of_not_mem hsep hc] at h
      cases h
    · change c :: replaceSeparator sep by' (rest ++ s) = _
      rw [ih fun d hd => hpart d (List.mem_cons_of_mem c hd), List.cons_append]

theorem replaceSeparator_separator (hsep : sep ≠ []) :
    replaceSeparator sep by' (sep ++ s) = by' ++ replaceSeparator sep by' s := by
  rw [replaceSeparator, if_neg hsep]
  split
  · next rest h =>
    rw [List.append_cancel_left (stripStart?_eq_some_iff.mp h)]
  · next h =>
    rw [stripStart?_eq_some_iff.mpr rfl] at h
    cases h

theorem replaceSeparator_joinWith (hsep : sep ≠ []) (h : ∀ part ∈ parts, ∀ c ∈ part, c ∉ sep) :
    replaceSeparator sep by' (joinWith sep parts) = joinWith by' parts := by
  induction parts with
  | nil => exact replaceSeparator_nil hsep
  | cons part rest ih =>
    have hpart := h part List.mem_cons_self
    have hrest := ih fun part hp => h part (List.mem_cons_of_mem _ hp)
    cases rest with
    | nil =>
      have hlast : replaceSeparator sep by' (part ++ []) = part ++ replaceSeparator sep by' [] :=
        replaceSeparator_part hsep hpart
      rwa [List.append_nil, replaceSeparator_nil hsep, List.append_nil] at hlast
    | cons next rest =>
      rw [joinWith, joinWith, List.append_assoc, replaceSeparator_part hsep hpart,
        replaceSeparator_separator hsep, hrest, List.append_assoc]

end ReplaceSeparator

def beforeLast? (c : Char) : List Char → Option (List Char)
  | [] => none
  | d :: rest =>
    match beforeLast? c rest with
    | some before => some (d :: before)
    | none => if d = c then some [] else none

theorem beforeLast?_eq_none_iff {c : Char} {s : List Char} : beforeLast? c s = none ↔ c ∉ s := by
  induction s with
  | nil => simp [beforeLast?]
  | cons d rest ih =>
    cases hr : beforeLast? c rest with
    | some before =>
      have hmem : c ∈ rest := by
        apply Decidable.byContradiction
        intro hnot
        rw [ih.2 hnot] at hr
        cases hr
      simp [beforeLast?, hr, hmem]
    | none =>
      have hnot : c ∉ rest := ih.1 hr
      by_cases hd : d = c
      · simp [beforeLast?, hr, hd]
      · have hne : ¬c = d := fun h => hd h.symm
        simp [beforeLast?, hr, hd, hne, hnot]

theorem beforeLast?_eq_some_iff {c : Char} {s before : List Char} :
    beforeLast? c s = some before ↔ ∃ after, s = before ++ c :: after ∧ c ∉ after := by
  induction s generalizing before with
  | nil => simp [beforeLast?]
  | cons d rest ih =>
    cases hr : beforeLast? c rest with
    | some b =>
      obtain ⟨after, hs, hn⟩ := ih.1 hr
      simp only [beforeLast?, hr, Option.some.injEq]
      constructor
      · rintro rfl
        exact ⟨after, by simp [hs], hn⟩
      · rintro ⟨after', hs', hn'⟩
        cases before with
        | nil =>
          simp only [List.nil_append, List.cons.injEq] at hs'
          exact absurd (by simp [← hs'.2, hs]) hn'
        | cons e before =>
          simp only [List.cons_append, List.cons.injEq] at hs'
          obtain ⟨rfl, hs'⟩ := hs'
          have := ih.2 ⟨after', hs', hn'⟩
          rw [hr] at this
          simpa using this
    | none =>
      have hnone : c ∉ rest := beforeLast?_eq_none_iff.1 hr
      by_cases hd : d = c
      · subst hd
        simp only [beforeLast?, hr, if_true, Option.some.injEq]
        constructor
        · rintro rfl
          exact ⟨rest, rfl, hnone⟩
        · rintro ⟨after, hs, hn⟩
          cases before with
          | nil => rfl
          | cons e before =>
            simp only [List.cons_append, List.cons.injEq] at hs
            exact absurd (by simp [hs.2]) hnone
      · simp only [beforeLast?, hr, hd, if_false]
        constructor
        · intro h
          cases h
        · rintro ⟨after, hs, hn⟩
          cases before with
          | nil =>
            simp only [List.nil_append, List.cons.injEq] at hs
            exact absurd hs.1 hd
          | cons e before =>
            simp only [List.cons_append, List.cons.injEq] at hs
            exact absurd (by simp [hs.2]) hnone

end LayeredConfig.Text
