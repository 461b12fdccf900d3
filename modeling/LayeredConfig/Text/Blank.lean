namespace LayeredConfig.Text

def isBlank (c : Char) : Bool :=
  let n := c.toNat
  (0x9 ≤ n && n ≤ 0xD) || n == 0x20 || n == 0x85 || n == 0xA0 || n == 0x1680 ||
    (0x2000 ≤ n && n ≤ 0x200A) || n == 0x2028 || n == 0x2029 || n == 0x202F || n == 0x205F ||
    n == 0x3000

def dropEndWhile (p : Char → Bool) (l : List Char) : List Char :=
  (l.reverse.dropWhile p).reverse

def trimWhile (p : Char → Bool) (l : List Char) : List Char :=
  dropEndWhile p (l.dropWhile p)

def trimList (l : List Char) : List Char := trimWhile isBlank l

def trim (s : String) : String := String.ofList (trimList s.toList)

def isAllBlank (s : String) : Bool := s.toList.all isBlank

theorem dropEndWhile_split (p : Char → Bool) (l : List Char) :
    ∃ t, l = dropEndWhile p l ++ t ∧ ∀ c ∈ t, p c = true := by
  refine ⟨(l.reverse.takeWhile p).reverse, ?_, ?_⟩
  · rw [dropEndWhile, ← List.reverse_append, List.takeWhile_append_dropWhile, List.reverse_reverse]
  · intro c hc
    exact List.all_eq_true.1 (List.all_takeWhile) c (List.mem_reverse.1 hc)

theorem trimList_split (l : List Char) :
    ∃ s t, l = s ++ trimList l ++ t ∧ (∀ c ∈ s, isBlank c = true) ∧
      ∀ c ∈ t, isBlank c = true := by
  obtain ⟨t, ht, hb⟩ := dropEndWhile_split isBlank (l.dropWhile isBlank)
  refine ⟨l.takeWhile isBlank, t, ?_, ?_, hb⟩
  · rw [List.append_assoc, trimList, trimWhile, ← ht, List.takeWhile_append_dropWhile]
  · intro c hc
    exact List.all_eq_true.1 (List.all_takeWhile) c hc

theorem dropWhile_of_head? {p : Char → Bool} {l : List Char} (h : ∀ c ∈ l.head?, p c = false) :
    l.dropWhile p = l := by
  cases l with
  | nil => rfl
  | cons c rest => rw [List.dropWhile_cons_of_neg (by simp [h c rfl])]

theorem dropEndWhile_of_getLast? {p : Char → Bool} {l : List Char}
    (h : ∀ c ∈ l.getLast?, p c = false) : dropEndWhile p l = l := by
  rw [dropEndWhile, dropWhile_of_head? (by rwa [List.head?_reverse]), List.reverse_reverse]

theorem getLast?_dropEndWhile {p : Char → Bool} {l : List Char} {c : Char}
    (hc : c ∈ (dropEndWhile p l).getLast?) : p c = false := by
  rw [dropEndWhile, List.getLast?_reverse] at hc
  have hdrop := List.head?_dropWhile_not p l.reverse
  rw [hc] at hdrop
  simpa using hdrop

theorem takeWhile_append_of_head? {p : Char → Bool} {l rest : List Char}
    (hl : ∀ c ∈ l, p c = true) (hrest : ∀ c ∈ rest.head?, p c = false) :
    (l ++ rest).takeWhile p = l := by
  rw [List.takeWhile_append_of_pos hl]
  cases rest with
  | nil => exact List.append_nil l
  | cons c rest => rw [List.takeWhile_cons_of_neg (by simp [hrest c rfl]), List.append_nil]

theorem trimWhile_append {p : Char → Bool} {before l after : List Char}
    (hbefore : ∀ c ∈ before, p c = true) (hafter : ∀ c ∈ after, p c = true) (hl : l ≠ [])
    (hhead : ∀ c ∈ l.head?, p c = false) (hlast : ∀ c ∈ l.getLast?, p c = false) :
    trimWhile p (before ++ (l ++ after)) = l := by
  have hstart : (l ++ after).dropWhile p = l ++ after := by
    obtain ⟨c, rest, rfl⟩ := List.exists_cons_of_ne_nil hl
    exact dropWhile_of_head? hhead
  rw [trimWhile, List.dropWhile_append_of_pos hbefore, hstart, dropEndWhile, List.reverse_append,
    List.dropWhile_append_of_pos (fun c hc => hafter c (List.mem_reverse.1 hc))]
  exact dropEndWhile_of_getLast? hlast

theorem trimList_of_ends {l : List Char} (hhead : ∀ c ∈ l.head?, isBlank c = false)
    (hlast : ∀ c ∈ l.getLast?, isBlank c = false) : trimList l = l := by
  rw [trimList, trimWhile, dropWhile_of_head? hhead, dropEndWhile_of_getLast? hlast]

theorem trimList_of_forall {l : List Char} (h : ∀ c ∈ l, isBlank c = false) : trimList l = l :=
  trimList_of_ends (fun c hc => h c (List.mem_of_mem_head? hc))
    (fun c hc => h c (List.mem_of_mem_getLast? hc))

theorem isBlank_head_trimList {l : List Char} {c : Char} (hc : c ∈ (trimList l).head?) :
    isBlank c = false := by
  obtain ⟨rest, hrest⟩ := List.head?_eq_some_iff.1 hc
  obtain ⟨t, ht, -⟩ := dropEndWhile_split isBlank (l.dropWhile isBlank)
  have hhead : (l.dropWhile isBlank).head? = some c := by
    rw [ht]
    rw [trimList, trimWhile] at hrest
    rw [hrest]
    rfl
  have hdrop := List.head?_dropWhile_not isBlank l
  rw [hhead] at hdrop
  simpa using hdrop

end LayeredConfig.Text
