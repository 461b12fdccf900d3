import LayeredConfig.Json.Reader
import LayeredConfig.Json.Writer
import LayeredConfig.Proofs.Numerals

/-!
Documents and their texts. Every document is read back from what is written of it (`read_write`):
reading a value takes what was written of it and stops at the mark behind it.
-/

namespace LayeredConfig.Json

open LayeredConfig.Number

@[elab_as_elim]
theorem induct {motive : Json → Prop} (null : motive .null) (boolean : ∀ b, motive (.boolean b))
    (integer : ∀ n, motive (.integer n)) (fraction : motive .fraction)
    (text : ∀ s, motive (.text s))
    (array : ∀ items, (∀ j ∈ items, motive j) → motive (.array items))
    (object : ∀ fields, (∀ e ∈ fields, motive e.2) → motive (.object fields)) : ∀ j, motive j
  | .null => null
  | .boolean b => boolean b
  | .integer n => integer n
  | .fraction => fraction
  | .text s => text s
  | .array items =>
    array items (fun j _ => induct null boolean integer fraction text array object j)
  | .object fields =>
    object fields (fun e _ => induct null boolean integer fraction text array object e.2)
decreasing_by
  · have := List.sizeOf_lt_of_mem ‹j ∈ items›
    simp only [Json.array.sizeOf_spec]
    omega
  · have := List.sizeOf_lt_of_mem ‹e ∈ fields›
    have : sizeOf e = 1 + sizeOf e.1 + sizeOf e.2 := rfl
    simp only [Json.object.sizeOf_spec]
    omega

section Lengths

variable {α β : Type} {f : α → List β}

theorem length_le_flatMap (hf : ∀ a, f a ≠ []) (l : List α) : l.length ≤ (l.flatMap f).length := by
  induction l with
  | nil => simp
  | cons a l ih =>
    have := List.length_pos_iff.mpr (hf a)
    rw [List.flatMap_cons, List.length_append, List.length_cons]
    omega

theorem length_le_flatMap_of_mem (f : α → List β) {a : α} {l : List α} (h : a ∈ l) :
    (f a).length ≤ (l.flatMap f).length := by
  obtain ⟨before, after, rfl⟩ := List.append_of_mem h
  simp only [List.flatMap_append, List.flatMap_cons, List.length_append]
  omega

end Lengths

theorem scalar?_toNat (c : Char) : scalar? c.toNat = some c := by
  have hvalid : c.toNat.isValidChar := c.valid
  rw [scalar?, dif_pos hvalid]
  rfl

theorem unit?_control {n : Nat} (h : n < 0x20) (s : List Char) :
    unit? ('0' :: '0' :: Nat.digitChar (n / 16) :: Nat.digitChar (n % 16) :: s) = some (n, s) := by
  have hdigit : ∀ d < 16, digitValue? 16 d.digitChar = some d := by decide
  have hzero : digitValue? 16 '0' = some 0 := hdigit 0 (by decide)
  have hhigh := hdigit (n / 16) (by omega)
  have hlow := hdigit (n % 16) (by omega)
  have hsum : n / 16 * 16 + n % 16 = n := Nat.div_add_mod' n 16
  simp [unit?, digitsValue?, appendDigits?, hzero, hhigh, hlow, hsum]

section Strings

variable {c : Char} {fuel : Nat} {before s : List Char}

theorem stringChars_simple {e : Char} (hc : simpleEscape? e = some c) :
    stringChars (fuel + 1) (some before) ('\\' :: e :: s) =
      stringChars fuel (some (c :: before)) s := by
  have hu : e ≠ 'u' := by
    rintro rfl
    cases hc
  rw [stringChars]
  · rw [hc, Option.bind_some, Option.map_some]
  · exact hu

theorem isHigh_of_lt {n : Nat} (h : n < 0x20) : isHigh n = false := by
  have hlow : ¬0xD800 ≤ n := by omega
  rw [isHigh, decide_eq_false hlow, Bool.false_and]

theorem stringChars_control (h : c.toNat < 0x20) :
    stringChars (fuel + 1) (some before) ('\\' :: 'u' :: '0' :: '0' ::
      Nat.digitChar (c.toNat / 16) :: Nat.digitChar (c.toNat % 16) :: s) =
      stringChars fuel (some (c :: before)) s := by
  -- A control character is no half of a pair, whatever follows it.
  have hhigh : ¬isHigh c.toNat = true := by rw [isHigh_of_lt h]; exact Bool.false_ne_true
  rw [stringChars, unit?_control h, Option.bind_some]
  simp only [if_neg hhigh, scalar?_toNat]
  split
  · next heq =>
    split at heq
    · cases heq
    · cases heq
  · rfl

theorem stringChars_plain (hquote : c ≠ '\x22') (hslash : c ≠ '\\') (h : ¬c.toNat < 0x20) :
    stringChars (fuel + 1) (some before) (c :: s) = stringChars fuel (some (c :: before)) s := by
  rw [stringChars]
  · rw [if_neg h, Option.map_some]
  · exact hquote
  · exact fun _ heq _ => hslash heq
  · exact fun _ _ heq _ => hslash heq

theorem escaped_cases (c : Char) :
    (∃ e, simpleEscape? e = some c ∧ escaped c = ['\\', e]) ∨
      (c.toNat < 0x20 ∧ escaped c = ['\\', 'u', '0', '0', Nat.digitChar (c.toNat / 16),
        Nat.digitChar (c.toNat % 16)]) ∨
      (c ≠ '\x22' ∧ c ≠ '\\' ∧ ¬c.toNat < 0x20 ∧ escaped c = [c]) := by
  generalize hchars : escaped c = chars
  unfold escaped at hchars
  iterate 7
    split at hchars
    · next h =>
      subst h hchars
      exact .inl ⟨_, rfl, rfl⟩
  split at hchars
  · next h => exact .inr (.inl ⟨h, hchars.symm⟩)
  · next hquote hslash _ _ _ _ _ h => exact .inr (.inr ⟨hquote, hslash, h, hchars.symm⟩)

theorem stringChars_escaped :
    stringChars (fuel + 1) (some before) (escaped c ++ s) =
      stringChars fuel (some (c :: before)) s := by
  rcases escaped_cases c with ⟨e, he, hc⟩ | ⟨h, hc⟩ | ⟨hquote, hslash, h, hc⟩
  · rw [hc]
    exact stringChars_simple he
  · rw [hc]
    exact stringChars_control h
  · rw [hc]
    exact stringChars_plain hquote hslash h

end Strings

theorem stringChars_flatMap_escaped (l : List Char) {fuel : Nat} (h : l.length < fuel)
    (before rest : List Char) :
    stringChars fuel (some before) (l.flatMap escaped ++ '\x22' :: rest) =
      some (some (String.ofList (before.reverse ++ l)), rest) := by
  induction l generalizing fuel before with
  | nil =>
    obtain ⟨fuel, rfl⟩ := Nat.exists_eq_succ_of_ne_zero (Nat.ne_of_gt h)
    simp [stringChars]
  | cons c l ih =>
    obtain ⟨fuel, rfl⟩ := Nat.exists_eq_succ_of_ne_zero (Nat.ne_of_gt (Nat.zero_lt_of_lt h))
    rw [List.flatMap_cons, List.append_assoc, stringChars_escaped,
      ih (Nat.lt_of_succ_lt_succ h), List.reverse_cons, List.append_assoc, List.singleton_append]

theorem escaped_ne_nil (c : Char) : escaped c ≠ [] := by
  rcases escaped_cases c with ⟨e, -, hc⟩ | ⟨-, hc⟩ | ⟨-, -, -, hc⟩
  all_goals
    rw [hc]
    exact List.cons_ne_nil _ _

theorem exists_textChars (s : Option String) :
    ∃ tail, textChars s = '\x22' :: tail ∧ ∀ rest : List Char,
      stringChars ((tail ++ rest).length + 1) (some []) (tail ++ rest) = some (s, rest) := by
  cases s with
  | none => exact ⟨"\\ud800\"".toList, rfl, fun rest => rfl⟩
  | some s =>
    refine ⟨s.toList.flatMap escaped ++ ['\x22'], rfl, fun rest => ?_⟩
    have hlength := length_le_flatMap escaped_ne_nil s.toList
    rw [List.append_assoc, List.singleton_append, stringChars_flatMap_escaped]
    · simp
    · rw [List.length_append]
      omega

theorem isDecimalDigit_of_mem_toDigits {n : Nat} {c : Char} (h : c ∈ Nat.toDigits 10 n) :
    isDecimalDigit c = true :=
  Nat.isDigit_of_mem_toDigits (by decide) (by decide) h

theorem exists_toDigits_eq_cons (n : Nat) :
    ∃ c tail, Nat.toDigits 10 n = c :: tail ∧ isDecimalDigit c = true ∧ (c = '0' → n = 0) := by
  induction n using Nat.strong_induction_on with
  | _ n ih =>
    rw [Nat.toDigits_eq_if (by decide)]
    split
    · next hn =>
      have hsmall : ∀ d < 10, isDecimalDigit d.digitChar = true ∧ (d.digitChar = '0' → d = 0) := by
        decide
      exact ⟨n.digitChar, [], rfl, hsmall n hn⟩
    · next hn =>
      obtain ⟨c, tail, htail, hc, hzero⟩ := ih (n / 10) (by omega)
      refine ⟨c, tail ++ [(n % 10).digitChar], by rw [htail, List.cons_append], hc, fun h => ?_⟩
      have := hzero h
      omega

def Closes (rest : List Char) : Prop := ∀ c ∈ rest.head?, c = ',' ∨ c = ']' ∨ c = '\x7d'

theorem takeWhile_toDigits (n : Nat) {rest : List Char}
    (h : ∀ c ∈ rest.head?, isDecimalDigit c = false) :
    (Nat.toDigits 10 n ++ rest).takeWhile isDecimalDigit = Nat.toDigits 10 n :=
  Text.takeWhile_append_of_head? (fun _ => isDecimalDigit_of_mem_toDigits) h

theorem wholePart?_toDigits (n : Nat) {rest : List Char}
    (h : ∀ c ∈ rest.head?, isDecimalDigit c = false) :
    wholePart? (Nat.toDigits 10 n ++ rest) = some (Nat.toDigits 10 n, rest) := by
  by_cases hn : n = 0
  · subst hn
    cases rest with
    | nil => rfl
    | cons c rest =>
      have hc : isDecimalDigit c = false := h c rfl
      change (if isDecimalDigit c then none else some (['0'], c :: rest)) = some (['0'], c :: rest)
      rw [hc]
      rfl
  · obtain ⟨c, tail, hdigits, -, hzero⟩ := exists_toDigits_eq_cons n
    rw [wholePart?]
    · simp only [takeWhile_toDigits n h, if_neg (Nat.toDigits_ne_nil), List.drop_left]
    · rw [hdigits]
      rintro rest heq
      exact hn (hzero (List.cons.inj heq).1)

theorem Closes.not_digit {rest : List Char} (h : Closes rest) :
    ∀ c ∈ rest.head?, isDecimalDigit c = false := by
  intro c hc
  rcases h c hc with rfl | rfl | rfl <;> decide

theorem Closes.skipFraction? {rest : List Char} (h : Closes rest) :
    skipFraction? rest = some (false, rest) := by
  rw [Json.skipFraction?]
  rintro tail rfl
  rcases h '.' rfl with h | h | h <;> cases h

theorem Closes.skipExponent? {rest : List Char} (h : Closes rest) :
    skipExponent? rest = some (false, rest) := by
  rw [Json.skipExponent?]
  · rintro tail rfl
    rcases h 'e' rfl with h | h | h <;> cases h
  · rintro tail rfl
    rcases h 'E' rfl with h | h | h <;> cases h

theorem number?_integerChars (n : Int) {rest : List Char} (h : Closes rest) :
    number? (integerChars n ++ rest) = some (integer n, rest) := by
  cases n with
  | ofNat m =>
    have hchars : integerChars (Int.ofNat m) = Nat.toDigits 10 m := rfl
    rw [hchars, number?]
    · simp [wholePart?_toDigits m h.not_digit, h.skipFraction?, h.skipExponent?,
        digitsValue?_toDigits]
    · obtain ⟨c, tail, hdigits, hc, -⟩ := exists_toDigits_eq_cons m
      rw [hdigits]
      rintro rest' heq
      rw [(List.cons.inj heq).1] at hc
      exact absurd hc (by decide)
  | negSucc m =>
    have hchars : integerChars (Int.negSucc m) = '-' :: Nat.toDigits 10 (m + 1) := by
      rw [integerChars, if_pos (Int.negSucc_lt_zero m)]
      rfl
    rw [hchars, List.cons_append, number?]
    simp [wholePart?_toDigits (m + 1) h.not_digit, h.skipFraction?, h.skipExponent?,
      digitsValue?_toDigits, Int.negSucc_eq]

theorem skipGaps_cons {c : Char} (h : isGap c = false) (s : List Char) :
    skipGaps (c :: s) = c :: s := by
  rw [skipGaps, List.dropWhile_cons_of_neg (by simp [h])]

def Begins (c : Char) : Prop := c = '-' ∨ isDecimalDigit c = true

instance (c : Char) : Decidable (Begins c) := inferInstanceAs (Decidable (_ ∨ _))

theorem Begins.ne {c d : Char} (h : Begins c) (hd : ¬Begins d) : c ≠ d :=
  fun heq => hd (heq ▸ h)

theorem Begins.not_gap {c : Char} (h : Begins c) : isGap c = false := by
  simp [isGap, h.ne (d := ' ') (by decide), h.ne (d := '\n') (by decide),
    h.ne (d := '\t') (by decide), h.ne (d := '\r') (by decide)]

theorem exists_integerChars_eq_cons (n : Int) :
    ∃ c tail, integerChars n = c :: tail ∧ Begins c := by
  rw [integerChars]
  split
  · exact ⟨_, _, rfl, .inl rfl⟩
  · obtain ⟨c, tail, hdigits, hc, -⟩ := exists_toDigits_eq_cons n.natAbs
    exact ⟨c, tail, hdigits, .inr hc⟩

theorem exists_chars_eq_cons (j : Json) :
    ∃ c tail, chars j = c :: tail ∧ isGap c = false ∧ c ≠ ']' := by
  cases j with
  | null => exact ⟨_, _, rfl, by decide⟩
  | boolean b => cases b <;> exact ⟨_, _, rfl, by decide⟩
  | integer n =>
    obtain ⟨c, tail, hchars, hc⟩ := exists_integerChars_eq_cons n
    exact ⟨c, tail, by rw [chars, hchars], hc.not_gap, hc.ne (by decide)⟩
  | fraction => exact ⟨_, _, rfl, by decide⟩
  | text s =>
    obtain ⟨tail, htail, -⟩ := exists_textChars s
    exact ⟨_, tail, by rw [chars, htail], by decide⟩
  | array items => cases items <;> exact ⟨_, _, rfl, by decide⟩
  | object fields => cases fields <;> exact ⟨_, _, rfl, by decide⟩

theorem value?_of_begins {depth : Nat} {c : Char} (h : Begins c) (s : List Char) :
    value? (depth + 1) (c :: s) = number? (c :: s) := by
  rw [value?, skipGaps_cons h.not_gap]
  split
  case h_7 => rfl
  all_goals
    next heq => exact absurd (List.cons.inj heq).1 (h.ne (by decide))

def ReadsBack (depth : Nat) (j : Json) : Prop :=
  ∀ rest, Closes rest → value? depth (chars j ++ rest) = some (j, rest)

theorem closes_itemChars (l : List Json) (rest : List Char) : Closes (itemChars l ++ rest) := by
  intro c hc
  cases l with
  | nil => exact .inr (.inl (Option.some.inj hc).symm)
  | cons j l => exact .inl (Option.some.inj hc).symm

theorem closes_restChars (l : List (Option String × Json)) (rest : List Char) :
    Closes (restChars l ++ rest) := by
  intro c hc
  cases l with
  | nil => exact .inr (.inr (Option.some.inj hc).symm)
  | cons e l => exact .inl (Option.some.inj hc).symm

theorem items_itemChars {depth fuel : Nat} {first : Json} {l : List Json} {rest : List Char}
    (hall : ∀ j ∈ first :: l, ReadsBack depth j) (hfuel : l.length < fuel) :
    items (value? depth) fuel (chars first ++ (itemChars l ++ rest)) = some (first :: l, rest) := by
  induction l generalizing first fuel with
  | nil =>
    obtain ⟨fuel, rfl⟩ := Nat.exists_eq_succ_of_ne_zero (Nat.ne_of_gt hfuel)
    rw [items, hall first List.mem_cons_self _ (closes_itemChars [] rest)]
    rfl
  | cons j l ih =>
    obtain ⟨fuel, rfl⟩ := Nat.exists_eq_succ_of_ne_zero (Nat.ne_of_gt (Nat.zero_lt_of_lt hfuel))
    have htail := ih (fun k hk => hall k (List.mem_cons_of_mem _ hk)) (Nat.lt_of_succ_lt_succ hfuel)
    have hsplit : skipGaps (itemChars (j :: l) ++ rest) =
        ',' :: (chars j ++ (itemChars l ++ rest)) := by
      simp [itemChars, skipGaps_cons (c := ',') (by decide)]
    rw [items, hall first List.mem_cons_self _ (closes_itemChars (j :: l) rest), Option.bind_some,
      hsplit]
    simp only [htail, Option.map_some]

theorem fields_fieldChars {depth fuel : Nat} {e : Option String × Json} {rest : List Char}
    (he : ReadsBack depth e.2) (hrest : Closes rest) :
    fields (value? depth) (fuel + 1) (fieldChars e ++ rest) =
      match skipGaps rest with
      | ',' :: rest => (fields (value? depth) fuel rest).map (fun more => (e :: more.1, more.2))
      | '\x7d' :: rest => some ([e], rest)
      | _ => none := by
  obtain ⟨name, j⟩ := e
  obtain ⟨tail, htail, hread⟩ := exists_textChars name
  have hchars : fieldChars (name, j) ++ rest = '\x22' :: (tail ++ ':' :: (chars j ++ rest)) := by
    rw [fieldChars, htail]
    simp
  rw [fields, hchars, skipGaps_cons (by decide)]
  simp only [hread, Option.bind_some]
  rw [skipGaps_cons (c := ':') (by decide)]
  exact congrArg (Option.bind · _) (he rest hrest)

theorem fields_restChars {depth fuel : Nat} {first : Option String × Json}
    {l : List (Option String × Json)} {rest : List Char}
    (hall : ∀ e ∈ first :: l, ReadsBack depth e.2) (hfuel : l.length < fuel) :
    fields (value? depth) fuel (fieldChars first ++ (restChars l ++ rest)) =
      some (first :: l, rest) := by
  induction l generalizing first fuel with
  | nil =>
    obtain ⟨fuel, rfl⟩ := Nat.exists_eq_succ_of_ne_zero (Nat.ne_of_gt hfuel)
    rw [fields_fieldChars (hall first List.mem_cons_self) (closes_restChars [] rest)]
    rfl
  | cons e l ih =>
    obtain ⟨fuel, rfl⟩ := Nat.exists_eq_succ_of_ne_zero (Nat.ne_of_gt (Nat.zero_lt_of_lt hfuel))
    have htail := ih (fun k hk => hall k (List.mem_cons_of_mem _ hk)) (Nat.lt_of_succ_lt_succ hfuel)
    have hsplit : skipGaps (restChars (e :: l) ++ rest) =
        ',' :: (fieldChars e ++ (restChars l ++ rest)) := by
      simp [restChars, skipGaps_cons (c := ',') (by decide)]
    rw [fields_fieldChars (hall first List.mem_cons_self) (closes_restChars (e :: l) rest), hsplit]
    simp only [htail, Option.map_some]

theorem itemChars_eq_flatMap (l : List Json) :
    itemChars l = l.flatMap (fun j => ',' :: chars j) ++ [']'] := by
  induction l with
  | nil => rfl
  | cons j l ih => rw [itemChars, ih, List.flatMap_cons, List.append_assoc]

theorem restChars_eq_flatMap (l : List (Option String × Json)) :
    restChars l = l.flatMap (fun e => ',' :: fieldChars e) ++ ['\x7d'] := by
  induction l with
  | nil => rfl
  | cons e l ih => rw [restChars, ih, List.flatMap_cons, List.append_assoc]

theorem length_lt_itemChars (l : List Json) : l.length < (itemChars l).length := by
  have := length_le_flatMap (f := fun j => ',' :: chars j) (by simp) l
  rw [itemChars_eq_flatMap, List.length_append, List.length_singleton]
  omega

theorem length_lt_restChars (l : List (Option String × Json)) :
    l.length < (restChars l).length := by
  have := length_le_flatMap (f := fun e => ',' :: fieldChars e) (by simp) l
  rw [restChars_eq_flatMap, List.length_append, List.length_singleton]
  omega

theorem length_chars_of_mem_array {j : Json} {items : List Json} (h : j ∈ items) :
    (chars j).length < (chars (.array items)).length := by
  cases items with
  | nil => cases h
  | cons first l =>
    rw [chars, List.length_append, List.length_cons]
    rcases List.mem_cons.mp h with rfl | h
    · omega
    · have := length_le_flatMap_of_mem (fun j => ',' :: chars j) h
      rw [itemChars_eq_flatMap, List.length_append]
      simp only [List.length_cons] at this
      omega

theorem length_chars_of_mem_object {e : Option String × Json}
    {fields : List (Option String × Json)} (h : e ∈ fields) :
    (chars e.2).length < (chars (.object fields)).length := by
  have hfield : (chars e.2).length < (fieldChars e).length := by
    rw [fieldChars, List.length_append, List.length_cons]
    omega
  cases fields with
  | nil => cases h
  | cons first l =>
    rw [chars, List.length_append, List.length_cons]
    rcases List.mem_cons.mp h with rfl | h
    · omega
    · have := length_le_flatMap_of_mem (fun e => ',' :: fieldChars e) h
      rw [restChars_eq_flatMap, List.length_append]
      simp only [List.length_cons] at this
      omega

theorem value?_array {depth : Nat} {items : List Json} (hall : ∀ j ∈ items, ReadsBack depth j) :
    ReadsBack (depth + 1) (.array items) := by
  intro rest hrest
  cases items with
  | nil => rfl
  | cons first l =>
    obtain ⟨c, tail, hchars, hgap, hc⟩ := exists_chars_eq_cons first
    have hskip : skipGaps (chars first ++ (itemChars l ++ rest)) =
        chars first ++ (itemChars l ++ rest) := by
      rw [hchars, List.cons_append, skipGaps_cons hgap]
    have hfuel : l.length < (chars first ++ (itemChars l ++ rest)).length + 1 := by
      have := length_lt_itemChars l
      simp only [List.length_append]
      omega
    rw [value?, chars, List.cons_append, List.cons_append, skipGaps_cons (by decide),
      List.append_assoc]
    simp only [hskip, items_itemChars hall hfuel, Option.map_some]
    split
    · next heq =>
      rw [hchars] at heq
      exact absurd (List.cons.inj heq).1 hc
    · rfl

theorem value?_object {depth : Nat} {fields : List (Option String × Json)}
    (hall : ∀ e ∈ fields, ReadsBack depth e.2) : ReadsBack (depth + 1) (.object fields) := by
  intro rest hrest
  cases fields with
  | nil => rfl
  | cons first l =>
    obtain ⟨tail, htail, -⟩ := exists_textChars first.1
    have hchars : fieldChars first ++ (restChars l ++ rest) =
        '\x22' :: (tail ++ ':' :: chars first.2 ++ (restChars l ++ rest)) := by
      rw [fieldChars, htail]
      rfl
    have hskip : skipGaps (fieldChars first ++ (restChars l ++ rest)) =
        fieldChars first ++ (restChars l ++ rest) := by
      rw [hchars, skipGaps_cons (by decide)]
    have hfuel : l.length < (fieldChars first ++ (restChars l ++ rest)).length + 1 := by
      have := length_lt_restChars l
      simp only [List.length_append]
      omega
    rw [value?, chars, List.cons_append, List.cons_append, skipGaps_cons (by decide),
      List.append_assoc]
    simp only [hskip, fields_restChars hall hfuel, Option.map_some]
    split
    · next heq =>
      rw [hchars] at heq
      exact absurd (List.cons.inj heq).1 (by decide)
    · rfl

theorem number?_fraction {rest : List Char} (h : Closes rest) :
    number? ("0.5".toList ++ rest) = some (fraction, rest) := by
  have hdigits : ('5' :: rest).takeWhile isDecimalDigit = ['5'] :=
    Text.takeWhile_append_of_head? (List.forall_mem_singleton.mpr (by decide)) h.not_digit
  have hfraction : Json.skipFraction? ('.' :: '5' :: rest) = some (true, rest) := by
    rw [Json.skipFraction?]
    simp [hdigits]
  have hwhole : wholePart? ('0' :: '.' :: '5' :: rest) = some (['0'], '.' :: '5' :: rest) := rfl
  have hzero : digitsValue? 10 ['0'] = some 0 := by decide
  change number? ('0' :: '.' :: '5' :: rest) = _
  rw [number?]
  · simp [hwhole, hfraction, h.skipExponent?, hzero]
  · rintro rest' heq
    cases heq

theorem readsBack_of_length_le {j : Json} {depth : Nat} (h : (chars j).length ≤ depth) :
    ReadsBack (depth + 1) j := by
  -- No document is nested deeper than its text is long.
  induction j using induct generalizing depth with
  | null => exact fun rest _ => rfl
  | boolean b => cases b <;> exact fun rest _ => rfl
  | integer n =>
    intro rest hrest
    obtain ⟨c, tail, hchars, hc⟩ := exists_integerChars_eq_cons n
    rw [chars, hchars, List.cons_append, value?_of_begins hc, ← List.cons_append, ← hchars]
    exact number?_integerChars n hrest
  | fraction =>
    intro rest hrest
    exact (value?_of_begins (.inr (by decide)) _).trans (number?_fraction hrest)
  | text s =>
    intro rest hrest
    obtain ⟨tail, htail, hread⟩ := exists_textChars s
    rw [value?, chars, htail, List.cons_append, skipGaps_cons (by decide)]
    simp only [hread, Option.map_some]
  | array items ih =>
    apply value?_array
    intro j hj
    have hlength := length_chars_of_mem_array hj
    obtain ⟨d, rfl⟩ : ∃ d, depth = d + 1 := Nat.exists_eq_succ_of_ne_zero (by omega)
    exact ih j hj (by omega)
  | object fields ih =>
    apply value?_object
    intro e he
    have hlength := length_chars_of_mem_object he
    obtain ⟨d, rfl⟩ : ∃ d, depth = d + 1 := Nat.exists_eq_succ_of_ne_zero (by omega)
    exact ih e he (by omega)

/-- Every document is read back from its text. -/
theorem read_write (j : Json) : read (write j) = some j := by
  have hback := readsBack_of_length_le (Nat.le_refl (chars j).length) [] (by simp [Closes])
  rw [List.append_nil] at hback
  rw [read, write, String.toList_ofList, hback]
  rfl

instance : LawfulCodec := ⟨read_write⟩

end LayeredConfig.Json
