import LayeredConfig.Proofs.Conversions

namespace LayeredConfig

open LayeredConfig.Number LayeredConfig.Text

namespace Conversion

inductive TimeUnit where
  | milli | second | minute | hour | bare
deriving DecidableEq

namespace TimeUnit

def text : TimeUnit → List Char
  | milli => ['m', 's']
  | second => ['s']
  | minute => ['m']
  | hour => ['h']
  | bare => []

def millis : TimeUnit → Nat
  | milli => 1
  | second => 1000
  | minute => 60000
  | hour => 3600000
  | bare => 1

theorem text_inj {unit unit' : TimeUnit} (h : unit.text = unit'.text) : unit = unit' := by
  revert h
  cases unit <;> cases unit' <;> decide

end TimeUnit

theorem durationParts_text {number : List Char} (unit : TimeUnit)
    (h : ∀ c ∈ number.getLast?, c ∉ ['m', 's', 'h']) :
    durationParts (number ++ unit.text) = (number, unit.millis) := by
  rcases List.eq_nil_or_concat' number with rfl | ⟨front, c, rfl⟩
  · cases unit <;> rfl
  · have hc : c ≠ 'm' ∧ c ≠ 's' ∧ c ≠ 'h' := by simpa using h c List.getLast?_concat
    obtain ⟨hm, hs, hh⟩ := hc
    cases unit <;>
      simp [durationParts, stripEnd?, stripStart?, TimeUnit.text, TimeUnit.millis, hm.symm,
        hs.symm, hh.symm]

theorem exists_durationParts (s : List Char) : ∃ (number : List Char) (unit : TimeUnit),
    s = number ++ unit.text ∧ durationParts s = (number, unit.millis) := by
  fun_cases durationParts s with
  | case1 number h => exact ⟨number, .milli, stripEnd?_eq_some_iff.mp h, rfl⟩
  | case2 _ number h => exact ⟨number, .second, stripEnd?_eq_some_iff.mp h, rfl⟩
  | case3 _ _ number h => exact ⟨number, .minute, stripEnd?_eq_some_iff.mp h, rfl⟩
  | case4 _ _ _ number h => exact ⟨number, .hour, stripEnd?_eq_some_iff.mp h, rfl⟩
  | case5 => exact ⟨s, .bare, (List.append_nil s).symm, rfl⟩

def Lasts (s : List Char) (n : Nat) (unit : TimeUnit) : Prop :=
  ∃ (sign : Sign) (digits blanks : List Char),
    s.map Char.toLower = (sign.text ++ digits ++ blanks) ++ unit.text ∧ sign ≠ .minus ∧
      Spells 10 digits n ∧ ∀ c ∈ blanks, isBlank c = true

theorem unit_letter {c : Char} (h : c ∈ ['m', 's', 'h']) :
    isBlank c = false ∧ hexValue? c = none := by
  simp only [List.mem_cons, List.not_mem_nil, or_false] at h
  rcases h with rfl | rfl | rfl <;> exact ⟨rfl, rfl⟩

theorem number_letter {sign : Sign} {digits : List Char} {n : Nat} (h : Spells 10 digits n)
    {c : Char} (hc : c ∈ sign.text ++ digits) : isBlank c = false ∧ c ∉ ['m', 's', 'h'] := by
  rcases List.mem_append.mp hc with hc | hc
  · have hsign : sign.text ⊆ ['+', '-'] := by cases sign <;> decide
    have hcases := hsign hc
    simp only [List.mem_cons, List.not_mem_nil, or_false] at hcases
    rcases hcases with rfl | rfl <;> decide
  · obtain ⟨d, hd⟩ := h.exists_hexValue? (by decide) hc
    refine ⟨isBlank_of_hexValue? hd, fun hunit => ?_⟩
    rw [(unit_letter hunit).2] at hd
    cases hd

theorem Lasts.parts {s : List Char} {n : Nat} {unit : TimeUnit} (h : Lasts s n unit) :
    ∃ (number : List Char) (sign : Sign) (digits : List Char),
      s.map Char.toLower = number ++ unit.text ∧
      durationParts (s.map Char.toLower) = (number, unit.millis) ∧
      trimList number = sign.text ++ digits ∧ sign ≠ .minus ∧ Spells 10 digits n := by
  obtain ⟨sign, digits, blanks, hs, hsign, hn, hblanks⟩ := h
  have hchars : ∀ c ∈ sign.text ++ digits, isBlank c = false ∧ c ∉ ['m', 's', 'h'] :=
    fun c => number_letter hn
  have hne : sign.text ++ digits ≠ [] := List.append_ne_nil_of_right_ne_nil _ hn.1
  refine ⟨_, sign, digits, hs, ?_, ?_, hsign, hn⟩
  · rw [hs]
    apply durationParts_text
    intro c hc
    rcases List.mem_append.mp (List.mem_of_getLast? hc) with hc | hc
    · exact (hchars c hc).2
    · intro hunit
      exact Bool.false_ne_true ((unit_letter hunit).1.symm.trans (hblanks c hc))
  · apply trimWhile_append (List.forall_mem_nil _) hblanks hne
    · exact fun c hc => (hchars c (List.mem_of_mem_head? hc)).1
    · exact fun c hc => (hchars c (List.mem_of_getLast? hc)).1

theorem Lasts.unique {s : List Char} {n n' : Nat} {unit unit' : TimeUnit} (h : Lasts s n unit)
    (h' : Lasts s n' unit') : n = n' ∧ unit = unit' := by
  obtain ⟨number, sign, digits, hs, hparts, htrim, -, hn⟩ := h.parts
  obtain ⟨number', sign', digits', hs', hparts', htrim', -, hn'⟩ := h'.parts
  obtain rfl : number = number' := congrArg Prod.fst (hparts.symm.trans hparts')
  refine ⟨?_, TimeUnit.text_inj (List.append_cancel_left (hs.symm.trans hs'))⟩
  have hcut : cutSign (sign.text ++ digits) = (decide (sign = .minus), digits) :=
    cutSign_text fun _ => hn.unsigned (by decide)
  rw [← htrim, htrim', cutSign_text fun _ => hn'.unsigned (by decide)] at hcut
  obtain rfl : digits' = digits := congrArg Prod.snd hcut
  have hvalue := (digitsValue?_eq_some_iff (by decide)).mpr hn
  rw [(digitsValue?_eq_some_iff (by decide)).mpr hn'] at hvalue
  exact (Option.some.inj hvalue).symm

theorem durationRule_of_lasts {raw : String} {n : Nat} {unit : TimeUnit}
    (h : Lasts (trimList raw.toList) n unit) :
    durationRule raw = if n ≤ 2 ^ 64 - 1 ∧ n * unit.millis ≤ 2 ^ 64 - 1 then
      some (n * unit.millis) else none := by
  obtain ⟨number, sign, digits, -, hparts, htrim, hsign, hn⟩ := h.parts
  have hread : readInteger u64 10 (trimList number) = u64.within n := by
    rw [htrim, readInteger_sign u64 10 fun _ => hn.unsigned (by decide),
      if_neg (fun h => hsign h.1), (digitsValue?_eq_some_iff (by decide)).mpr hn,
      Option.bind_some, Sign.apply_of_ne_minus hsign]
  simp only [durationRule, hparts, hread, u64_within]
  by_cases hn' : n ≤ 2 ^ 64 - 1
  · simp only [hn', if_true, true_and, Option.bind_some, ← Nat.cast_mul, u64_within]
    split <;> rfl
  · simp only [hn', if_false, false_and, Option.bind_none]

theorem exists_lasts {raw : String} {k : Nat} (h : durationRule raw = some k) :
    ∃ n unit, Lasts (trimList raw.toList) n unit := by
  obtain ⟨number, unit, hs, hparts⟩ :=
    exists_durationParts ((trimList raw.toList).map Char.toLower)
  simp only [durationRule, hparts, Option.bind_eq_some_iff] at h
  obtain ⟨v, hv, -⟩ := h
  obtain ⟨sign, digits, n, htrim, hn, -, hminus, -⟩ :=
    (readInteger_eq_some_iff (by decide)).mp hv
  obtain ⟨before, blanks, hnumber, hbefore, hblanks⟩ := trimList_split number
  -- No blank is first: the text is trimmed, and small letters are no blanks.
  have hnil : before = [] := by
    cases before with
    | nil => rfl
    | cons c rest =>
      rw [hnumber] at hs
      obtain ⟨first, _, htext, rfl, -⟩ := List.map_eq_cons_iff.mp hs
      have hhead : first ∈ (trimList raw.toList).head? := by
        rw [htext]
        rfl
      have hfirst := isBlank_head_trimList hhead
      have hblank := hbefore first.toLower List.mem_cons_self
      rw [isBlank_toLower hfirst] at hblank
      cases hblank
  refine ⟨n, unit, sign, digits, blanks, ?_, fun h => Bool.false_ne_true (hminus h), hn, hblanks⟩
  rw [hs, hnumber, hnil, List.nil_append, htrim]

theorem durationRule_eq_some_iff {raw : String} {k : Nat} :
    durationRule raw = some k ↔ ∃ n unit, Lasts (trimList raw.toList) n unit ∧
      n ≤ 2 ^ 64 - 1 ∧ n * unit.millis ≤ 2 ^ 64 - 1 ∧ n * unit.millis = k := by
  constructor
  · intro h
    obtain ⟨n, unit, hlasts⟩ := exists_lasts h
    rw [durationRule_of_lasts hlasts, Option.ite_none_right_eq_some, Option.some.injEq] at h
    exact ⟨n, unit, hlasts, h.1.1, h.1.2, h.2⟩
  · rintro ⟨n, unit, hlasts, hn, hproduct, rfl⟩
    rw [durationRule_of_lasts hlasts, if_pos ⟨hn, hproduct⟩]

end Conversion

namespace Registry

open RegistryOf Conversion

/-- A duration is a number and a unit, both of which the text determines, and is their product; the
number or the product may be too great, and is then refused and not cut. -/
theorem convert_duration_exact (discoveries : Nat) (key raw : String) :
    let result : Except ConfigError Nat := (withDefaults discoveries).convert .duration key raw
    let s := trimList raw.toList
    (∀ k, result = .ok k ↔ ∃ n unit, Lasts s n unit ∧ n ≤ 2 ^ 64 - 1 ∧
      n * unit.millis ≤ 2 ^ 64 - 1 ∧ n * unit.millis = k) ∧
    (∀ e, result = .error e ↔
      (∀ n unit, Lasts s n unit → ¬ (n ≤ 2 ^ 64 - 1 ∧ n * unit.millis ≤ 2 ^ 64 - 1)) ∧
        e = .conversionFailed key raw "core::time::Duration") ∧
    ∀ n unit n' unit', Lasts s n unit → Lasts s n' unit' → n = n' ∧ unit = unit' := by
  intro result s
  have hrule : defaultRule .duration = some durationRule := rfl
  refine ⟨fun k => ?_, fun e => ?_, fun n unit n' unit' => Lasts.unique⟩
  · exact (convert_withDefaults_eq_ok_iff hrule).trans durationRule_eq_some_iff
  · refine (convert_withDefaults_eq_error_iff hrule).trans (and_congr_left' ?_)
    constructor
    · rintro h n unit hlasts ⟨hn, hproduct⟩
      exact h _ (durationRule_eq_some_iff.mpr ⟨n, unit, hlasts, hn, hproduct, rfl⟩)
    · intro h k hk
      obtain ⟨n, unit, hlasts, hn, hproduct, -⟩ := durationRule_eq_some_iff.mp hk
      exact h n unit hlasts ⟨hn, hproduct⟩

theorem convert_duration_exact_limit :
    let convert (raw : String) : Except ConfigError Nat :=
      (withDefaults 0).convert .duration "timeout" raw
    convert " +5124095576030 H\t" = .ok 18446744073708000000 ∧
      convert "5124095576031h" =
        .error (.conversionFailed "timeout" "5124095576031h" "core::time::Duration") := by
  intro convert
  have hfits : Lasts (trimList " +5124095576030 H\t".toList) 5124095576030 .hour :=
    ⟨.plus, "5124095576030".toList, [' '], by decide, by decide,
      spells_of_toDigits (by decide) (by decide), List.forall_mem_singleton.mpr rfl⟩
  have hlong : Lasts (trimList "5124095576031h".toList) 5124095576031 .hour :=
    ⟨.bare, "5124095576031".toList, [], by decide, by decide,
      spells_of_toDigits (by decide) (by decide), List.forall_mem_nil _⟩
  constructor
  · obtain ⟨hok, -, -⟩ := convert_duration_exact 0 "timeout" " +5124095576030 H\t"
    exact (hok _).mpr ⟨_, _, hfits, by decide, by decide, by decide⟩
  · obtain ⟨-, herror, hunique⟩ := convert_duration_exact 0 "timeout" "5124095576031h"
    refine (herror _).mpr ⟨?_, rfl⟩
    rintro n unit hlasts ⟨-, hproduct⟩
    obtain ⟨rfl, rfl⟩ := hunique n unit _ _ hlasts hlong
    exact absurd hproduct (by decide)

end Registry

end LayeredConfig
