import LayeredConfig.Number.Integer
import LayeredConfig.Text.Blank
import Mathlib.Data.Nat.Digits.Defs
import Mathlib.Tactic.Ring

namespace LayeredConfig.Number

theorem toNat_digitChar : ∀ d < 16, d.digitChar.toNat = if d < 10 then 48 + d else 87 + d := by
  decide

theorem toNat_toLower (c : Char) :
    c.toLower.toNat = if 65 ≤ c.toNat ∧ c.toNat ≤ 90 then c.toNat + 32 else c.toNat := by
  have hrange : (c.val ≥ 'A'.val ∧ c.val ≤ 'Z'.val) ↔ 65 ≤ c.toNat ∧ c.toNat ≤ 90 := by
    simp only [ge_iff_le, UInt32.le_iff_toNat_le]
    rfl
  by_cases h : c.val ≥ 'A'.val ∧ c.val ≤ 'Z'.val
  · have hlower : c.toLower.val = c.val + ('a'.val - 'A'.val) := congrArg Char.val (dif_pos h)
    have hsmall : (c.val.toNat + 32) % 4294967296 = c.val.toNat + 32 := by
      have hc := hrange.mp h
      simp only [Char.toNat] at hc
      omega
    rw [if_pos (hrange.mp h), Char.toNat, hlower]
    exact hsmall
  · have hlower : c.toLower = c := dif_neg h
    rw [if_neg (mt hrange.mpr h), hlower]

theorem hexValue?_eq_some_iff {c : Char} {d : Nat} :
    hexValue? c = some d ↔ d < 16 ∧ c.toLower = d.digitChar := by
  have hchar : d < 16 → (c.toLower = d.digitChar ↔
      (if 65 ≤ c.toNat ∧ c.toNat ≤ 90 then c.toNat + 32 else c.toNat) =
        if d < 10 then 48 + d else 87 + d) := by
    intro hd
    rw [← toNat_digitChar d hd, ← toNat_toLower, Char.toNat_inj]
  have hdigit : ('0' ≤ c ∧ c ≤ '9') ↔ 48 ≤ c.toNat ∧ c.toNat ≤ 57 := Iff.rfl
  have hsmall : ('a' ≤ c ∧ c ≤ 'f') ↔ 97 ≤ c.toNat ∧ c.toNat ≤ 102 := Iff.rfl
  have hcapital : ('A' ≤ c ∧ c ≤ 'F') ↔ 65 ≤ c.toNat ∧ c.toNat ≤ 70 := Iff.rfl
  have hfirst : '0'.toNat = 48 ∧ 'a'.toNat = 97 ∧ 'A'.toNat = 65 := ⟨rfl, rfl, rfl⟩
  rw [and_congr_right hchar]
  simp only [hexValue?, hdigit, hsmall, hcapital, hfirst]
  split_ifs <;> simp only [Option.some.injEq, false_iff] <;> omega

theorem digitValue?_eq_some_iff {base : Nat} (hb : base ≤ 16) {c : Char} {d : Nat} :
    digitValue? base c = some d ↔ d < base ∧ c.toLower = d.digitChar := by
  rw [digitValue?, Option.filter_eq_some_iff, hexValue?_eq_some_iff, decide_eq_true_iff]
  constructor
  · rintro ⟨⟨-, hc⟩, hd⟩
    exact ⟨hd, hc⟩
  · rintro ⟨hd, hc⟩
    exact ⟨⟨hd.trans_le hb, hc⟩, hd⟩

def SpellsDigits (base : Nat) (s : List Char) (ds : List Nat) : Prop :=
  s.map Char.toLower = ds.map Nat.digitChar ∧ ∀ d ∈ ds, d < base

def Spells (base : Nat) (s : List Char) (n : Nat) : Prop :=
  s ≠ [] ∧ ∃ ds, SpellsDigits base s ds ∧ Nat.ofDigits base ds.reverse = n

theorem spellsDigits_nil_iff {base : Nat} {ds : List Nat} :
    SpellsDigits base [] ds ↔ ds = [] := by
  constructor
  · rintro ⟨hmap, -⟩
    exact List.map_eq_nil_iff.mp hmap.symm
  · rintro rfl
    exact ⟨rfl, by simp⟩

theorem spellsDigits_cons_iff {base : Nat} {c : Char} {rest : List Char} {ds : List Nat} :
    SpellsDigits base (c :: rest) ds ↔ ∃ d ds', ds = d :: ds' ∧
      (d < base ∧ c.toLower = d.digitChar) ∧ SpellsDigits base rest ds' := by
  constructor
  · rintro ⟨hmap, hlt⟩
    obtain ⟨d, ds', rfl, hc, hrest⟩ := List.map_eq_cons_iff.mp hmap.symm
    obtain ⟨hd, hlt⟩ := List.forall_mem_cons.mp hlt
    exact ⟨d, ds', rfl, ⟨hd, hc.symm⟩, hrest.symm, hlt⟩
  · rintro ⟨d, ds', rfl, ⟨hd, hc⟩, hrest, hlt⟩
    exact ⟨by rw [List.map_cons, List.map_cons, hc, hrest], List.forall_mem_cons.mpr ⟨hd, hlt⟩⟩

theorem appendDigits?_eq_some_iff {base : Nat} (hb : base ≤ 16) {s : List Char} {k n : Nat} :
    appendDigits? base k s = some n ↔
      ∃ ds, SpellsDigits base s ds ∧ k * base ^ ds.length + Nat.ofDigits base ds.reverse = n := by
  induction s generalizing k with
  | nil => simp [appendDigits?, spellsDigits_nil_iff]
  | cons c rest ih =>
    have hplace : ∀ d (ds : List Nat), (k * base + d) * base ^ ds.length +
        Nat.ofDigits base ds.reverse = k * base ^ (d :: ds).length +
          Nat.ofDigits base (d :: ds).reverse := by
      intro d ds
      rw [Nat.ofDigits_reverse_cons, List.length_cons, Nat.pow_succ]
      ring
    simp only [appendDigits?, Option.bind_eq_some_iff, digitValue?_eq_some_iff hb, ih,
      spellsDigits_cons_iff, hplace]
    constructor
    · rintro ⟨d, hd, ds, hds, hn⟩
      exact ⟨d :: ds, ⟨d, ds, rfl, hd, hds⟩, hn⟩
    · rintro ⟨_, ⟨d, ds, rfl, hd, hds⟩, hn⟩
      exact ⟨d, hd, ds, hds, hn⟩

theorem digitsValue?_eq_some_iff {base : Nat} (hb : base ≤ 16) {s : List Char} {n : Nat} :
    digitsValue? base s = some n ↔ Spells base s n := by
  rw [digitsValue?, Spells]
  by_cases hs : s = []
  · simp [hs]
  · simp [hs, appendDigits?_eq_some_iff hb]

theorem exists_toDigits_eq_map {base : Nat} (hb : 1 < base) (n : Nat) :
    ∃ ds : List Nat, Nat.toDigits base n = ds.map Nat.digitChar ∧ (∀ d ∈ ds, d < base) ∧
      Nat.ofDigits base ds.reverse = n := by
  induction n using Nat.strong_induction_on with
  | _ n ih =>
    rw [Nat.toDigits_eq_if hb]
    split
    · next hn => exact ⟨[n], rfl, by simpa using hn, by simp⟩
    · next hn =>
      obtain ⟨ds, hds, hlt, hvalue⟩ := ih (n / base) (Nat.div_lt_self (by omega) hb)
      refine ⟨ds ++ [n % base], by rw [hds, List.map_append, List.map_singleton], ?_, ?_⟩
      · intro d hd
        rcases List.mem_append.mp hd with hd | hd
        · exact hlt d hd
        · rw [List.mem_singleton.mp hd]
          exact Nat.mod_lt n (by omega)
      · rw [List.reverse_append, List.reverse_singleton, List.singleton_append,
          Nat.ofDigits_cons, hvalue]
        exact Nat.mod_add_div n base

theorem map_toLower_toDigits {base : Nat} (hb : 1 < base) (hb' : base ≤ 16) (n : Nat) :
    (Nat.toDigits base n).map Char.toLower = Nat.toDigits base n := by
  have hsmall : ∀ d < 16, d.digitChar.toLower = d.digitChar := by decide
  obtain ⟨ds, hds, hlt, -⟩ := exists_toDigits_eq_map hb n
  rw [hds, List.map_map]
  apply List.map_congr_left
  intro d hd
  exact hsmall d ((hlt d hd).trans_le hb')

theorem spells_of_toDigits {base n : Nat} (hb : 1 < base) {s : List Char}
    (hs : s.map Char.toLower = Nat.toDigits base n) : Spells base s n := by
  obtain ⟨ds, hds, hlt, hvalue⟩ := exists_toDigits_eq_map hb n
  refine ⟨?_, ds, ⟨hs.trans hds, hlt⟩, hvalue⟩
  rintro rfl
  exact Nat.toDigits_ne_nil hs.symm

theorem digitsValue?_toDigits (n : Nat) : digitsValue? 10 (Nat.toDigits 10 n) = some n := by
  rw [← digitsValue?_toString n, Nat.toString_eq_ofList_toDigits, String.toList_ofList]

inductive Sign where
  | bare | plus | minus
deriving DecidableEq

namespace Sign

def text : Sign → List Char
  | bare => []
  | plus => ['+']
  | minus => ['-']

def apply : Sign → Nat → Int
  | minus, n => -n
  | _, n => n

def of (v : Int) : Sign := if v < 0 then minus else bare

theorem of_eq_minus_iff {v : Int} : of v = minus ↔ v < 0 := by
  simp [of]

theorem of_text_append_toDigits (v : Int) :
    String.ofList ((of v).text ++ Nat.toDigits 10 v.natAbs) = toString v := by
  cases v with
  | ofNat n => rfl
  | negSucc n =>
    rw [of_eq_minus_iff.mpr (Int.negSucc_lt_zero n), String.ofList_append]
    rfl

theorem apply_of_ne_minus {sign : Sign} (h : sign ≠ minus) (n : Nat) : sign.apply n = n := by
  cases sign with
  | minus => exact absurd rfl h
  | _ => rfl

theorem of_apply (v : Int) : (of v).apply v.natAbs = v := by
  rw [of]
  split
  · next h => exact (Int.eq_neg_natAbs_of_nonpos h.le).symm
  · next h => exact Int.natAbs_of_nonneg (not_lt.mp h)

end Sign

def Unsigned (s : List Char) : Prop := ∀ c ∈ s.head?, c ≠ '+' ∧ c ≠ '-'

theorem Spells.exists_hexValue? {base : Nat} (hb : base ≤ 16) {s : List Char} {n : Nat}
    (h : Spells base s n) {c : Char} (hc : c ∈ s) : ∃ d, hexValue? c = some d := by
  have hsome := Option.isSome_of_eq_some ((digitsValue?_eq_some_iff hb).mpr h)
  have hdigit := (digitsValue?_isSome_iff.mp hsome).2 c hc
  obtain ⟨d, hd⟩ := Option.isSome_iff_exists.mp hdigit
  exact ⟨d, (Option.filter_eq_some_iff.mp hd).1⟩

theorem Spells.unsigned {base : Nat} (hb : base ≤ 16) {s : List Char} {n : Nat}
    (h : Spells base s n) : Unsigned s := by
  intro c hc
  obtain ⟨d, hd⟩ := h.exists_hexValue? hb (List.mem_of_mem_head? hc)
  constructor
  · rintro rfl
    cases hd
  · rintro rfl
    cases hd

theorem exists_sign (s : List Char) :
    ∃ (sign : Sign) (rest : List Char), s = sign.text ++ rest ∧ (sign = .bare → Unsigned rest) := by
  by_cases hs : Unsigned s
  · exact ⟨.bare, s, rfl, fun _ => hs⟩
  · simp only [Unsigned, not_forall, not_and_or, not_not] at hs
    obtain ⟨c, hc, hsign⟩ := hs
    obtain ⟨rest, rfl⟩ := List.head?_eq_some_iff.mp hc
    rcases hsign with rfl | rfl
    · exact ⟨.plus, rest, rfl, fun h => by cases h⟩
    · exact ⟨.minus, rest, rfl, fun h => by cases h⟩

theorem u64_within (n : Nat) :
    u64.within n = if n ≤ 2 ^ 64 - 1 then some (n : Int) else none := by
  have hcontains : u64.contains n = true ↔ n ≤ 2 ^ 64 - 1 := by
    simp only [IntType.contains, IntType.min, IntType.max, u64, Bool.and_eq_true,
      decide_eq_true_eq, Bool.false_eq_true, if_false, Nat.pow_eq]
    omega
  rw [IntType.within]
  split
  · next h => rw [if_pos (hcontains.mp h)]
  · next h => rw [if_neg (mt hcontains.mpr h)]

theorem readInteger_sign (t : IntType) (base : Nat) {sign : Sign} {rest : List Char}
    (h : sign = .bare → Unsigned rest) :
    readInteger t base (sign.text ++ rest) =
      if sign = .minus ∧ t.signed = false then none
      else (digitsValue? base rest).bind (fun n => t.within (sign.apply n)) := by
  cases sign with
  | bare =>
    have hne : ∀ c, c = '+' ∨ c = '-' → ∀ digits, rest ≠ c :: digits := by
      rintro c hc digits rfl
      obtain ⟨hplus, hminus⟩ := h rfl c rfl
      exact hc.elim hplus hminus
    rw [Sign.text, List.nil_append, readInteger]
    · rfl
    · exact hne '+' (.inl rfl)
    · exact hne '-' (.inr rfl)
  | plus => rfl
  | minus =>
    rw [Sign.text, List.singleton_append, readInteger]
    cases t.signed <;> rfl

theorem readInteger_sign_eq_some_iff {t : IntType} {base : Nat} (hb : base ≤ 16) (sign : Sign)
    {rest : List Char} (h : sign = .bare → Unsigned rest) {v : Int} :
    readInteger t base (sign.text ++ rest) = some v ↔
      ∃ n, Spells base rest n ∧ sign.apply n = v ∧ (sign = .minus → t.signed = true) ∧
        t.min ≤ v ∧ v ≤ t.max := by
  rw [readInteger_sign t base h, Option.ite_none_left_eq_some, Option.bind_eq_some_iff]
  simp only [digitsValue?_eq_some_iff hb, within_eq_some_iff, not_and, Bool.not_eq_false]
  constructor
  · rintro ⟨hsigned, n, hn, hv, hrange⟩
    exact ⟨n, hn, hv, hsigned, hv ▸ hrange⟩
  · rintro ⟨n, hn, rfl, hsigned, hrange⟩
    exact ⟨hsigned, n, hn, rfl, hrange⟩

theorem readInteger_eq_some_iff {t : IntType} {base : Nat} (hb : base ≤ 16) {s : List Char}
    {v : Int} : readInteger t base s = some v ↔
      ∃ (sign : Sign) (digits : List Char) (n : Nat), s = sign.text ++ digits ∧
        Spells base digits n ∧ sign.apply n = v ∧ (sign = .minus → t.signed = true) ∧
        t.min ≤ v ∧ v ≤ t.max := by
  constructor
  · intro h
    obtain ⟨sign, rest, rfl, hbare⟩ := exists_sign s
    obtain ⟨n, hn, hv⟩ := (readInteger_sign_eq_some_iff hb sign hbare).mp h
    exact ⟨sign, rest, n, rfl, hn, hv⟩
  · rintro ⟨sign, digits, n, rfl, hn, hv⟩
    exact (readInteger_sign_eq_some_iff hb sign fun _ => hn.unsigned hb).mpr ⟨n, hn, hv⟩

inductive Mark where
  | decimal | small | capital | hash
deriving DecidableEq

namespace Mark

def text : Mark → List Char
  | decimal => []
  | small => ['0', 'x']
  | capital => ['0', 'X']
  | hash => ['#']

def base : Mark → Nat
  | decimal => 10
  | _ => 16

theorem base_le (mark : Mark) : mark.base ≤ 16 := by
  cases mark <;> decide

theorem one_lt_base (mark : Mark) : 1 < mark.base := by
  cases mark <;> decide

end Mark

def Unmarked (s : List Char) : Prop :=
  ∀ (mark : Mark) (rest : List Char), s = mark.text ++ rest → mark = .decimal

theorem exists_mark (s : List Char) : ∃ (mark : Mark) (rest : List Char),
    s = mark.text ++ rest ∧ (mark = .decimal → Unmarked rest) := by
  by_cases hs : Unmarked s
  · exact ⟨.decimal, s, rfl, fun _ => hs⟩
  · simp only [Unmarked, not_forall] at hs
    obtain ⟨mark, rest, rfl, hmark⟩ := hs
    exact ⟨mark, rest, rfl, fun h => absurd h hmark⟩

theorem Spells.unmarked {base : Nat} (hb : base ≤ 16) {s : List Char} {n : Nat}
    (h : Spells base s n) : Unmarked s := by
  rintro mark rest rfl
  -- Each mark has a character that is no digit.
  have hdigit : ∀ c ∈ mark.text, ∃ d, hexValue? c = some d := fun c hc =>
    h.exists_hexValue? hb (List.mem_append_left rest hc)
  cases mark with
  | decimal => rfl
  | small =>
    obtain ⟨d, hd⟩ := hdigit 'x' (by simp [Mark.text])
    cases hd
  | capital =>
    obtain ⟨d, hd⟩ := hdigit 'X' (by simp [Mark.text])
    cases hd
  | hash =>
    obtain ⟨d, hd⟩ := hdigit '#' (by simp [Mark.text])
    cases hd

theorem Unsigned.mark_append {s : List Char} (h : Unsigned s) (mark : Mark) :
    Unsigned (mark.text ++ s) := by
  cases mark with
  | decimal => exact h
  | _ =>
    intro c hc
    obtain rfl := Option.some.inj hc
    decide

def Denotes (s : List Char) (sign : Sign) (v : Int) : Prop :=
  ∃ (mark : Mark) (digits : List Char) (n : Nat),
    s = sign.text ++ (mark.text ++ digits) ∧ Spells mark.base digits n ∧ sign.apply n = v

def IntType.Accepts (t : IntType) (s : List Char) (v : Int) : Prop :=
  ∃ sign, Denotes s sign v ∧ (sign = .minus → t.signed = true) ∧ t.min ≤ v ∧ v ≤ t.max

theorem Denotes.mem_cases {s : List Char} {sign : Sign} {v : Int} (h : Denotes s sign v) {c : Char}
    (hc : c ∈ s) : c ∈ ['+', '-', 'x', 'X', '#'] ∨ ∃ d, hexValue? c = some d := by
  obtain ⟨mark, digits, n, rfl, hn, -⟩ := h
  have hsign : sign.text ⊆ ['+', '-'] := by cases sign <;> decide
  have hmark : mark.text ⊆ ['0', 'x', 'X', '#'] := by cases mark <;> decide
  rcases List.mem_append.mp hc with hc | hc
  · exact .inl (List.mem_append_left _ (hsign hc))
  · rcases List.mem_append.mp hc with hc | hc
    · rcases List.mem_cons.mp (hmark hc) with rfl | hc
      · exact .inr ⟨0, rfl⟩
      · exact .inl (List.mem_append_right ['+', '-'] hc)
    · exact .inr (hn.exists_hexValue? mark.base_le hc)

theorem Denotes.toLower_ne {s : List Char} {sign : Sign} {v : Int} (h : Denotes s sign v)
    {c : Char} (hc : c ∈ s) : c.toLower ≠ 'm' := by
  rcases h.mem_cases hc with hc | ⟨d, hd⟩
  · simp only [List.mem_cons, List.not_mem_nil, or_false] at hc
    rcases hc with rfl | rfl | rfl | rfl | rfl <;> decide
  · have hletter : ∀ d < 16, d.digitChar ≠ 'm' := by decide
    obtain ⟨hlt, hlower⟩ := hexValue?_eq_some_iff.mp hd
    rw [hlower]
    exact hletter d hlt

theorem isBlank_of_hexValue? {c : Char} {d : Nat} (h : hexValue? c = some d) :
    Text.isBlank c = false := by
  have hbounds : 48 ≤ c.toNat ∧ c.toNat ≤ 102 := by
    obtain ⟨hd, hlower⟩ := hexValue?_eq_some_iff.mp h
    have hn := toNat_toLower c
    rw [hlower, toNat_digitChar d hd] at hn
    split at hn <;> split at hn <;> omega
  rw [← Bool.not_eq_true]
  simp only [Text.isBlank, Bool.or_eq_true, Bool.and_eq_true, decide_eq_true_eq, beq_iff_eq]
  omega

theorem isBlank_toLower {c : Char} (h : Text.isBlank c = false) :
    Text.isBlank c.toLower = false := by
  rw [← Bool.not_eq_true] at h ⊢
  simp only [Text.isBlank, Bool.or_eq_true, Bool.and_eq_true, decide_eq_true_eq, beq_iff_eq,
    toNat_toLower] at h ⊢
  split <;> omega

theorem Denotes.not_blank {s : List Char} {sign : Sign} {v : Int} (h : Denotes s sign v)
    {c : Char} (hc : c ∈ s) : Text.isBlank c = false := by
  rcases h.mem_cases hc with hc | ⟨d, hd⟩
  · simp only [List.mem_cons, List.not_mem_nil, or_false] at hc
    rcases hc with rfl | rfl | rfl | rfl | rfl <;> rfl
  · exact isBlank_of_hexValue? hd

theorem denotes_of_toDigits (v : Int) (mark : Mark) {digits : List Char}
    (h : digits.map Char.toLower = Nat.toDigits mark.base v.natAbs) :
    Denotes ((Sign.of v).text ++ (mark.text ++ digits)) (Sign.of v) v :=
  ⟨mark, digits, v.natAbs, rfl, spells_of_toDigits mark.one_lt_base h, Sign.of_apply v⟩

theorem IntType.accepts_of_toDigits {t : IntType} {v : Int} (hmin : t.min ≤ v) (hmax : v ≤ t.max)
    (mark : Mark) {digits : List Char}
    (h : digits.map Char.toLower = Nat.toDigits mark.base v.natAbs) :
    t.Accepts ((Sign.of v).text ++ (mark.text ++ digits)) v := by
  refine ⟨Sign.of v, denotes_of_toDigits v mark h, fun hsign => ?_, hmin, hmax⟩
  rw [Sign.of_eq_minus_iff] at hsign
  by_contra hunsigned
  rw [IntType.min, if_neg hunsigned] at hmin
  omega

end LayeredConfig.Number
