import LayeredConfig.Proofs.Numerals
import LayeredConfig.Proofs.Registries

namespace LayeredConfig

open LayeredConfig.Number LayeredConfig.Text

namespace RegistryOf

def appendDefault (lists : Lists Target) (t : Target) : Lists Target :=
  Function.update lists t (lists t ++ (Conversion.defaultRule t).toList)

theorem withDefaults_eq_foldl (lists : Lists Target) :
    lists.withDefaults = Target.all.foldl appendDefault lists := by
  refine List.foldl_filterMap.trans ?_
  apply congrArg (fun step => Target.all.foldl step lists)
  funext lists t
  rw [appendDefault]
  cases Conversion.defaultRule t with
  | none =>
    rw [Option.toList_none, List.append_nil, Function.update_eq_self]
    rfl
  | some rule => rfl

theorem foldl_appendDefault {targets : List Target} (h : targets.Nodup) (lists : Lists Target)
    (t : Target) : targets.foldl appendDefault lists t =
      if t ∈ targets then lists t ++ (Conversion.defaultRule t).toList else lists t := by
  induction targets generalizing lists with
  | nil => rfl
  | cons u rest ih =>
    obtain ⟨hu, hrest⟩ := List.nodup_cons.mp h
    rw [List.foldl_cons, ih hrest, appendDefault]
    by_cases ht : t = u
    · subst ht
      rw [if_neg hu, if_pos List.mem_cons_self, Function.update_self]
    · simp only [Function.update_of_ne ht, List.mem_cons, ht, false_or]

theorem withDefaults_lists (t : Target) :
    Lists.withDefaults (.empty : Lists Target) t = (Conversion.defaultRule t).toList := by
  have hnodup : Target.all.Nodup := by decide
  rw [withDefaults_eq_foldl, foldl_appendDefault hnodup, if_pos t.mem_all]
  rfl

end RegistryOf

namespace Registry

open RegistryOf

section Defaults

variable {t : Target} {rule : String → Option t.Carrier}

theorem convert_withDefaults (h : Conversion.defaultRule t = some rule) (discoveries : Nat)
    (key raw : String) :
    (withDefaults discoveries).convert t key raw =
      (rule raw).elim (.error (.conversionFailed key raw t.typeName)) .ok := by
  have hempty : Holds (RegistryOf.empty discoveries : Registry).entries .empty := Holds.empty
  have hconvert := hempty.registerDefaults.convert t key raw
  rw [withDefaults_lists, h] at hconvert
  refine hconvert.trans ?_
  rw [Option.toList_some, tryAll, List.findSome?_singleton]
  cases rule raw with
  | none => rfl
  | some v => rfl

theorem convert_withDefaults_eq_ok_iff (h : Conversion.defaultRule t = some rule)
    {discoveries : Nat} {key raw : String} {v : t.Carrier} :
    (withDefaults discoveries).convert t key raw = .ok v ↔ rule raw = some v := by
  rw [convert_withDefaults h]
  cases rule raw with
  | none => simp
  | some v => simp

theorem convert_withDefaults_eq_error_iff (h : Conversion.defaultRule t = some rule)
    {discoveries : Nat} {key raw : String} {e : ConfigError} :
    (withDefaults discoveries).convert t key raw = .error e ↔
      (∀ v, rule raw ≠ some v) ∧ e = .conversionFailed key raw t.typeName := by
  rw [convert_withDefaults h]
  cases rule raw with
  | none => simp [eq_comm]
  | some v => simp

end Defaults

end Registry

namespace Conversion

def cutSign : List Char → Bool × List Char
  | '-' :: rest => (true, rest)
  | '+' :: rest => (false, rest)
  | rest => (false, rest)

def cutMark : List Char → Nat × List Char
  | '0' :: 'x' :: rest => (16, rest)
  | '0' :: 'X' :: rest => (16, rest)
  | '#' :: rest => (16, rest)
  | rest => (10, rest)

def readMarked (t : IntType) (negative : Bool) (base : Nat) (digits : List Char) : Option Int :=
  match digits with
  | [] => none
  | '+' :: _ => none
  | '-' :: _ => none
  | _ => readInteger t base (if negative then '-' :: digits else digits)

theorem integerRule_eq (t : IntType) (raw : String) : integerRule t raw =
    let s := trimList raw.toList
    if s.map Char.toLower = ['m', 'i', 'n'] then some t.min
    else if s.map Char.toLower = ['m', 'a', 'x'] then some t.max
    else readMarked t (cutSign s).1 (cutMark (cutSign s).2).1 (cutMark (cutSign s).2).2 := rfl

theorem cutSign_text {sign : Sign} {rest : List Char} (h : sign = .bare → Unsigned rest) :
    cutSign (sign.text ++ rest) = (decide (sign = .minus), rest) := by
  cases sign with
  | bare =>
    rw [Sign.text, List.nil_append, cutSign]
    · rfl
    · rintro digits rfl
      exact (h rfl '-' rfl).2 rfl
    · rintro digits rfl
      exact (h rfl '+' rfl).1 rfl
  | plus => rfl
  | minus => rfl

theorem cutMark_text {mark : Mark} {rest : List Char} (h : mark = .decimal → Unmarked rest) :
    cutMark (mark.text ++ rest) = (mark.base, rest) := by
  cases mark with
  | decimal =>
    rw [Mark.text, List.nil_append, cutMark]
    · rfl
    · exact fun digits hd => Mark.noConfusion (h rfl .small digits hd)
    · exact fun digits hd => Mark.noConfusion (h rfl .capital digits hd)
    · exact fun digits hd => Mark.noConfusion (h rfl .hash digits hd)
  | small => rfl
  | capital => rfl
  | hash => rfl

theorem readMarked_eq_some_iff {t : IntType} {sign : Sign} {base : Nat} (hb : base ≤ 16)
    {digits : List Char} {v : Int} : readMarked t (decide (sign = .minus)) base digits = some v ↔
      ∃ n, Spells base digits n ∧ sign.apply n = v ∧ (sign = .minus → t.signed = true) ∧
        t.min ≤ v ∧ v ≤ t.max := by
  unfold readMarked
  split
  · apply iff_of_false (Option.some_ne_none v).symm
    rintro ⟨n, hn, -⟩
    exact hn.1 rfl
  · apply iff_of_false (Option.some_ne_none v).symm
    rintro ⟨n, hn, -⟩
    exact (hn.unsigned hb '+' rfl).1 rfl
  · apply iff_of_false (Option.some_ne_none v).symm
    rintro ⟨n, hn, -⟩
    exact (hn.unsigned hb '-' rfl).2 rfl
  · next hplus hminus =>
    have hunsigned : Unsigned digits := by
      intro c hc
      obtain ⟨rest, rfl⟩ := List.head?_eq_some_iff.mp hc
      exact ⟨fun h => hplus rest (h ▸ rfl), fun h => hminus rest (h ▸ rfl)⟩
    cases sign with
    | minus => exact readInteger_sign_eq_some_iff hb .minus fun h => by cases h
    | bare => exact readInteger_sign_eq_some_iff hb .bare fun _ => hunsigned
    | plus =>
      -- The plus sign was dropped, and the digits are read as they stand.
      refine (readInteger_sign_eq_some_iff hb .bare fun _ => hunsigned).trans ?_
      simp [Sign.apply]

theorem integerRule_eq_some_iff {t : IntType} {raw : String} {v : Int}
    (hmin : (trimList raw.toList).map Char.toLower ≠ ['m', 'i', 'n'])
    (hmax : (trimList raw.toList).map Char.toLower ≠ ['m', 'a', 'x']) :
    integerRule t raw = some v ↔ t.Accepts (trimList raw.toList) v := by
  simp only [integerRule_eq, if_neg hmin, if_neg hmax]
  constructor
  · intro h
    obtain ⟨sign, body, hs, hbare⟩ := exists_sign (trimList raw.toList)
    obtain ⟨mark, digits, rfl, hdecimal⟩ := exists_mark body
    rw [hs, cutSign_text hbare, cutMark_text hdecimal] at h
    obtain ⟨n, hn, hv, hrange⟩ := (readMarked_eq_some_iff mark.base_le).mp h
    exact ⟨sign, ⟨mark, digits, n, hs, hn, hv⟩, hrange⟩
  · rintro ⟨sign, ⟨mark, digits, n, hs, hn, hv⟩, hrange⟩
    rw [hs, cutSign_text fun _ => (hn.unsigned mark.base_le).mark_append mark,
      cutMark_text fun _ => hn.unmarked mark.base_le]
    exact (readMarked_eq_some_iff mark.base_le).mpr ⟨n, hn, hv, hrange⟩

theorem integerRule_of_accepts {t : IntType} {s : List Char} {v : Int} (h : t.Accepts s v) :
    integerRule t (String.ofList s) = some v := by
  have ⟨sign, hdenotes, _⟩ := h
  have htrim : trimList (String.ofList s).toList = s := by
    rw [String.toList_ofList]
    exact trimList_of_forall fun c => hdenotes.not_blank
  have hword : ∀ rest, (trimList (String.ofList s).toList).map Char.toLower ≠ 'm' :: rest := by
    intro rest hs
    rw [htrim] at hs
    obtain ⟨c, _, rfl, hc, -⟩ := List.map_eq_cons_iff.mp hs
    exact hdenotes.toLower_ne List.mem_cons_self hc
  rw [integerRule_eq_some_iff (hword _) (hword _), htrim]
  exact h

end Conversion

namespace Registry

open RegistryOf Conversion

/-- An integer type takes the words for its least and its greatest value and otherwise exactly the
texts of its numbers; whatever it refuses is named by the error. Every number of the type is read
back from its text with either base. -/
theorem convert_integer_exact (discoveries : Nat) (n : IntegerName) (key raw : String) :
    let convert (raw : String) : Except ConfigError Int :=
      (withDefaults discoveries).convert (.integer n) key raw
    let s := trimList raw.toList
    let word := s.map Char.toLower
    (word = ['m', 'i', 'n'] → convert raw = .ok n.type.min) ∧
    (word = ['m', 'a', 'x'] → convert raw = .ok n.type.max) ∧
    (word ≠ ['m', 'i', 'n'] → word ≠ ['m', 'a', 'x'] →
      (∀ v, convert raw = .ok v ↔ n.type.Accepts s v) ∧
      ∀ e, convert raw = .error e ↔
        (∀ v, ¬ n.type.Accepts s v) ∧ e = .conversionFailed key raw n.text) ∧
    ∀ v, n.type.min ≤ v → v ≤ n.type.max →
      convert (toString v) = .ok v ∧
      ∀ (mark : Mark) (digits : List Char),
        digits.map Char.toLower = Nat.toDigits mark.base v.natAbs →
          convert (String.ofList ((Sign.of v).text ++ (mark.text ++ digits))) = .ok v := by
  intro convert s word
  have hrule : defaultRule (.integer n) = some (integerRule n.type) := rfl
  have hnumber : ∀ v, n.type.min ≤ v → v ≤ n.type.max → ∀ (mark : Mark) (digits : List Char),
      digits.map Char.toLower = Nat.toDigits mark.base v.natAbs →
        convert (String.ofList ((Sign.of v).text ++ (mark.text ++ digits))) = .ok v := by
    intro v hv hv' mark digits hdigits
    apply (convert_withDefaults_eq_ok_iff hrule).mpr
    exact integerRule_of_accepts (IntType.accepts_of_toDigits hv hv' mark hdigits)
  refine ⟨fun hmin => ?_, fun hmax => ?_, fun hmin hmax => ⟨fun v => ?_, fun e => ?_⟩,
    fun v hv hv' => ⟨?_, hnumber v hv hv'⟩⟩
  · apply (convert_withDefaults_eq_ok_iff hrule).mpr
    exact if_pos hmin
  · have hmin : word ≠ ['m', 'i', 'n'] := by
      rw [hmax]
      decide
    apply (convert_withDefaults_eq_ok_iff hrule).mpr
    exact (if_neg hmin).trans (if_pos hmax)
  · rw [convert_withDefaults_eq_ok_iff hrule]
    exact integerRule_eq_some_iff hmin hmax
  · rw [convert_withDefaults_eq_error_iff hrule]
    exact and_congr_left' (forall_congr' fun v =>
      not_congr (integerRule_eq_some_iff hmin hmax))
  · rw [← Sign.of_text_append_toDigits v]
    exact hnumber v hv hv' .decimal _ (map_toLower_toDigits (by decide) (by decide) v.natAbs)

theorem convert_integer_exact_least :
    let convert (n : IntegerName) (raw : String) : Except ConfigError Int :=
      (withDefaults 0).convert (.integer n) "limit" raw
    convert .i8 " Min " = .ok (-128) ∧ convert .i8 "-0x80" = .ok (-128) ∧
      convert .i8 "-#80" = .ok (-128) ∧ convert .i8 "-128" = .ok (-128) ∧
      convert .i8 "128" = .error (.conversionFailed "limit" "128" "i8") ∧
      convert .u8 "-0" = .error (.conversionFailed "limit" "-0" "u8") := by
  intro convert
  have hrule : ∀ n, defaultRule (.integer n) = some (integerRule n.type) := fun _ => rfl
  obtain ⟨hmin, -, -, htext⟩ := convert_integer_exact 0 .i8 "limit" " Min "
  obtain ⟨hdecimal, hmarked⟩ := htext (-128) (by decide) (by decide)
  refine ⟨hmin (by decide), hmarked .small ['8', '0'] (by decide),
    hmarked .hash ['8', '0'] (by decide), hdecimal, ?_, ?_⟩
  · exact convert_withDefaults (hrule .i8) 0 "limit" "128"
  · exact convert_withDefaults (hrule .u8) 0 "limit" "-0"

end Registry

end LayeredConfig
