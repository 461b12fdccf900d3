import LayeredConfig.Proofs.Calendars
import LayeredConfig.Proofs.Numerals
import LayeredConfig.Time.Reading

namespace LayeredConfig.Time

open LayeredConfig.Text LayeredConfig.Number

def Apart (s : List Char) : Prop := ∀ c ∈ s.head?, isTimeDigit c = false

theorem apart_cons {c : Char} (h : isTimeDigit c = false) (s : List Char) : Apart (c :: s) := by
  rintro _ ⟨⟩
  exact h

theorem isBlank_of_isTimeDigit {c : Char} (h : isTimeDigit c = true) : isBlank c = false :=
  isBlank_of_hexValue? (Option.filter_eq_some_iff.mp (digitValue?_of_isDigit h)).1

theorem skipBlanks_cons {c : Char} (h : isBlank c = false) (s : List Char) :
    skipBlanks (c :: s) = c :: s := by
  apply dropWhile_of_head?
  rintro _ ⟨⟩
  exact h

section Padded

variable {width n : Nat}

theorem toList_padded : (padded width n).toList =
    List.replicate (width - (Nat.toDigits 10 n).length) '0' ++ Nat.toDigits 10 n :=
  String.toList_ofList

theorem isTimeDigit_of_mem_padded {c : Char} (h : c ∈ (padded width n).toList) :
    isTimeDigit c = true := by
  rw [toList_padded, List.mem_append, List.mem_replicate] at h
  rcases h with ⟨-, rfl⟩ | h
  · decide
  · exact Nat.isDigit_of_mem_toDigits (by decide) (by decide) h

theorem digitsValue?_padded : digitsValue? 10 (padded width n).toList = some n := by
  have hzeros : ∀ k, appendDigits? 10 0 (List.replicate k '0') = some 0 := by
    intro k
    induction k with
    | zero => rfl
    | succ k ih => exact ih
  have hdigits := digitsValue?_toDigits n
  rw [digitsValue?, if_neg Nat.toDigits_ne_nil] at hdigits
  rw [toList_padded, digitsValue?, if_neg (by simp), appendDigits?_append, hzeros, Option.bind_some,
    hdigits]

theorem length_padded (hwidth : 0 < width) (hn : n < 10 ^ width) :
    (padded width n).toList.length = width := by
  have := Nat.toDigits_length 10 n width hwidth hn
  rw [toList_padded, List.length_append, List.length_replicate]
  omega

theorem number?_padded {limit : Nat} {rest : List Char}
    (hlimit : (padded width n).toList.length ≤ limit)
    (hrest : Apart rest) :
    number? limit ((padded width n).toList ++ rest) = some (n, rest) := by
  have hdigits : (((padded width n).toList ++ rest).take limit).takeWhile isTimeDigit =
      (padded width n).toList := by
    rw [List.take_append, List.take_of_length_le hlimit]
    apply takeWhile_append_of_head? (fun c hc => isTimeDigit_of_mem_padded hc)
    intro c hc
    apply hrest
    rw [List.head?_take] at hc
    split at hc
    · cases hc
    · exact hc
  simp only [number?, hdigits, digitsValue?_padded, List.drop_left, Option.map_some]

theorem exists_padded (width n : Nat) :
    ∃ c tail, (padded width n).toList = c :: tail ∧ isTimeDigit c = true := by
  obtain ⟨c, tail, hcons⟩ : ∃ c tail, (padded width n).toList = c :: tail := by
    apply List.exists_cons_of_ne_nil
    rw [toList_padded]
    simp
  exact ⟨c, tail, hcons, isTimeDigit_of_mem_padded (hcons ▸ List.mem_cons_self)⟩

end Padded

theorem skipBlanks_padded (width n : Nat) (rest : List Char) :
    skipBlanks ((padded width n).toList ++ rest) = (padded width n).toList ++ rest := by
  obtain ⟨c, tail, hcons, hc⟩ := exists_padded width n
  rw [hcons, List.cons_append, skipBlanks_cons (isBlank_of_isTimeDigit hc)]

theorem field?_padded {n : Nat} {rest : List Char} (hn : n < 100)
    (hrest : Apart rest) :
    field? ((padded 2 n).toList ++ rest) = some (n, rest) := by
  rw [field?, skipBlanks_padded]
  exact number?_padded (length_padded (by decide) hn).le hrest

theorem literal?_cons {c : Char} (hc : isBlank c = false) (s : List Char) :
    literal? c (c :: s) = some s := by
  rw [literal?, skipBlanks_cons hc]
  simp [stripStart?]

theorem year?_yearText (y : Int) {rest : List Char}
    (hrest : Apart rest) :
    year? ((yearText y).toList ++ rest) = some (y, rest) := by
  have hlength : ∀ n, (padded 4 n).toList.length ≤ ((padded 4 n).toList ++ rest).length :=
    fun n => by rw [List.length_append]; omega
  rw [yearText]
  split
  · next h =>
    have hfour : (padded 4 y.toNat).toList.length = 4 := length_padded (by decide) (by omega)
    have hy : (y.toNat : Int) = y := Int.toNat_of_nonneg h.1
    obtain ⟨c, tail, hcons, hc⟩ := exists_padded 4 y.toNat
    rw [year?, skipBlanks_padded]
    split
    · next heq =>
      rw [hcons] at heq
      cases heq
      cases hc
    · next heq =>
      rw [hcons] at heq
      cases heq
      cases hc
    · rw [number?_padded hfour.le hrest, Option.map_some, hy]
  · split
    · next hneg =>
      have hy : -(y.natAbs : Int) = y := by omega
      have htext : ("-" ++ padded 4 y.natAbs).toList ++ rest =
          '-' :: ((padded 4 y.natAbs).toList ++ rest) := by simp
      rw [htext, year?, skipBlanks_cons (by decide)]
      simp only [number?_padded (hlength y.natAbs) hrest, Option.map_some, hy]
    · next hneg =>
      have hy : (y.natAbs : Int) = y := by omega
      have htext : ("+" ++ padded 4 y.natAbs).toList ++ rest =
          '+' :: ((padded 4 y.natAbs).toList ++ rest) := by simp
      rw [htext, year?, skipBlanks_cons (by decide)]
      simp only [number?_padded (hlength y.natAbs) hrest, Option.map_some, hy]

theorem fraction?_padded {width n : Nat} {rest : List Char} (hwidth : 0 < width) (hnine : width ≤ 9)
    (hn : n < 10 ^ width) (hrest : Apart rest) :
    fraction? (("." ++ padded width n).toList ++ rest) = some (n * 10 ^ (9 - width), rest) := by
  have hlength := length_padded hwidth hn
  have htext : ("." ++ padded width n).toList ++ rest =
      '.' :: ((padded width n).toList ++ rest) := by simp
  have hdrop : rest.dropWhile isTimeDigit = rest := dropWhile_of_head? hrest
  rw [htext, fraction?, number?_padded (hlength.trans_le hnine) hrest]
  simp [hlength, hdrop]

theorem fraction?_fractionText {n : Nat} (hn : n < 1000000000) (s : List Char) :
    fraction? ((fractionText n).toList ++ 'Z' :: s) = some (n, 'Z' :: s) := by
  have hrest : Apart ('Z' :: s) := apart_cons (by decide) s
  rw [fractionText]
  repeat' split
  · next h =>
    subst h
    rfl
  all_goals
    rw [fraction?_padded (by decide) (by decide) (by omega) hrest]
    congr 2
    omega

theorem apart_fractionText (n : Nat) (s : List Char) :
    Apart ((fractionText n).toList ++ 'Z' :: s) := by
  have hpoint : ∀ text : String, Apart (("." ++ text).toList ++ 'Z' :: s) := by
    intro text
    rw [String.toList_append]
    exact apart_cons (by decide) _
  rw [fractionText]
  repeat' split
  · exact apart_cons (by decide) s
  all_goals exact hpoint _

theorem readInstantList_fields {year : Int} {month day hour minute second nanos : Nat}
    (hmonth : month < 100) (hday : day < 100) (hhour : hour < 100) (hminute : minute < 100)
    (hsecond : second < 100) (hnanos : nanos < 1000000000) :
    readInstantList ((yearText year).toList ++ '-' :: ((padded 2 month).toList ++
      '-' :: ((padded 2 day).toList ++ 'T' :: ((padded 2 hour).toList ++
      ':' :: ((padded 2 minute).toList ++ ':' :: ((padded 2 second).toList ++
      ((fractionText nanos).toList ++ ['Z']))))))) =
    Instant.ofParts? ⟨year, month, day⟩ hour minute second nanos 0 := by
  have hdash := apart_cons (show isTimeDigit '-' = false by decide)
  have hcolon := apart_cons (show isTimeDigit ':' = false by decide)
  have hletter := apart_cons (show isTimeDigit 'T' = false by decide)
  have hafterDash := literal?_cons (show isBlank '-' = false by decide)
  have hafterColon := literal?_cons (show isBlank ':' = false by decide)
  have hoffset : offset? (skipBlanks ['Z']) = some (0, []) := by decide
  -- One step at a time: `simp` would first go through all that is left to read behind each.
  have hbind : ∀ {α β : Type} (a : α) (f : α → Option β), some a >>= f = f a := fun _ _ => rfl
  rw [readInstantList, year?_yearText _ (hdash _), hbind]
  dsimp only
  rw [hafterDash, hbind, field?_padded hmonth (hdash _), hbind]
  dsimp only
  rw [hafterDash, hbind, field?_padded hday (hletter _), hbind]
  change some ((padded 2 hour).toList ++ _) >>= _ = _
  rw [hbind, field?_padded hhour (hcolon _), hbind]
  dsimp only
  rw [hafterColon, hbind, field?_padded hminute (hcolon _), hbind]
  dsimp only
  rw [hafterColon, hbind, field?_padded hsecond (apart_fractionText _ []), hbind]
  dsimp only
  rw [fraction?_fractionText hnanos, hbind]
  dsimp only
  rw [hoffset, hbind]
  exact if_pos rfl

namespace Instant

def ofDay (t : Instant) : Nat := (t.seconds - t.seconds.fdiv 86400 * 86400).toNat

def writtenSecond (t : Instant) : Nat := t.ofDay % 60 + if 1000000000 ≤ t.nanos then 1 else 0

def writtenNanos (t : Instant) : Nat :=
  if 1000000000 ≤ t.nanos then t.nanos - 1000000000 else t.nanos

variable {t : Instant}

theorem ofDay_lt (t : Instant) : t.ofDay < 86400 := by
  rw [ofDay, Int.fdiv_eq_ediv_of_nonneg _ (by decide)]
  omega

theorem toDays_date (t : Instant) : t.date.toDays * 86400 + t.ofDay = t.seconds := by
  rw [date, Date.toDays_ofDays, ofDay, Int.fdiv_eq_ediv_of_nonneg _ (by decide)]
  omega

theorem month_day_lt (t : Instant) : t.date.month < 100 ∧ t.date.day < 100 := by
  have hlength : ∀ y m, daysInMonth y m ≤ 31 := by
    intro y m
    unfold daysInMonth
    repeat' split
    all_goals omega
  have hvalid := Date.isValid_ofDays (t.seconds.fdiv 86400)
  rw [← date] at hvalid
  simp only [Date.isValid, Bool.and_eq_true, decide_eq_true_eq] at hvalid
  have := hlength t.date.year t.date.month
  omega

theorem Proper.written_lt (h : t.Proper) :
    t.writtenSecond ≤ 60 ∧ t.writtenNanos < 1000000000 := by
  have hnanos := h.nanos
  unfold writtenSecond writtenNanos
  split <;> omega

theorem toList_zuluText (t : Instant) : t.zuluText.toList = (yearText t.date.year).toList ++
    '-' :: ((padded 2 t.date.month).toList ++ '-' :: ((padded 2 t.date.day).toList ++
    'T' :: ((padded 2 (t.ofDay / 3600)).toList ++ ':' :: ((padded 2 (t.ofDay / 60 % 60)).toList ++
    ':' :: ((padded 2 t.writtenSecond).toList ++ ((fractionText t.writtenNanos).toList ++
    ['Z'])))))) := by
  have hdash : "-".toList = ['-'] := rfl
  have hcolon : ":".toList = [':'] := rfl
  have hday : "T".toList = ['T'] := rfl
  have hzone : "Z".toList = ['Z'] := rfl
  simp only [zuluText, timeText, dateText, String.toList_append, List.append_assoc, hdash, hcolon,
    hday, hzone, List.cons_append, List.nil_append, ofDay, writtenSecond,
    writtenNanos]

theorem Proper.ofParts? (h : t.Proper) :
    Instant.ofParts? t.date (t.ofDay / 3600) (t.ofDay / 60 % 60) t.writtenSecond t.writtenNanos 0 =
      some t := by
  -- The second behind the last one of a minute is read as a leap second.
  have hvalid : t.date.isValid = true := Date.isValid_ofDays _
  have hlt := t.ofDay_lt
  have hdays := t.toDays_date
  have hwritten := h.written_lt
  rw [Instant.ofParts?, if_pos ⟨hvalid, h.year.1, h.year.2, by omega, by omega, hwritten.1,
    by decide, by decide⟩]
  have hnanos := h.nanos
  have hmid : ((t.ofDay / 3600 * 3600 + t.ofDay / 60 % 60 * 60 +
      if t.writtenSecond = 60 then 59 else t.writtenSecond : Nat) : Int) = t.ofDay := by
    unfold writtenSecond
    split <;> split at * <;> omega
  have hnanos' : (t.writtenNanos + if t.writtenSecond = 60 then 1000000000 else 0) = t.nanos := by
    unfold writtenNanos writtenSecond
    split <;> split <;> omega
  dsimp only
  rw [hmid, hnanos', Int.sub_zero, hdays]

theorem readInstant_zuluText (h : t.Proper) : readInstant t.zuluText = some t := by
  obtain ⟨hmonth, hday⟩ := t.month_day_lt
  have hlt := t.ofDay_lt
  have hwritten := h.written_lt
  rw [readInstant, toList_zuluText, readInstantList_fields hmonth hday (by omega) (by omega)
    (by omega) hwritten.2]
  exact h.ofParts?

end Instant

instance : LawfulReader := ⟨fun _ => Instant.readInstant_zuluText⟩

end LayeredConfig.Time
