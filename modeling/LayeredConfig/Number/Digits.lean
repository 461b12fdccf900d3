namespace LayeredConfig.Number

def hexValue? (c : Char) : Option Nat :=
  if '0' ≤ c ∧ c ≤ '9' then some (c.toNat - '0'.toNat)
  else if 'a' ≤ c ∧ c ≤ 'f' then some (c.toNat - 'a'.toNat + 10)
  else if 'A' ≤ c ∧ c ≤ 'F' then some (c.toNat - 'A'.toNat + 10)
  else none

def digitValue? (base : Nat) (c : Char) : Option Nat :=
  (hexValue? c).filter (· < base)

def isDigit (base : Nat) (c : Char) : Bool := (digitValue? base c).isSome

def appendDigits? (base : Nat) : Nat → List Char → Option Nat
  | n, [] => some n
  | n, c :: rest => (digitValue? base c).bind (fun d => appendDigits? base (n * base + d) rest)

def digitsValue? (base : Nat) (s : List Char) : Option Nat :=
  if s = [] then none else appendDigits? base 0 s

theorem appendDigits?_isSome_iff {base n : Nat} {s : List Char} :
    (appendDigits? base n s).isSome ↔ ∀ c ∈ s, isDigit base c = true := by
  induction s generalizing n with
  | nil => simp [appendDigits?]
  | cons c rest ih =>
    cases hc : digitValue? base c with
    | none => simp [appendDigits?, hc, isDigit]
    | some d => simp [appendDigits?, hc, ih, isDigit]

theorem digitsValue?_isSome_iff {base : Nat} {s : List Char} :
    (digitsValue? base s).isSome ↔ s ≠ [] ∧ ∀ c ∈ s, isDigit base c = true := by
  by_cases h : s = []
  · simp [digitsValue?, h]
  · simp [digitsValue?, h, appendDigits?_isSome_iff]

theorem appendDigits?_append {base n : Nat} (s t : List Char) :
    appendDigits? base n (s ++ t) = (appendDigits? base n s).bind (appendDigits? base · t) := by
  induction s generalizing n with
  | nil => simp [appendDigits?]
  | cons c rest ih =>
    cases hc : digitValue? base c with
    | none => simp [appendDigits?, hc]
    | some d => simp [appendDigits?, hc, ih]

theorem digitValue?_of_isDigit {c : Char} (h : c.isDigit = true) :
    digitValue? 10 c = some (c.toNat - '0'.toNat) := by
  have hbounds : 48 ≤ c.toNat ∧ c.toNat ≤ 57 := by
    simpa [Char.isDigit, UInt32.le_iff_toNat_le] using h
  have hdigit : '0' ≤ c ∧ c ≤ '9' := hbounds
  have hzero : '0'.toNat = 48 := rfl
  rw [digitValue?, hexValue?, if_pos hdigit, Option.filter_some_pos]
  simp only [decide_eq_true_eq]
  omega

theorem appendDigits?_eq_ofDigitChars {n : Nat} {s : List Char} (h : ∀ c ∈ s, c.isDigit = true) :
    appendDigits? 10 n s = some (Nat.ofDigitChars 10 s n) := by
  induction s generalizing n with
  | nil => rfl
  | cons c rest ih =>
    obtain ⟨hc, hrest⟩ := List.forall_mem_cons.1 h
    rw [appendDigits?, digitValue?_of_isDigit hc, Option.bind_some, ih hrest,
      Nat.ofDigitChars_cons, Nat.mul_comm]

theorem isDigit_of_mem_toString {n : Nat} {c : Char} (h : c ∈ (toString n).toList) :
    c.isDigit = true := by
  rw [Nat.toString_eq_ofList_toDigits, String.toList_ofList] at h
  exact Nat.isDigit_of_mem_toDigits (by decide) (by decide) h

theorem toString_toList_ne_nil (n : Nat) : (toString n).toList ≠ [] := by
  rw [Nat.toString_eq_ofList_toDigits, String.toList_ofList]
  exact Nat.toDigits_ne_nil

theorem digitsValue?_toString (n : Nat) : digitsValue? 10 (toString n).toList = some n := by
  rw [digitsValue?, if_neg (toString_toList_ne_nil n),
    appendDigits?_eq_ofDigitChars fun c => isDigit_of_mem_toString,
    Nat.toString_eq_ofList_toDigits, String.toList_ofList, Nat.ofDigitChars_ten_toDigits]

theorem toString_injective {m n : Nat} (h : toString m = toString n) : m = n := by
  have hm := digitsValue?_toString m
  rw [h, digitsValue?_toString] at hm
  exact (Option.some.inj hm).symm

end LayeredConfig.Number
