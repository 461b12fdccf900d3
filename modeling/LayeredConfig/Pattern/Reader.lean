import LayeredConfig.Number.Digits
import LayeredConfig.Pattern.Basic

/-!
Reading patterns: characters, classes, groups, alternatives and repetitions. A repetition needs
something to repeat, and a group or a class an end; looking around and referring back are not part
of the notation.
-/

namespace LayeredConfig.Pattern

open LayeredConfig.Text LayeredConfig.Number

structure Switches where
  ignoreCase : Bool
  manyLines : Bool
  dotIsAll : Bool
  spaced : Bool

def Switches.plain : Switches := ⟨false, false, false, false⟩

abbrev CharSet := Char → Bool

def forCase (f : Switches) (set : CharSet) : CharSet :=
  if f.ignoreCase then fun c => set c || (caseVariants c).any set else set

def letterClass? : Char → Option CharSet
  | 'd' => some isDigitChar
  | 'D' => some (fun c => !isDigitChar c)
  | 'w' => some isWordChar
  | 'W' => some (fun c => !isWordChar c)
  | 's' => some isBlank
  | 'S' => some (fun c => !isBlank c)
  | _ => none

def escapedChar? (c : Char) : Option Char :=
  match c with
  | 't' => some '\t'
  | 'n' => some '\n'
  | 'r' => some '\r'
  | 'f' => some '\x0c'
  | 'v' => some '\x0b'
  | 'a' => some '\x07'
  | _ =>
    if c.toNat < 128 ∧ 0x20 < c.toNat ∧ c.toNat ≠ 0x7F ∧ ¬ c.isAlphanum ∧ c ≠ '<' ∧ c ≠ '>'
    then some c else none

def charOfDigits? (digits : List Char) : Option Char :=
  (digitsValue? 16 digits).bind (fun n =>
    if h : n.isValidChar then some (Char.ofNatAux n h) else none)

def codePoint? (width : Nat) (s : List Char) : Option (Char × List Char) :=
  match s with
  | '\x7b' :: rest =>
    match rest.dropWhile (· ≠ '\x7d') with
    | _ :: more => (charOfDigits? (rest.takeWhile (· ≠ '\x7d'))).map (fun c => (c, more))
    | [] => none
  | _ =>
    if (s.take width).length = width then
      (charOfDigits? (s.take width)).map (fun c => (c, s.drop width))
    else none

def escape? (s : List Char) : Option (Char × List Char) :=
  match s with
  | 'x' :: rest => codePoint? 2 rest
  | 'u' :: rest => codePoint? 4 rest
  | 'U' :: rest => codePoint? 8 rest
  | c :: rest => (escapedChar? c).map (fun d => (d, rest))
  | [] => none

def classChar? (s : List Char) : Option (Char × List Char) :=
  match s with
  | '\\' :: rest => escape? rest
  | c :: rest => some (c, rest)
  | [] => none

def namedClass? (name : List Char) : Option CharSet :=
  match String.ofList name with
  | "alnum" => some (fun c => c.isAlphanum)
  | "alpha" => some (fun c => c.isAlpha)
  | "ascii" => some (fun c => c.toNat < 128)
  | "blank" => some (fun c => c = ' ' || c = '\t')
  | "cntrl" => some (fun c => c.toNat < 32 || c.toNat = 127)
  | "digit" => some (fun c => c.isDigit)
  | "graph" => some (fun c => 32 < c.toNat && c.toNat < 127)
  | "lower" => some (fun c => c.isLower)
  | "print" => some (fun c => 32 ≤ c.toNat && c.toNat < 127)
  | "punct" => some (fun c => 32 < c.toNat && c.toNat < 127 && !c.isAlphanum)
  | "space" => some (fun c => c = ' ' || (9 ≤ c.toNat && c.toNat ≤ 13))
  | "upper" => some (fun c => c.isUpper)
  | "word" => some (fun c => c.isAlphanum || c = '_')
  | "xdigit" => some (fun c => isDigit 16 c)
  | _ => none

def bracketedName? (s : List Char) : Option (CharSet × List Char) :=
  match s with
  | ':' :: rest =>
    let (negated, rest) :=
      match rest with
      | '^' :: more => (true, more)
      | _ => (false, rest)
    match rest.dropWhile Char.isAlpha with
    | ':' :: ']' :: more =>
      (namedClass? (rest.takeWhile Char.isAlpha)).map
        (fun set => (if negated then fun c => !set c else set, more))
    | _ => none
  | _ => none

def leadingMembers (s : List Char) : CharSet × List Char :=
  match s with
  | ']' :: rest => (fun c => c = ']', rest)
  | '-' :: rest => (fun c => c = '-', rest)
  | _ => (fun _ => false, s)

def lettered? (s : List Char) : Option (CharSet × List Char) :=
  match s with
  | '\\' :: c :: rest => (letterClass? c).map (fun set => (set, rest))
  | _ => none

def range? (s : List Char) : Option (CharSet × List Char) :=
  (classChar? s).bind (fun low =>
    match low.2 with
    | '-' :: ']' :: _ => some (fun c => c = low.1, low.2)
    | '-' :: more =>
      (classChar? more).bind (fun high =>
        if low.1 ≤ high.1 then some (fun c => low.1 ≤ c && c ≤ high.1, high.2) else none)
    | _ => some (fun c => c = low.1, low.2))

def classItems (f : Switches) : Nat → CharSet → List Char → Option (CharSet × List Char)
  -- The inside of a class, up to its closing bracket. Classes may stand in classes, and two
  -- ampersands leave only what is on both sides.
  | 0, _, _ => none
  | fuel + 1, members, s =>
    match s with
    | [] => none
    | ']' :: rest => some (members, rest)
    | '&' :: '&' :: rest =>
      (classItems f fuel (fun _ => false) rest).map (fun r => (fun c => members c && r.1 c, r.2))
    | '[' :: rest =>
      match bracketedName? rest with
      | some (set, rest) => classItems f fuel (fun c => members c || set c) rest
      | none =>
        let (negated, rest) :=
          match rest with
          | '^' :: more => (true, more)
          | _ => (false, rest)
        let (leading, rest) := leadingMembers rest
        (classItems f fuel leading rest).bind (fun inner =>
          let set := forCase f inner.1
          classItems f fuel (fun c => members c || (if negated then !set c else set c)) inner.2)
    | _ =>
      match lettered? s with
      | some (set, rest) => classItems f fuel (fun c => members c || set c) rest
      | none =>
        (range? s).bind (fun r => classItems f fuel (fun c => members c || r.1 c) r.2)

def class? (f : Switches) (s : List Char) : Option (Pattern × List Char) :=
  let (negated, s) :=
    match s with
    | '^' :: rest => (true, rest)
    | _ => (false, s)
  let (leading, s) := leadingMembers s
  (classItems f (s.length + 1) leading s).map (fun r =>
    let set := forCase f r.1
    (char (if negated then fun c => !set c else set), r.2))

structure Repetition where
  least : Nat
  limit : Option Nat

def counted (p : Pattern) (r : Repetition) : Option Pattern :=
  match r.limit with
  | none => some (seq (p.times r.least) (star p))
  | some limit =>
    if r.least ≤ limit then some (seq (p.times r.least) (p.upTo (limit - r.least))) else none

def isCountDigit (c : Char) : Bool := '0' ≤ c && c ≤ '9'

def count? (s : List Char) : Option (Nat × List Char) :=
  (digitsValue? 10 (s.takeWhile isCountDigit)).map (fun n => (n, s.dropWhile isCountDigit))

def braces? (s : List Char) : Option (Repetition × List Char) :=
  (count? s).bind (fun least =>
    match least.2 with
    | '\x7d' :: rest => some (⟨least.1, some least.1⟩, rest)
    | ',' :: '\x7d' :: rest => some (⟨least.1, none⟩, rest)
    | ',' :: rest =>
      (count? rest).bind (fun limit =>
        match limit.2 with
        | '\x7d' :: rest => some (⟨least.1, some limit.1⟩, rest)
        | _ => none)
    | _ => none)

def dropLazy (s : List Char) : List Char :=
  -- A mark for taking as little as possible changes nothing about where a pattern occurs.
  match s with
  | '?' :: rest => rest
  | _ => s

def repeated : Nat → Pattern → List Char → Option (Pattern × List Char)
  | 0, _, _ => none
  | fuel + 1, p, s =>
    match s with
    | '*' :: rest => repeated fuel (star p) (dropLazy rest)
    | '+' :: rest => repeated fuel (seq p (star p)) (dropLazy rest)
    | '?' :: rest => repeated fuel (either empty p) (dropLazy rest)
    | '\x7b' :: rest =>
      (braces? rest).bind (fun r =>
        (counted p r.1).bind (fun p => repeated fuel p (dropLazy r.2)))
    | _ => some (p, s)

def switches? (on : Bool) (f : Switches) : List Char → Option (Switches × List Char)
  | 'i' :: rest => switches? on { f with ignoreCase := on } rest
  | 'm' :: rest => switches? on { f with manyLines := on } rest
  | 's' :: rest => switches? on { f with dotIsAll := on } rest
  | 'x' :: rest => switches? on { f with spaced := on } rest
  | 'U' :: rest => switches? on f rest
  | 'R' :: rest => switches? on f rest
  | 'u' :: rest => switches? on f rest
  | '-' :: rest =>
    if on then
      match rest with
      | ')' :: _ => none
      | ':' :: _ => none
      | _ => switches? false f rest
    else none
  | ')' :: rest => some (f, ')' :: rest)
  | ':' :: rest => some (f, ':' :: rest)
  | _ => none

def isNameChar (c : Char) : Bool :=
  c.isAlphanum || c = '_' || c = '.' || c = '[' || c = ']' || 128 ≤ c.toNat

def groupName? (s : List Char) : Option (List Char) :=
  match s.takeWhile isNameChar with
  | [] => none
  | first :: _ =>
    if first.isAlpha || first = '_' || 128 ≤ first.toNat then
      match s.dropWhile isNameChar with
      | '>' :: rest => some rest
      | _ => none
    else none

inductive GroupStart where
  | inside (f : Switches) (rest : List Char)
  | onwards (f : Switches) (rest : List Char)

def groupStart? (f : Switches) (s : List Char) : Option GroupStart :=
  match s with
  | '?' :: 'P' :: '<' :: rest => (groupName? rest).map (.inside f)
  | '?' :: '<' :: rest => (groupName? rest).map (.inside f)
  | '?' :: ':' :: rest => some (.inside f rest)
  | '?' :: ')' :: _ => none
  | '?' :: rest =>
    match switches? true f rest with
    | some (f, ':' :: rest) => some (.inside f rest)
    | some (f, ')' :: rest) => some (.onwards f rest)
    | _ => none
  | rest => some (.inside f rest)

def oneChar (f : Switches) (d : Char) : Pattern := char (forCase f (fun c => c = d))

def dot (f : Switches) : Pattern := char (fun c => f.dotIsAll || c ≠ '\n')

def escapedAtom? (f : Switches) (s : List Char) : Option (Pattern × List Char) :=
  match s with
  | 'b' :: rest => some (look .wordEdge, rest)
  | 'B' :: rest => some (look .notWordEdge, rest)
  | 'A' :: rest => some (look .textStart, rest)
  | 'z' :: rest => some (look .textEnd, rest)
  | c :: rest =>
    match letterClass? c with
    | some set => some (char set, rest)
    | none => (escape? s).map (fun r => (oneChar f r.1, r.2))
  | [] => none

def start (f : Switches) : Pattern := look (if f.manyLines then .lineStart else .textStart)

def finish (f : Switches) : Pattern := look (if f.manyLines then .lineEnd else .textEnd)

def skipSpaced (f : Switches) : Nat → List Char → List Char
  | 0, s => s
  | fuel + 1, s =>
    if f.spaced then
      match s with
      | '#' :: rest => skipSpaced f fuel (rest.dropWhile (· ≠ '\n'))
      | c :: rest => if isBlank c then skipSpaced f fuel rest else s
      | [] => []
    else s

def body (f : Switches) : Nat → Option Pattern → Pattern → List Char →
    Option (Pattern × List Char)
  -- Alternatives up to the end of the group. What was read of the current one, and the ones before
  -- it, are handed on.
  | 0, _, _, _ => none
  | fuel + 1, before, current, s =>
    let close := fun (p : Pattern) =>
      match before with
      | none => p
      | some q => either q p
    let next := fun (r : Pattern × List Char) =>
      (repeated (r.2.length + 1) r.1 (skipSpaced f r.2.length r.2)).bind
        (fun r => body f fuel before (seq current r.1) r.2)
    match skipSpaced f s.length s with
    | [] => some (close current, [])
    | ')' :: rest => some (close current, ')' :: rest)
    | '|' :: rest => body f fuel (some (close current)) empty rest
    | '(' :: rest =>
      match groupStart? f rest with
      | none => none
      | some (.onwards f rest) =>
        match rest with
        | '*' :: _ | '+' :: _ | '?' :: _ | '\x7b' :: _ => none
        | _ => body f fuel before current rest
      | some (.inside f rest) =>
        match body f fuel none empty rest with
        | some (p, ')' :: rest) => next (p, rest)
        | _ => none
    | '[' :: rest => (class? f rest).bind next
    | '\\' :: rest => (escapedAtom? f rest).bind next
    | '.' :: rest => next (dot f, rest)
    | '^' :: rest => next (start f, rest)
    | '$' :: rest => next (finish f, rest)
    | '*' :: _ | '+' :: _ | '?' :: _ | '\x7b' :: _ => none
    | c :: rest => next (oneChar f c, rest)

def read (s : String) : Option Pattern :=
  match body .plain (s.toList.length + 1) none empty s.toList with
  | some (p, []) => some p
  | _ => none

instance : Reader where
  read s :=
    match read s with
    | some p => .ok p.occursIn
    | none => .error "regex parse error"

end LayeredConfig.Pattern
