import LayeredConfig.Text.Blank
import LayeredConfig.Text.Ranges
import LayeredConfig.Text.Words

namespace LayeredConfig

open LayeredConfig.Text

inductive Look where
  | textStart
  | textEnd
  | lineStart
  | lineEnd
  | wordEdge
  | notWordEdge
deriving DecidableEq, Repr

inductive Pattern where
  | empty
  | char (accepts : Char → Bool)
  | look (l : Look)
  | seq (first second : Pattern)
  | either (first second : Pattern)
  | star (p : Pattern)

namespace Pattern

def isWordChar (c : Char) : Bool := inRanges wordRanges c

def isDigitChar (c : Char) : Bool := inRanges digitRanges c

def fold (c : Char) : Char :=
  if 'A' ≤ c ∧ c ≤ 'Z' then c.toLower else (alongRun foldRuns c).getD c

def caseVariants (c : Char) : List Char :=
  let target := fold c
  let capital := if 'a' ≤ target ∧ target ≤ 'z' then [target.toUpper] else []
  target :: capital ++ foldRuns.filterMap (fun r =>
    let n := (target.toNat : Int) - r.2.2.2
    if (r.1 : Int) ≤ n ∧ n ≤ r.2.1 ∧ (n - r.1) % r.2.2.1 = 0 then some (Char.ofNat n.toNat)
    else none)

structure Place where
  before : List Char
  after : List Char

def atEdge (l : List Char) : Bool :=
  match l with
  | [] => false
  | c :: _ => isWordChar c

def Look.holds : Look → Place → Bool
  | .textStart, p => p.before.isEmpty
  | .textEnd, p => p.after.isEmpty
  | .lineStart, p => p.before.isEmpty || p.before.head? = some '\n'
  | .lineEnd, p => p.after.isEmpty || p.after.head? = some '\n'
  | .wordEdge, p => atEdge p.before != atEdge p.after
  | .notWordEdge, p => atEdge p.before == atEdge p.after

def distinct : List Place → List Place
  | [] => []
  | p :: rest =>
    let others := distinct rest
    if others.any (fun q => q.before.length = p.before.length) then others else p :: others

def closure (step : Place → List Place) : Nat → List Place → List Place
  | 0, reached => reached
  | fuel + 1, reached =>
    let all := distinct (reached ++ reached.flatMap step)
    if all.length = reached.length then reached else closure step fuel all

def ends : Pattern → Place → List Place
  | empty, p => [p]
  | char accepts, p =>
    match p.after with
    | c :: rest => if accepts c then [⟨c :: p.before, rest⟩] else []
    | [] => []
  | look l, p => if Look.holds l p then [p] else []
  | seq a b, p => distinct ((a.ends p).flatMap b.ends)
  | either a b, p => distinct (a.ends p ++ b.ends p)
  | star a, p => closure a.ends (p.after.length + 1) [p]

def occursFrom (p : Pattern) (before : List Char) : List Char → Bool
  | [] => !(p.ends ⟨before, []⟩).isEmpty
  | c :: rest => !(p.ends ⟨before, c :: rest⟩).isEmpty || p.occursFrom (c :: before) rest

def occursIn (p : Pattern) (s : String) : Bool := p.occursFrom [] s.toList

def times (p : Pattern) : Nat → Pattern
  | 0 => empty
  | n + 1 => seq p (p.times n)

def upTo (p : Pattern) : Nat → Pattern
  | 0 => empty
  | n + 1 => either empty (seq p (p.upTo n))

class Reader where
  read : String → Except String (String → Bool)

end Pattern

end LayeredConfig
