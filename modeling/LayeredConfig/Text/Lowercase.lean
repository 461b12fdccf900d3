import LayeredConfig.Text.Ranges
import LayeredConfig.Text.Casing

namespace LayeredConfig.Text

def isCased (c : Char) : Bool := inRanges casedRanges c

def isCaseIgnorable (c : Char) : Bool := inRanges caseIgnorableRanges c

def lowerChar (c : Char) : List Char :=
  if c.toNat < 128 then [c.toLower]
  else if c = '\u0130' then ['i', '\u0307']
  else [(alongRun lowercaseRuns c).getD c]

def casedNeighbour (l : List Char) : Bool :=
  match l.dropWhile isCaseIgnorable with
  | [] => false
  | c :: _ => isCased c

def lowerAfter (before : List Char) : List Char → List Char
  | [] => []
  | c :: rest =>
    (if c = 'Σ' then
      [if casedNeighbour before && !casedNeighbour rest then 'ς' else 'σ']
    else lowerChar c) ++ lowerAfter (c :: before) rest

def lowercase (l : List Char) : List Char := lowerAfter [] l

theorem lowercase_ascii {l : List Char} (h : ∀ c ∈ l, c.toNat < 128) :
    lowercase l = l.map Char.toLower := by
  have go : ∀ before, lowerAfter before l = l.map Char.toLower := by
    induction l with
    | nil => intro before; rfl
    | cons c rest ih =>
      intro before
      have hc := h c List.mem_cons_self
      have hs : c ≠ 'Σ' := by
        rintro rfl
        revert hc
        decide
      simp [lowerAfter, hs, lowerChar, hc, ih (fun d hd => h d (List.mem_cons_of_mem _ hd))]
  exact go []

end LayeredConfig.Text
