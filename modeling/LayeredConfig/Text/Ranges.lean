namespace LayeredConfig.Text

def inRanges (ranges : List (Nat × Nat)) (c : Char) : Bool :=
  ranges.any (fun r => r.1 ≤ c.toNat && c.toNat ≤ r.2)

def alongRun (runs : List (Nat × Nat × Nat × Int)) (c : Char) : Option Char :=
  (runs.find? (fun r =>
    r.1 ≤ c.toNat && c.toNat ≤ r.2.1 && (c.toNat - r.1) % r.2.2.1 == 0)).map
    (fun r => Char.ofNat ((c.toNat : Int) + r.2.2.2).toNat)

end LayeredConfig.Text
