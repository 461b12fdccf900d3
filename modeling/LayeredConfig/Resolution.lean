import LayeredConfig.Source.Basic

/-!
Resolution: the value of a key among many sources. Sources are ranked by their effective ordinals,
and of those with the same ordinal the later one counts more; the present value of the highest one
wins. All keys are enumerated from the scannable sources, and each of them is decided by all
sources.
-/

namespace LayeredConfig

namespace Resolution

def byOrdinal {α : Type} (ranked : List (Int × α)) : List (Int × α) :=
  ranked.mergeSort (fun a b => a.1 ≤ b.1)

def measured : List Source → Reading (List (Int × Source))
  | [] => pure []
  | s :: rest => do return (← s.ordinal, s) :: (← measured rest)

def rank (sources : List Source) : Reading (List Source) := do
  return (byOrdinal (← measured sources)).map (·.2)

def override (result candidate : Option Property) : Option Property :=
  (candidate.filter Property.isPresent).or result

def resolveFrom (key : String) (result : Option Property) :
    List Source → Reading (Option Property)
  | [] => pure result
  | s :: rest => do resolveFrom key (override result (← s.get key)) rest

def resolve (ranked : List Source) (key : String) : Reading (Option Property) :=
  resolveFrom key none ranked

def scan : List Source → Reading (List (Source × Option (Table Property)))
  | [] => pure []
  | s :: rest => do
    let properties ← if s.scannable then some <$> s.properties else pure none
    return (s, properties) :: (← scan rest)

def scannedKeys (scanned : List (Source × Option (Table Property))) : List String :=
  (Table.ofList (scanned.flatMap (fun e =>
    match e.2 with
    | none => []
    | some properties =>
      (properties.entries.filter (fun p => p.2.isPresent)).map (fun p => (p.1, ()))))).keys

def decideFrom (key : String) (result : Option Property) :
    List (Source × Option (Table Property)) → Reading (Option Property)
  | [] => pure result
  | (_, some properties) :: rest => decideFrom key (override result (properties.get? key)) rest
  | (s, none) :: rest => do decideFrom key (override result (← s.get key)) rest

def decideAll (scanned : List (Source × Option (Table Property))) :
    List String → Reading (List (String × Property))
  | [] => pure []
  | key :: rest => do
    let decided ← decideFrom key none scanned
    let others ← decideAll scanned rest
    return match decided with
      | some p => (key, p) :: others
      | none => others

def resolveAll (ranked : List Source) : Reading (Table Property) := do
  let scanned ← scan ranked
  return Table.ofList (← decideAll scanned (scannedKeys scanned))

end Resolution

end LayeredConfig
