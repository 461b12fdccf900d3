import LayeredConfig.Toml.Value

namespace LayeredConfig.Toml

inductive Origin where
  | header
  | step
  | dotted
deriving DecidableEq, Repr

mutual

inductive Item where
  | value (v : Value)
  | elements (tables : List Branch)
  | table (b : Branch)

inductive Branch where
  | mk (origin : Origin) (items : List (String × Item))

end

namespace Branch

def origin : Branch → Origin
  | mk o _ => o

def items : Branch → List (String × Item)
  | mk _ l => l

def new (o : Origin) : Branch := mk o []

instance : Inhabited Branch := ⟨new .header⟩

def find? (b : Branch) (k : String) : Option Item := (b.items.find? (·.1 = k)).map (·.2)

def setIn (k : String) (i : Item) : List (String × Item) → List (String × Item)
  | [] => [(k, i)]
  | e :: rest => if e.1 = k then (k, i) :: rest else e :: setIn k i rest

def set (b : Branch) (k : String) (i : Item) : Branch := mk b.origin (setIn k i b.items)

def remove (b : Branch) (k : String) : Branch := mk b.origin (b.items.filter (·.1 ≠ k))

def changeAt (dotted : Bool) (change : Branch → Option Branch) :
    List String → Branch → Option Branch
  -- Change the table at a path, making the tables on the way that do not exist yet. A dotted key
  -- must not pass through a table that a header opened.
  | [], b => change b
  | k :: path, b =>
    match b.find? k with
    | none =>
      (changeAt dotted change path (new (if dotted then .dotted else .step))).map
        (fun child => b.set k (.table child))
    | some (.value _) => none
    | some (.elements tables) =>
      match tables.reverse with
      | [] => none
      | last :: before =>
        (changeAt dotted change path last).map
          (fun child => b.set k (.elements (child :: before).reverse))
    | some (.table child) =>
      if dotted && child.origin = .header then none
      else (changeAt dotted change path child).map (fun child => b.set k (.table child))

def define (path : List String) (k : String) (v : Value) (b : Branch) : Option Branch :=
  -- Define a key that no definition has used; the table of a dotted key is one that dotted keys
  -- made.
  changeAt true (fun t =>
    if (t.origin == .dotted) == path.isEmpty then none
    else
      match t.find? k with
      | some _ => none
      | none => some (t.set k (.value v))) path b

end Branch

structure Assembly where
  -- The table whose definitions are being read is held apart until the next header.
  root : Branch
  current : Branch
  path : List String
  isElement : Bool

namespace Assembly

def start : Assembly := ⟨.new .header, .new .header, [], false⟩

def splitLast? : List String → Option (List String × String)
  | [] => none
  | [k] => some ([], k)
  | k :: rest => (splitLast? rest).map (fun r => (k :: r.1, r.2))

def settle (a : Assembly) : Option Branch :=
  match splitLast? a.path with
  | none => some a.current
  | some (parents, k) =>
    Branch.changeAt false (fun t =>
      if a.isElement then
        match t.find? k with
        | none => some (t.set k (.elements [a.current]))
        | some (.elements tables) => some (t.set k (.elements (tables ++ [a.current])))
        | some _ => none
      else
        match t.find? k with
        | none => some (t.set k (.table a.current))
        | some _ => none) parents a.root

def define (path : List String) (k : String) (v : Value) (a : Assembly) : Option Assembly :=
  (a.current.define path k v).map (fun b => { a with current := b })

def openTable (path : List String) (a : Assembly) : Option Assembly := do
  -- Open a table. One that exists as a step on the way to others keeps what it holds.
  let root ← a.settle
  let (parents, k) ← splitLast? path
  let root ← Branch.changeAt false some parents root
  let existing ← lookup parents k root
  match existing with
  | none => return ⟨root, .new .header, path, false⟩
  | some (.table t) =>
    if t.origin = .step then
      let root ← Branch.changeAt false (fun b => some (b.remove k)) parents root
      return ⟨root, .mk .header t.items, path, false⟩
    else none
  | some _ => none
where
  lookup : List String → String → Branch → Option (Option Item)
    | [], k, b => some (b.find? k)
    | p :: path, k, b =>
      match b.find? p with
      | some (.table child) => lookup path k child
      | some (.elements tables) =>
        match tables.getLast? with
        | some last => lookup path k last
        | none => none
      | _ => none

def openElement (path : List String) (a : Assembly) : Option Assembly := do
  let root ← a.settle
  let (parents, k) ← splitLast? path
  let root ← Branch.changeAt false (fun b =>
    match b.find? k with
    | none => some (b.set k (.elements []))
    | some (.elements _) => some b
    | some _ => none) parents root
  return ⟨root, .new .header, path, true⟩

end Assembly

def sortFields (fields : List (String × Value)) : List (String × Value) :=
  fields.mergeSort (fun a b => a.1 ≤ b.1)

mutual

def Item.toValue : Item → Value
  | .value v => v
  | .elements tables => .array (branchValues tables)
  | .table b => b.toValue

def Branch.toValue : Branch → Value
  | .mk _ items => .table (sortFields (itemValues items))

def branchValues : List Branch → List Value
  | [] => []
  | b :: rest => b.toValue :: branchValues rest

def itemValues : List (String × Item) → List (String × Value)
  | [] => []
  | (k, i) :: rest => (k, i.toValue) :: itemValues rest

end

end LayeredConfig.Toml
