import LayeredConfig.Toml.Quantity
import LayeredConfig.Toml.Assembly

namespace LayeredConfig.Toml

open LayeredConfig.Text

def arrayItems (element : List Char → Read Value) : Nat → List Char → Read (List Value)
  | 0, _ => none
  | fuel + 1, s =>
    match skipAll s with
    | ']' :: rest => some ([], rest)
    | s =>
      (element s).bind (fun r =>
        match skipAll r.2 with
        | ',' :: rest => (arrayItems element fuel rest).map (fun more => (r.1 :: more.1, more.2))
        | ']' :: rest => some ([r.1], rest)
        | _ => none)

def definition? (element : List Char → Read Value) (s : List Char) :
    Read (List String × Value) :=
  (key? s).bind (fun k =>
    match k.2 with
    | '=' :: rest => (element (skipWhite rest)).map (fun v => ((k.1, v.1), v.2))
    | _ => none)

def inlineItems (element : List Char → Read Value) :
    Nat → Branch → List Char → Read Branch
  | 0, _, _ => none
  | fuel + 1, table, s =>
    (definition? element s).bind (fun r =>
      match Assembly.splitLast? r.1.1 with
      | none => none
      | some (path, k) =>
        (table.define path k r.1.2).bind (fun table =>
          match skipWhite r.2 with
          | ',' :: rest => inlineItems element fuel table rest
          | '\x7d' :: rest => some (table, rest)
          | _ => none))

def inlineTable? (element : List Char → Read Value) (s : List Char) : Read Value :=
  match skipWhite s with
  | '\x7d' :: rest => some (.table [], rest)
  | _ => (inlineItems element (s.length + 1) (.new .header) s).map (fun r => (r.1.toValue, r.2))

def value? : Nat → List Char → Read Value
  | depth, s =>
    match s with
    | '\x22' :: _ | '\'' :: _ => (string? s).map (fun r => (.scalar (.text r.1), r.2))
    | '[' :: rest =>
      match depth with
      | 0 => none
      | depth + 1 =>
        (arrayItems (value? depth) (rest.length + 1) rest).map (fun r => (.array r.1, r.2))
    | '\x7b' :: rest =>
      match depth with
      | 0 => none
      | depth + 1 => inlineTable? (value? depth) rest
    | 't' :: 'r' :: 'u' :: 'e' :: rest => some (.scalar (.boolean true), rest)
    | 'f' :: 'a' :: 'l' :: 's' :: 'e' :: rest => some (.scalar (.boolean false), rest)
    | _ => (quantity? s).map (fun r => (.scalar r.1, r.2))

def header? (a : Assembly) (s : List Char) : Read Assembly :=
  match s with
  | '[' :: rest =>
    (key? rest).bind (fun k =>
      match k.2 with
      | ']' :: ']' :: rest =>
        (a.openElement k.1).bind (fun a => (closeLine? rest).map (fun rest => (a, rest)))
      | _ => none)
  | _ =>
    (key? s).bind (fun k =>
      match k.2 with
      | ']' :: rest =>
        (a.openTable k.1).bind (fun a => (closeLine? rest).map (fun rest => (a, rest)))
      | _ => none)

def line? (a : Assembly) (s : List Char) : Read Assembly :=
  match s with
  | '[' :: rest => header? a rest
  | _ =>
    (definition? (value? (depthLimit - 1)) s).bind (fun r =>
      match Assembly.splitLast? r.1.1 with
      | none => none
      | some (path, k) =>
        (a.define path k r.1.2).bind (fun a =>
          (closeLine? r.2).map (fun rest => (a, rest))))

def lines : Nat → Assembly → List Char → Option Assembly
  | 0, _, _ => none
  | fuel + 1, a, s =>
    match skipWhite s with
    | [] => some a
    | '#' :: rest => (closeLine? ('#' :: rest)).bind (fun rest => lines fuel a rest)
    | s =>
      match lineEnd? s with
      | some rest => lines fuel a rest
      | none => (line? a s).bind (fun r => lines fuel r.1 r.2)

def readDocument (content : String) : Option (List (String × Value)) :=
  let s := content.toList
  let s := (stripStart? ['\ufeff'] s).getD s
  (lines (s.length + 1) Assembly.start s).bind (fun a =>
    a.settle.map (fun root =>
      match root.toValue with
      | .table fields => fields
      | _ => []))

instance : Reader where
  read content :=
    match readDocument content with
    | some fields => .ok fields
    | none => .error "TOML parse error"
  mismatch _ := "TOML parse error"

end LayeredConfig.Toml
