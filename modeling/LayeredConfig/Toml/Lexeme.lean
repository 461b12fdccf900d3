import LayeredConfig.Number.Integer
import LayeredConfig.Number.Decimal
import LayeredConfig.Text.Cut

namespace LayeredConfig.Toml

open LayeredConfig.Text LayeredConfig.Number

abbrev Read (α : Type) := Option (α × List Char)

def isWhite (c : Char) : Bool := c = ' ' || c = '\t'

def skipWhite (s : List Char) : List Char := s.dropWhile isWhite

def isCommentChar (c : Char) : Bool := c = '\t' || (0x20 ≤ c.toNat && c.toNat ≠ 0x7F)

def lineEnd? (s : List Char) : Option (List Char) :=
  match s with
  | '\n' :: rest => some rest
  | '\r' :: '\n' :: rest => some rest
  | _ => none

def skipComment (s : List Char) : List Char :=
  match s with
  | '#' :: rest => rest.dropWhile isCommentChar
  | _ => s

def closeLine? (s : List Char) : Option (List Char) :=
  match skipComment (skipWhite s) with
  | [] => some []
  | rest => lineEnd? rest

def skipLines : Nat → List Char → List Char
  | 0, s => s
  | fuel + 1, s =>
    let s := skipComment (skipWhite s)
    match lineEnd? s with
    | some rest => skipLines fuel rest
    | none => s

def skipAll (s : List Char) : List Char := skipLines s.length s

def isPlain (c : Char) : Bool :=
  c = '\t' || (0x20 ≤ c.toNat && c.toNat ≠ 0x7F && c ≠ '\x22' && c ≠ '\\')

def isLiteral (c : Char) : Bool :=
  c = '\t' || (0x20 ≤ c.toNat && c.toNat ≠ 0x7F && c ≠ '\'')

def codePoint? (n : Nat) (s : List Char) : Read Char :=
  let digits := s.take n
  if digits.length = n then
    (digitsValue? 16 digits).bind (fun v =>
      if h : v.isValidChar then some (Char.ofNatAux v h, s.drop n) else none)
  else none

def escape? (s : List Char) : Read Char :=
  match s with
  | 'b' :: rest => some ('\x08', rest)
  | 't' :: rest => some ('\t', rest)
  | 'n' :: rest => some ('\n', rest)
  | 'f' :: rest => some ('\x0c', rest)
  | 'r' :: rest => some ('\r', rest)
  | '\x22' :: rest => some ('\x22', rest)
  | '\\' :: rest => some ('\\', rest)
  | 'u' :: rest => codePoint? 4 rest
  | 'U' :: rest => codePoint? 8 rest
  | _ => none

def basicChars : Nat → List Char → List Char → Read String
  | 0, _, _ => none
  | fuel + 1, read, s =>
    match s with
    | '\x22' :: rest => some (String.ofList read.reverse, rest)
    | '\\' :: rest => (escape? rest).bind (fun r => basicChars fuel (r.1 :: read) r.2)
    | c :: rest => if isPlain c then basicChars fuel (c :: read) rest else none
    | [] => none

def basicString? (s : List Char) : Read String :=
  match s with
  | '\x22' :: rest => basicChars (rest.length + 1) [] rest
  | _ => none

def literalString? (s : List Char) : Read String :=
  match s with
  | '\'' :: rest =>
    match rest.dropWhile isLiteral with
    | '\'' :: more => some (String.ofList (rest.takeWhile isLiteral), more)
    | _ => none
  | _ => none

def skipFold : Nat → List Char → List Char
  | 0, s => s
  | fuel + 1, s =>
    let s := skipWhite s
    match lineEnd? s with
    | some rest => skipFold fuel rest
    | none => s

def manyLineChars (quote : Char) (escapes : Bool) : Nat → List Char → List Char → Read String
  -- The body of a string of many lines. Three quotes close it; up to two more before them belong to
  -- the string.
  | 0, _, _ => none
  | fuel + 1, read, s =>
    let quotes := (s.takeWhile (· = quote)).length
    if 3 ≤ quotes then
      let inside := min (quotes - 3) 2
      some (String.ofList (List.replicate inside quote ++ read).reverse, s.drop (inside + 3))
    else
      match s with
      | [] => none
      | c :: rest =>
        if c = quote then manyLineChars quote escapes fuel (c :: read) rest
        else
          match lineEnd? s with
          | some more => manyLineChars quote escapes fuel ('\n' :: read) more
          | none =>
            if escapes && c = '\\' then
              match lineEnd? (skipWhite rest) with
              | some more =>
                manyLineChars quote escapes fuel read (skipFold more.length more)
              | none =>
                (escape? rest).bind (fun r => manyLineChars quote escapes fuel (r.1 :: read) r.2)
            else if c = '\t' || (0x20 ≤ c.toNat && c.toNat ≠ 0x7F) then
              manyLineChars quote escapes fuel (c :: read) rest
            else none

def manyLineString? (quote : Char) (escapes : Bool) (s : List Char) : Read String :=
  -- A line end right after the opening quotes does not belong to the string.
  (stripStart? [quote, quote, quote] s).bind (fun rest =>
    let body := (lineEnd? rest).getD rest
    manyLineChars quote escapes (body.length + 1) [] body)

def string? (s : List Char) : Read String :=
  match s with
  | '\x22' :: '\x22' :: '\x22' :: _ => manyLineString? '\x22' true s
  | '\'' :: '\'' :: '\'' :: _ => manyLineString? '\'' false s
  | '\x22' :: _ => basicString? s
  | _ => literalString? s

def isBareKeyChar (c : Char) : Bool :=
  ('a' ≤ c && c ≤ 'z') || ('A' ≤ c && c ≤ 'Z') || ('0' ≤ c && c ≤ '9') || c = '-' || c = '_'

def simpleKey? (s : List Char) : Read String :=
  match s with
  | '\x22' :: _ => basicString? s
  | '\'' :: _ => literalString? s
  | _ =>
    let name := s.takeWhile isBareKeyChar
    if name = [] then none else some (String.ofList name, s.drop name.length)

def keyNames : Nat → List Char → Read (List String)
  | 0, _ => none
  | fuel + 1, s =>
    (simpleKey? (skipWhite s)).bind (fun r =>
      match skipWhite r.2 with
      | '.' :: rest => (keyNames fuel rest).map (fun more => (r.1 :: more.1, more.2))
      | rest => some ([r.1], rest))

def depthLimit : Nat := 80

def key? (s : List Char) : Read (List String) :=
  (keyNames (s.length + 1) s).filter (fun r => r.1.length < depthLimit)

end LayeredConfig.Toml
