import LayeredConfig.Json.Reader

namespace LayeredConfig.Json

def escaped (c : Char) : List Char :=
  if c = '\x22' then ['\\', '\x22']
  else if c = '\\' then ['\\', '\\']
  else if c = '\x08' then ['\\', 'b']
  else if c = '\x0c' then ['\\', 'f']
  else if c = '\n' then ['\\', 'n']
  else if c = '\r' then ['\\', 'r']
  else if c = '\t' then ['\\', 't']
  else if c.toNat < 0x20 then
    ['\\', 'u', '0', '0', Nat.digitChar (c.toNat / 16), Nat.digitChar (c.toNat % 16)]
  else [c]

def textChars : Option String → List Char
  | some s => '\x22' :: s.toList.flatMap escaped ++ ['\x22']
  | none => "\"\\ud800\"".toList

def integerChars (n : Int) : List Char :=
  (if n < 0 then ['-'] else []) ++ Nat.toDigits 10 n.natAbs

mutual

def chars : Json → List Char
  | null => "null".toList
  | boolean true => "true".toList
  | boolean false => "false".toList
  | integer n => integerChars n
  | fraction => "0.5".toList
  | text s => textChars s
  | array [] => ['[', ']']
  | array (first :: rest) => '[' :: chars first ++ itemChars rest
  | object [] => ['\x7b', '\x7d']
  | object (first :: rest) => '\x7b' :: fieldChars first ++ restChars rest

def itemChars : List Json → List Char
  | [] => [']']
  | j :: rest => ',' :: chars j ++ itemChars rest

def fieldChars : Option String × Json → List Char
  | (name, j) => textChars name ++ ':' :: chars j

def restChars : List (Option String × Json) → List Char
  | [] => ['\x7d']
  | field :: rest => ',' :: fieldChars field ++ restChars rest

end

def write (j : Json) : String := String.ofList (chars j)

instance : Codec := ⟨read, write⟩

end LayeredConfig.Json
