import LayeredConfig.Number.Integer

namespace LayeredConfig

inductive IntegerName where
  | i8 | i16 | i32 | i64 | i128 | isize | u8 | u16 | u32 | u64 | u128 | usize
deriving DecidableEq, Repr

namespace IntegerName

open Number

def type : IntegerName → IntType
  | i8 => ⟨true, 8⟩
  | i16 => ⟨true, 16⟩
  | i32 => ⟨true, 32⟩
  | i64 => ⟨true, 64⟩
  | i128 => ⟨true, 128⟩
  | isize => ⟨true, 64⟩
  | u8 => ⟨false, 8⟩
  | u16 => ⟨false, 16⟩
  | u32 => ⟨false, 32⟩
  | u64 => ⟨false, 64⟩
  | u128 => ⟨false, 128⟩
  | usize => ⟨false, 64⟩

def text : IntegerName → String
  | i8 => "i8"
  | i16 => "i16"
  | i32 => "i32"
  | i64 => "i64"
  | i128 => "i128"
  | isize => "isize"
  | u8 => "u8"
  | u16 => "u16"
  | u32 => "u32"
  | u64 => "u64"
  | u128 => "u128"
  | usize => "usize"

def all : List IntegerName := [i8, i16, i32, i64, i128, isize, u8, u16, u32, u64, u128, usize]

end IntegerName

inductive Target where
  | text
  | boolean
  | integer (n : IntegerName)
  | single
  | double
  | character
  | path
  | duration
  | texts
  | address
deriving DecidableEq, Repr

namespace Target

abbrev Carrier : Target → Type
  | text => String
  | boolean => Bool
  | integer _ => Int
  -- Floating-point numbers are their bit patterns, and durations count milliseconds.
  | single => Nat
  | double => Nat
  | character => Char
  | path => String
  | duration => Nat
  | texts => List String
  | address => Nat × Nat × Nat × Nat

def typeName : Target → String
  | text => "alloc::string::String"
  | boolean => "bool"
  | integer n => n.text
  | single => "f32"
  | double => "f64"
  | character => "char"
  | path => "std::path::PathBuf"
  | duration => "core::time::Duration"
  | texts => "alloc::vec::Vec<alloc::string::String>"
  | address => "core::net::ip_addr::Ipv4Addr"

def all : List Target :=
  [text, boolean] ++ IntegerName.all.map integer ++
    [single, double, character, path, duration, texts, address]

theorem mem_all (t : Target) : t ∈ all := by
  cases t with
  | integer n => cases n <;> decide
  | _ => decide

end Target

end LayeredConfig
