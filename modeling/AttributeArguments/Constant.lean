/-!
# Parameters and constants

An attribute class has type parameters, and its constructor has value parameters. A parameter
says how it takes its argument: exactly one, all the remaining ones, or none when it has a default.
A constant is the value of an argument, and its constructor is its type: the 16-bit integer `1` and
the 32-bit integer `1` are two constants. A floating point number is kept as its bits. `agrees`
compares the numbers and not the bits: a NaN differs from itself, and the two zeros are one.
-/
namespace AttributeArguments

structure TypeName where
  qualified : String
deriving DecidableEq, Repr

structure TypeParameter where
  name : String
  ordinal : Nat
deriving DecidableEq, Repr

inductive ParameterKind
  | normal
  | params
  | optional
deriving DecidableEq, Repr

def ParameterKind.name : ParameterKind → String
  | normal => "normal"
  | params => "params"
  | optional => "optional"

structure Parameter where
  name : String
  ordinal : Nat
  kind : ParameterKind := .normal
deriving DecidableEq, Repr

def Parameter.isParams (p : Parameter) : Bool := p.kind == .params

def Parameter.isOptional (p : Parameter) : Bool := p.kind == .optional

structure Binary32 where
  bits : UInt32
deriving DecidableEq, Repr

structure Binary64 where
  bits : UInt64
deriving DecidableEq, Repr

def Binary32.magnitude (x : Binary32) : UInt32 := x.bits &&& 0x7fffffff

def Binary32.isNaN (x : Binary32) : Bool := 0x7f800000 < x.magnitude

def Binary32.agrees (x y : Binary32) : Bool :=
  !x.isNaN && !y.isNaN && (x.bits == y.bits || (x.magnitude == 0 && y.magnitude == 0))

def Binary64.magnitude (x : Binary64) : UInt64 := x.bits &&& 0x7fffffffffffffff

def Binary64.isNaN (x : Binary64) : Bool := 0x7ff0000000000000 < x.magnitude

def Binary64.agrees (x y : Binary64) : Bool :=
  !x.isNaN && !y.isNaN && (x.bits == y.bits || (x.magnitude == 0 && y.magnitude == 0))

inductive Constant where
  | null
  | bool (b : Bool)
  | char (c : Char)
  | u8 (n : UInt8)
  | i8 (n : Int8)
  | i16 (n : Int16)
  | u16 (n : UInt16)
  | i32 (n : Int32)
  | u32 (n : UInt32)
  | i64 (n : Int64)
  | u64 (n : UInt64)
  | f32 (x : Binary32)
  | f64 (x : Binary64)
  | string (s : String)
  | type (t : TypeName)
  | enum (enumType : TypeName) (underlying : Int64)
  | array (elements : List Constant)
deriving Repr

namespace Constant

def kind : Constant → String
  | null => "null"
  | bool _ => "bool"
  | char _ => "char"
  | u8 _ => "u8"
  | i8 _ => "i8"
  | i16 _ => "i16"
  | u16 _ => "u16"
  | i32 _ => "i32"
  | u32 _ => "u32"
  | i64 _ => "i64"
  | u64 _ => "u64"
  | f32 _ => "f32"
  | f64 _ => "f64"
  | string _ => "string"
  | type _ => "type"
  | enum _ _ => "enum"
  | array _ => "array"

def isNull : Constant → Bool
  | null => true
  | _ => false

mutual

def agrees : Constant → Constant → Bool
  | null, null => true
  | bool a, bool b => a == b
  | char a, char b => a == b
  | u8 a, u8 b => a == b
  | i8 a, i8 b => a == b
  | i16 a, i16 b => a == b
  | u16 a, u16 b => a == b
  | i32 a, i32 b => a == b
  | u32 a, u32 b => a == b
  | i64 a, i64 b => a == b
  | u64 a, u64 b => a == b
  | f32 a, f32 b => a.agrees b
  | f64 a, f64 b => a.agrees b
  | string a, string b => a == b
  | type a, type b => a == b
  | enum s a, enum t b => s == t && a == b
  | array as, array bs => agreesAll as bs
  | _, _ => false

def agreesAll : List Constant → List Constant → Bool
  | [], [] => true
  | a :: as, b :: bs => agrees a b && agreesAll as bs
  | _, _ => false

end

end Constant

end AttributeArguments
