import AttributeArguments.Constant

/-!
# Patterns

A pattern of type `Pattern α` reads a constant as a value of `α`, or says what it expected and
what it found. Reading is exact: no number is widened, a constant of an enumeration fits only
that enumeration, and `null` fits only a nullable pattern. One misfit inside an array rejects the
array, and the first one is reported.
-/
namespace AttributeArguments

structure Mismatch where
  expected : String
  found : String
deriving DecidableEq, Repr

def Mismatch.message (m : Mismatch) : String := s!"expected {m.expected}, found {m.found}"

inductive Primitive : Type → Type
  | bool : Primitive Bool
  | char : Primitive Char
  | u8 : Primitive UInt8
  | i8 : Primitive Int8
  | i16 : Primitive Int16
  | u16 : Primitive UInt16
  | i32 : Primitive Int32
  | u32 : Primitive UInt32
  | i64 : Primitive Int64
  | u64 : Primitive UInt64
  | f32 : Primitive Binary32
  | f64 : Primitive Binary64
  | string : Primitive String
  | type : Primitive TypeName

namespace Primitive

def name {α : Type} : Primitive α → String
  | bool => "bool"
  | char => "char"
  | u8 => "u8"
  | i8 => "i8"
  | i16 => "i16"
  | u16 => "u16"
  | i32 => "i32"
  | u32 => "u32"
  | i64 => "i64"
  | u64 => "u64"
  | f32 => "f32"
  | f64 => "f64"
  | string => "string"
  | type => "type"

def read? {α : Type} : Primitive α → Constant → Option α
  | bool, .bool b => some b
  | char, .char c => some c
  | u8, .u8 n => some n
  | i8, .i8 n => some n
  | i16, .i16 n => some n
  | u16, .u16 n => some n
  | i32, .i32 n => some n
  | u32, .u32 n => some n
  | i64, .i64 n => some n
  | u64, .u64 n => some n
  | f32, .f32 x => some x
  | f64, .f64 x => some x
  | string, .string s => some s
  | type, .type t => some t
  | _, _ => none

def write {α : Type} : Primitive α → α → Constant
  | bool => .bool
  | char => .char
  | u8 => .u8
  | i8 => .i8
  | i16 => .i16
  | u16 => .u16
  | i32 => .i32
  | u32 => .u32
  | i64 => .i64
  | u64 => .u64
  | f32 => .f32
  | f64 => .f64
  | string => .string
  | type => .type

theorem read?_write {α : Type} (p : Primitive α) (a : α) : p.read? (p.write a) = some a := by
  cases p <;> rfl

theorem eq_write_of_read? {α : Type} {p : Primitive α} {c : Constant} {a : α}
    (h : p.read? c = some a) : c = p.write a := by
  cases p <;> cases c <;> simp_all [read?, write]

end Primitive

/-- An enumeration that constants can be read as: its name, and the member of an integer. -/
structure EnumType (E : Type) where
  typeName : TypeName
  ofUnderlying : Int64 → Option E

def EnumType.read? {E : Type} (t : EnumType E) : Constant → Option E
  | .enum enumType n => if enumType = t.typeName then t.ofUnderlying n else none
  | _ => none

inductive Pattern : Type → Type 1
  | primitive {α : Type} (p : Primitive α) : Pattern α
  | object : Pattern Constant
  | enumeration {E : Type} (t : EnumType E) : Pattern E
  | nullable {α : Type} (p : Pattern α) : Pattern (Option α)
  | array {α : Type} (p : Pattern α) : Pattern (List α)

namespace Pattern

/-- What a mismatch names as expected. A nullable pattern expects what it wraps. -/
def name : {α : Type} → Pattern α → String
  | _, primitive p => p.name
  | _, object => "object"
  | _, enumeration t => t.typeName.qualified
  | _, nullable p => p.name
  | _, array _ => "array"

def expect {α : Type} (expected : String) (c : Constant) : Option α → Except Mismatch α
  | some a => .ok a
  | none => .error ⟨expected, c.kind⟩

def fit : {α : Type} → Pattern α → Constant → Except Mismatch α
  | _, primitive p, c => expect p.name c (p.read? c)
  | _, object, c => if c.isNull then .error ⟨"object", c.kind⟩ else .ok c
  | _, enumeration t, c => expect t.typeName.qualified c (t.read? c)
  | _, nullable p, c => if c.isNull then .ok none else (p.fit c).map some
  | _, array p, c =>
    match c with
    | .array elements => elements.mapM p.fit
    | _ => .error ⟨"array", c.kind⟩

end Pattern

end AttributeArguments
