import AttributeArguments.Constant

/-!
# Attribute applications

One application of an attribute is seen twice: bound, with the class, the constructor and the
constants that were found for it, and written, with the expressions of its source text. Only the
bound view tells the class and the constructor; both may be missing from it. Of an expression only
the shapes that matter to binding and to locating it are kept, every other one is `other`.
Parentheses and casts wrap an expression. Binding looks through the parentheses alone, because a
cast decides whether an expression is an array; locating looks through both.
-/
namespace AttributeArguments

structure Span where
  start : UInt32
  stop : UInt32
deriving DecidableEq, Repr

inductive Expression where
  | literal (span : Span)
  | null (span : Span)
  | typeOf (span : Span)
  | default (span : Span)
  | other (span : Span)
  | parenthesized (span : Span) (inner : Expression)
  | cast (span : Span) (toArray : Bool) (inner : Expression)
  | emptyArray (span : Span)
  | filledArray (span : Span) (initializer : Span) (elements : List Expression)
  | collection (span : Span) (elements : List Expression)
deriving BEq, Repr

namespace Expression

def span : Expression → Span
  | literal s | null s | typeOf s | default s | other s => s
  | parenthesized s _ | cast s _ _ => s
  | emptyArray s | filledArray s _ _ | collection s _ => s

def stripped : Expression → Expression
  | parenthesized _ e => e.stripped
  | cast _ _ e => e.stripped
  | e => e

def unparenthesized : Expression → Expression
  | parenthesized _ e => e.unparenthesized
  | e => e

/-- Whether the expression, alone in front of a `params` parameter, is the whole array. A cast
decides by its target: `(object)null` is one element and `(object[])null` is the array. -/
def isArrayLike (e : Expression) : Bool :=
  match e.unparenthesized with
  | emptyArray _ | filledArray _ _ _ | collection _ _ | null _ | default _ => true
  | cast _ toArray _ => toArray
  | _ => false

end Expression

structure AttributeClass where
  name : TypeName
  typeParameters : List TypeParameter
  typeArguments : List TypeName
deriving Repr

/-- `constructorArguments` holds one constant for each constructor parameter: a `params`
parameter has an array, and an omitted optional parameter has its default. -/
structure BoundAttribute where
  attributeClass : Option AttributeClass := none
  constructorParameters : Option (List Parameter) := none
  constructorArguments : List Constant := []
  namedArguments : List (String × Constant) := []
deriving Repr

structure WrittenArgument where
  label : Option String := none
  target : Option String := none
  expression : Expression
deriving Repr

namespace WrittenArgument

def isConstructorArgument (a : WrittenArgument) : Bool := a.target.isNone

def labelled? (a : WrittenArgument) : Option (String × Expression) :=
  if a.isConstructorArgument then a.label.map (·, a.expression) else none

def positional? (a : WrittenArgument) : Option Expression :=
  if a.isConstructorArgument && a.label.isNone then some a.expression else none

def named? (a : WrittenArgument) : Option (String × Expression) :=
  a.target.map (·, a.expression)

end WrittenArgument

structure WrittenAttribute where
  typeArguments : List Expression
  arguments : List WrittenArgument
  span : Span
deriving Repr

inductive Slot where
  | written (e : Expression)
  | listed (es : List Expression)
  | omitted
deriving BEq, Repr

namespace Slot

def expressions : Slot → List Expression
  | written e => [e]
  | listed es => es
  | omitted => []

def ofRemaining : List Expression → Slot
  | [e] => if e.isArrayLike then written e else listed [e]
  | es => listed es

end Slot

end AttributeArguments
