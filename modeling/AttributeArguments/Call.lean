import AttributeArguments.Attribute
import AttributeArguments.Recorder.Bound

/-!
# Recorder calls

A family gives one type to each category: what a pass hands over for a type argument, for a
constructor argument and for a named argument. A call is one argument of a family together with
the parameter that it is for.
-/
namespace AttributeArguments

structure Family where
  type : Type
  constructor : Type
  named : Type

namespace Family

abbrev bound : Family := ⟨TypeName, Constant, Constant⟩

abbrev written : Family := ⟨Expression, Slot, Expression⟩

abbrev pair (F G : Family) : Family :=
  ⟨F.type × G.type, F.constructor × G.constructor, F.named × G.named⟩

abbrev paired : Family := bound.pair written

abbrev recorders (F : Family) (σ : Type) : Family :=
  ⟨Recorder σ F.type, Recorder σ F.constructor, Recorder σ F.named⟩

end Family

inductive Call (F : Family) where
  | type (p : TypeParameter) (argument : F.type)
  | constructor (p : Parameter) (argument : F.constructor)
  | named (name : String) (argument : F.named)

namespace Call

variable {F : Family}

def category : Call F → Category
  | type _ _ => .type
  | constructor _ _ => .constructor
  | named _ _ => .named

def name : Call F → String
  | type p _ => p.name
  | constructor p _ => p.name
  | named n _ => n

def rejection (c : Call F) : Diagnostic := .argumentRejected c.category c.name

end Call

structure Arguments (F : Family) where
  types : List (TypeParameter × F.type) := []
  constructors : List (Parameter × F.constructor) := []
  named : List (String × F.named) := []

namespace Arguments

variable {F G : Family}

def calls (a : Arguments F) : List (Call F) :=
  a.types.map (fun x => .type x.1 x.2) ++ a.constructors.map (fun x => .constructor x.1 x.2) ++
    a.named.map (fun x => .named x.1 x.2)

def add (a : Arguments F) : Call F → Arguments F
  | .type p x => { a with types := a.types ++ [(p, x)] }
  | .constructor p x => { a with constructors := a.constructors ++ [(p, x)] }
  | .named n x => { a with named := a.named ++ [(n, x)] }

def gather : Recorder (Arguments F) (Call F) := Recorder.assigned add

/-- The arguments at one position of both lists, under the parameter of the first. -/
def pairUp {π ρ α β : Type} (xs : List (π × α)) (ys : List (ρ × β)) : List (π × (α × β)) :=
  xs.zipWith (fun x y => (x.1, (x.2, y.2))) ys

def pair (a : Arguments F) (b : Arguments G) : Arguments (F.pair G) :=
  ⟨pairUp a.types b.types, pairUp a.constructors b.constructors, pairUp a.named b.named⟩

def countMismatch? (a : Arguments F) (b : Arguments G) : Option Diagnostic :=
  if a.types.length ≠ b.types.length then
    some (.countMismatch .type a.types.length b.types.length)
  else if a.constructors.length ≠ b.constructors.length then
    some (.countMismatch .constructor a.constructors.length b.constructors.length)
  else if a.named.length ≠ b.named.length then
    some (.countMismatch .named a.named.length b.named.length)
  else none

end Arguments

end AttributeArguments
