import AttributeArguments.Call
import AttributeArguments.Recorder.Written

/-!
# Recorders of paired arguments

Recorders that take an argument bound and written at once. The callback gets the fitted constant
together with its location, or is not called at all. A use case says which recorders a registry
holds for each category: those of bound arguments, of written ones, of both at once, or, split, one
of each for every parameter, with a record for each half.
-/
namespace AttributeArguments

namespace Recorder.Paired

variable {σ α : Type}

def typeArgument (f : σ → TypeName → Expression → σ × Bool) : Recorder σ (TypeName × Expression) :=
  checked fun s a => f s a.1 a.2

def assignTypeArgument (f : σ → TypeName → Location → σ) : Recorder σ (TypeName × Expression) :=
  assigned fun s a => f s a.1 a.2.location

def constructor (f : σ → Constant → Slot → σ × Bool) : Recorder σ (Constant × Slot) :=
  checked fun s a => f s a.1 a.2

/-- The form of the slot is looked at before the constant. -/
def assignConstructor (p : Pattern α) (f : σ → α → Location → σ) :
    Recorder σ (Constant × Slot) := fun a s =>
  match a.2.location? with
  | none => refused (.listedElementsRefused a.2.expressions.length) a s
  | some l =>
    match p.fit a.1 with
    | .ok x => assigned (fun s x => f s x l) x s
    | .error m => refused (.argumentMisfit .constructor m) a s

def assignCollection (p : Pattern α) (f : σ → α → CollectionLocation → σ) :
    Recorder σ (Constant × Slot) := fun a s =>
  match p.fit a.1 with
  | .ok x => assigned (fun s x => f s x a.2.collectionLocation) x s
  | .error m => refused (.argumentMisfit .constructor m) a s

def named (f : σ → Constant → Expression → σ × Bool) : Recorder σ (Constant × Expression) :=
  checked fun s a => f s a.1 a.2

def assignNamed (p : Pattern α) (f : σ → α → Location → σ) :
    Recorder σ (Constant × Expression) := fun a s =>
  match p.fit a.1 with
  | .ok x => assigned (fun s x => f s x a.2.location) x s
  | .error m => refused (.argumentMisfit .named m) a s

end Recorder.Paired

namespace Family

abbrev semantic (σ : Type) : Family := bound.recorders σ

abbrev syntactic (σ : Type) : Family := written.recorders σ

abbrev split (σ τ : Type) : Family := (semantic σ).pair (syntactic τ)

abbrev combined (σ : Type) : Family := paired.recorders σ

end Family

inductive UseCase
  | semantic
  | syntactic
  | split
  | combined
deriving DecidableEq, Repr

end AttributeArguments
