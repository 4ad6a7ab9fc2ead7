import AttributeArguments.Event

/-!
# Recorders

A recorder takes an argument and a record, and answers whether it accepts the argument, with the
record as it left it. It is detached: the record is given with each argument. Attached to a
record, it carries the record along from one argument to the next. The recorders of bound arguments
take the type or the constant of an argument; a constant that does not fit the pattern is refused
before the callback is called.
-/
namespace AttributeArguments

structure Reply (σ : Type) where
  accepted : Bool
  record : σ
  events : List Event := []

abbrev Recorder (σ α : Type) := α → σ → Reply σ

namespace Recorder

variable {σ α : Type}

/-- A callback that may refuse the argument; what it wrote stays written. -/
def checked (f : σ → α → σ × Bool) : Recorder σ α := fun a s => ⟨(f s a).2, (f s a).1, []⟩

def assigned (f : σ → α → σ) : Recorder σ α := fun a s => ⟨true, f s a, []⟩

def refused (e : Event) : Recorder σ α := fun _ s => ⟨false, s, [e]⟩

def skip : Recorder σ α := fun _ s => ⟨true, s, []⟩

end Recorder

structure Attached (σ α : Type) where
  recorder : Recorder σ α
  record : σ

namespace Attached

variable {σ α : Type}

def tryRecord (a : Attached σ α) (argument : α) : Attached σ α × Reply σ :=
  let reply := a.recorder argument a.record
  (⟨a.recorder, reply.record⟩, reply)

end Attached

def Recorder.attach {σ α : Type} (r : Recorder σ α) (s : σ) : Attached σ α := ⟨r, s⟩

namespace Recorder.Bound

variable {σ α : Type}

def typeArgument (f : σ → TypeName → σ × Bool) : Recorder σ TypeName := checked f

def assignTypeArgument (f : σ → TypeName → σ) : Recorder σ TypeName := assigned f

def argument (f : σ → Constant → σ × Bool) : Recorder σ Constant := checked f

def fitted (p : Pattern α) (f : σ → α → σ × Bool) : Recorder σ Constant := fun c s =>
  match p.fit c with
  | .ok a => checked f a s
  | .error m => refused (.semanticMisfit m) c s

def assign (p : Pattern α) (f : σ → α → σ) : Recorder σ Constant :=
  fitted p fun s a => (f s a, true)

end Recorder.Bound

end AttributeArguments
