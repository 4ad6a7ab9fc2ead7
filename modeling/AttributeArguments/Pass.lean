import AttributeArguments.Call

/-!
# Passes

A pass is a dialogue with a recorder. It gives notices, makes calls, goes on as the answers to
its calls tell it, and ends in success or failure. `run` holds the dialogue with one recorder and
one record. A parse reads an application first, and records only what was read without a fault.
-/
namespace AttributeArguments

inductive Pass (F : Family) where
  | finish (succeeded : Bool)
  | notify (n : Notice) (next : Pass F)
  | record (call : Call F) (next : Bool → Pass F)

structure Run (σ : Type) where
  succeeded : Bool
  record : σ
  notices : List Notice

def Run.after {σ : Type} (ns : List Notice) (r : Run σ) : Run σ :=
  ⟨r.succeeded, r.record, ns ++ r.notices⟩

namespace Pass

variable {F : Family} {σ : Type}

def run (r : Recorder σ (Call F)) : Pass F → σ → Run σ
  | finish b, s => ⟨b, s, []⟩
  | notify n next, s => (next.run r s).after [n]
  | record c next, s =>
    let reply := r c s
    ((next reply.accepted).run r reply.record).after (reply.events.map .event)

def notifyAll (ns : List Notice) (p : Pass F) : Pass F := ns.foldr notify p

def fail (d : Diagnostic) : Pass F := notify (.diagnostic d) (finish false)

/-- Makes the calls in turn; the first one refused decides how the pass goes on. -/
def recordAll (refused : Call F → Pass F) (done : Pass F) : List (Call F) → Pass F
  | [] => done
  | c :: cs => record c fun accepted => if accepted then recordAll refused done cs else refused c

def recordOrFail (done : Pass F) (cs : List (Call F)) : Pass F :=
  recordAll (fun c => fail c.rejection) done cs

def andThen : Pass F → Pass F → Pass F
  | finish b, q => if b then q else finish false
  | notify n next, q => notify n (next.andThen q)
  | record c next, q => record c fun accepted => (next accepted).andThen q

end Pass

/-- What a pass read from an application, with the counts that its completion tells. They are those
of the lists that were read, and not of the arguments that were made of them. -/
structure Reading (F : Family) where
  attributeName : TypeName
  arguments : Arguments F
  types : Nat
  constructors : Nat
  named : Nat

namespace Reading

variable {F : Family}

def completion (kind : PassKind) (r : Reading F) : Event :=
  .passComplete kind r.attributeName r.types r.constructors r.named

def pass (kind : PassKind) : Except Diagnostic (Reading F) → Pass F
  | .error d => .fail d
  | .ok r => .recordOrFail (.notify (.event (r.completion kind)) (.finish true)) r.arguments.calls

end Reading

end AttributeArguments
