import AttributeArguments.Call
import AttributeArguments.Mapping

/-!
# The registry

The mappings of all three categories while they can still be registered. The categories can be
built one by one or together; building together goes through them in order and stops at the
first that refuses, with the earlier ones left built. An operation is one step of setting up a
registry: a registration or a build. The recorder of a registration is given, or is created on
demand, after the registration was found acceptable.

A lookup in the built snapshot that finds nothing leaves an event. The recorders of a snapshot are
one recorder of calls: each call goes to the recorder of its parameter, and the call of an unmapped
parameter is accepted and skipped.
-/
namespace AttributeArguments

structure Snapshot (F : Family) where
  types : TypeSnapshot F.type
  constructors : NamedSnapshot F.constructor
  named : NamedSnapshot F.named

structure Lookup (ρ : Type) where
  found : Option ρ
  events : List Event

namespace Lookup

variable {ρ τ : Type}

def orEvent (found : Option ρ) (e : Event) : Lookup ρ := ⟨found, if found.isNone then [e] else []⟩

def map (f : ρ → τ) (l : Lookup ρ) : Lookup τ := ⟨l.found.map f, l.events⟩

def record {σ α : Type} (l : Lookup (Recorder σ α)) : Recorder σ α := fun a s =>
  let reply := (l.found.getD Recorder.skip) a s
  { reply with events := l.events ++ reply.events }

end Lookup

namespace Snapshot

variable {F G : Family} {σ : Type}

def typeRecorder (m : Snapshot F) (p : TypeParameter) : Lookup F.type :=
  .orEvent (m.types.get? p) (.typeParameterUnmapped p.name p.ordinal)

def constructorRecorder (m : Snapshot F) (p : Parameter) : Lookup F.constructor :=
  .orEvent (m.constructors.get? p.name) (.parameterUnmapped .constructor p.name)

def namedRecorder (m : Snapshot F) (name : String) : Lookup F.named :=
  .orEvent (m.named.get? name) (.parameterUnmapped .named name)

def recorder (m : Snapshot (F.recorders σ)) : Recorder σ (Call F)
  | .type p a => (m.typeRecorder p).record a
  | .constructor p a => (m.constructorRecorder p).record a
  | .named n a => (m.namedRecorder n).record a

def firstRecorder (m : Snapshot ((F.recorders σ).pair G)) : Recorder σ (Call F)
  | .type p a => ((m.typeRecorder p).map Prod.fst).record a
  | .constructor p a => ((m.constructorRecorder p).map Prod.fst).record a
  | .named n a => ((m.namedRecorder n).map Prod.fst).record a

def secondRecorder (m : Snapshot (G.pair (F.recorders σ))) : Recorder σ (Call F)
  | .type p a => ((m.typeRecorder p).map Prod.snd).record a
  | .constructor p a => ((m.constructorRecorder p).map Prod.snd).record a
  | .named n a => ((m.namedRecorder n).map Prod.snd).record a

def built (m : Snapshot F) : Event :=
  .mappingsBuilt (m.types.indexed.length + m.types.named.length) m.constructors.named.length
    m.named.named.length

end Snapshot

structure Registry (F : Family) where
  types : TypeMappings F.type
  constructors : NamedMappings F.constructor
  named : NamedMappings F.named

namespace Registry

variable {F : Family}

def empty (comparer : ParameterComparer) (refusesRebuild : Bool) : Registry F :=
  ⟨⟨comparer.type, refusesRebuild, [], [], false⟩,
    ⟨comparer.constructor, refusesRebuild, [], false⟩,
    ⟨comparer.named, refusesRebuild, [], false⟩⟩

def buildTypes (m : Registry F) : Registry F × Except Refusal (TypeSnapshot F.type) :=
  let r := m.types.build
  ({ m with types := r.1 }, r.2)

def buildConstructors (m : Registry F) :
    Registry F × Except Refusal (NamedSnapshot F.constructor) :=
  let r := m.constructors.build
  ({ m with constructors := r.1 }, r.2)

def buildNamed (m : Registry F) : Registry F × Except Refusal (NamedSnapshot F.named) :=
  let r := m.named.build
  ({ m with named := r.1 }, r.2)

def build (m : Registry F) : Registry F × Except Refusal (Snapshot F) :=
  match m.buildTypes with
  | (m, .error e) => (m, .error e)
  | (m, .ok types) =>
    match m.buildConstructors with
    | (m, .error e) => (m, .error e)
    | (m, .ok constructors) =>
      match m.buildNamed with
      | (m, .error e) => (m, .error e)
      | (m, .ok named) => (m, .ok ⟨types, constructors, named⟩)

def built (m : Registry F) : Category → Bool
  | .type => m.types.built
  | .constructor => m.constructors.built
  | .named => m.named.built

end Registry

inductive Built (F : Family) where
  | whole (m : Snapshot F)
  | types (m : TypeSnapshot F.type)
  | constructors (m : NamedSnapshot F.constructor)
  | named (m : NamedSnapshot F.named)

def Registry.buildPart {F : Family} (m : Registry F) :
    Option Category → Registry F × Except Refusal (Built F)
  | none => (m.build.1, m.build.2.map .whole)
  | some .type => (m.buildTypes.1, m.buildTypes.2.map .types)
  | some .constructor => (m.buildConstructors.1, m.buildConstructors.2.map .constructors)
  | some .named => (m.buildNamed.1, m.buildNamed.2.map .named)

/-- For each category, the ways to create its recorders with an effect on a value of type `β`. -/
abbrev Family.creators (F : Family) (β : Type) : Family :=
  ⟨β → F.type × β, β → F.constructor × β, β → F.named × β⟩

inductive Operation (F : Family) where
  | mapIndex (index : Nat) (recorder : F.type)
  | mapType (name : String) (recorder : F.type)
  | mapConstructor (name : String) (recorder : F.constructor)
  | mapNamed (name : String) (recorder : F.named)
  | build (part : Option Category)

namespace Operation

variable {F : Family} {β : Type}

def apply (m : Registry F) : Operation F → Registry F × Except Refusal Unit
  | mapIndex index r =>
    let a := m.types.addIndexed index r
    ({ m with types := a.1 }, a.2)
  | mapType name r =>
    let a := m.types.addNamed name r
    ({ m with types := a.1 }, a.2)
  | mapConstructor name r =>
    let a := m.constructors.add name r
    ({ m with constructors := a.1 }, a.2)
  | mapNamed name r =>
    let a := m.named.add name r
    ({ m with named := a.1 }, a.2)
  | build part =>
    let a := m.buildPart part
    (a.1, a.2.map fun _ => ())

def applyCreating (m : Registry F) (b : β) :
    Operation (F.creators β) → (Registry F × Except Refusal Unit) × β
  | mapIndex index create =>
    let a := m.types.addIndexedWith index create b
    (({ m with types := a.1.1 }, a.1.2), a.2)
  | mapType name create =>
    let a := m.types.addNamedWith name create b
    (({ m with types := a.1.1 }, a.1.2), a.2)
  | mapConstructor name create =>
    let a := m.constructors.addWith name create b
    (({ m with constructors := a.1.1 }, a.1.2), a.2)
  | mapNamed name create =>
    let a := m.named.addWith name create b
    (({ m with named := a.1.1 }, a.1.2), a.2)
  | build part =>
    let a := m.buildPart part
    ((a.1, a.2.map fun _ => ()), b)

def onDemand : Operation F → Operation (F.creators Nat)
  | mapIndex index r => mapIndex index fun n => (r, n + 1)
  | mapType name r => mapType name fun n => (r, n + 1)
  | mapConstructor name r => mapConstructor name fun n => (r, n + 1)
  | mapNamed name r => mapNamed name fun n => (r, n + 1)
  | build part => build part

end Operation

end AttributeArguments
