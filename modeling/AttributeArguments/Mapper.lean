import AttributeArguments.Mapping.Registry

/-!
# Mappers

A hook is the program that sets up the registry of a mapper. It registers and builds, may look at
its own mapper while it runs, and ends by finishing, with or without a refusal, or by being
aborted. It can leave remarks for whoever started it.

A mapper owns a hook. The first lookup runs the hook on an empty registry and builds it; later
lookups get the same snapshot, or the same refusal. While the hook runs, and for ever after it was
aborted, a lookup is reentrant and refused.
-/
namespace AttributeArguments

inductive MapperError where
  | initialization (refusal : Refusal)
  | reentrant
  | aborted
deriving DecidableEq, Repr

def MapperError.message : MapperError → String
  | initialization refusal => s!"failed to initialize mappings: {refusal.message}"
  | reentrant => "mapping repository requested during its own initialization"
  | aborted => "the mapping hook was aborted"

inductive Progress (F : Family) where
  | running
  | ready (snapshot : Snapshot F)
  | failed (refusal : Refusal)

namespace Progress

variable {F : Family}

def verdict : Progress F → Except MapperError (Snapshot F)
  | running => .error .reentrant
  | ready snapshot => .ok snapshot
  | failed refusal => .error (.initialization refusal)

def isReady : Progress F → Bool
  | ready _ => true
  | _ => false

end Progress

inductive Hook (F : Family) (ω : Type) where
  | finish (result : Except Refusal Unit)
  | abort
  | operate (op : Operation F) (next : Except Refusal Unit → Hook F ω)
  | lookup (next : Except MapperError (Snapshot F) → Hook F ω)
  | inspect (next : Bool → Hook F ω)
  | remark (o : ω) (next : Hook F ω)

structure HookRun (F : Family) (ω : Type) where
  registry : Registry F
  result : Option (Except Refusal Unit)
  remarks : List ω

namespace Hook

variable {F : Family} {ω : Type}

/-- Lookups are answered by `progress`, which the hook cannot change. -/
def run (progress : Progress F) : Hook F ω → Registry F → HookRun F ω
  | finish result, m => ⟨m, some result, []⟩
  | abort, m => ⟨m, none, []⟩
  | operate op next, m =>
    let r := op.apply m
    (next r.2).run progress r.1
  | lookup next, m => (next progress.verdict).run progress m
  | inspect next, m => (next progress.isReady).run progress m
  | remark o next, m =>
    let r := next.run progress m
    { r with remarks := o :: r.remarks }

end Hook

structure MapperOptions where
  comparer : ParameterComparer := .ordinal
  refusesRebuild : Bool := true

structure Mapper (F : Family) (ω : Type) where
  options : MapperOptions
  hook : Hook F ω
  progress : Option (Progress F) := none
  hookRuns : Nat := 0

structure Answer (F : Family) (ω α : Type) where
  mapper : Mapper F ω
  verdict : Except MapperError α
  remarks : List ω := []
  events : List Event := []

def Answer.map {F : Family} {ω α β : Type} (f : α → β) (a : Answer F ω α) : Answer F ω β :=
  ⟨a.mapper, a.verdict.map f, a.remarks, a.events⟩

namespace Mapper

variable {F : Family} {ω ρ : Type}

def isInitialized (m : Mapper F ω) : Bool :=
  match m.progress with
  | some p => p.isReady
  | none => false

def runHook (m : Mapper F ω) : HookRun F ω :=
  m.hook.run .running (.empty m.options.comparer m.options.refusesRebuild)

def settle (r : HookRun F ω) : Progress F :=
  match r.result with
  | none => .running
  | some (.error refusal) => .failed refusal
  | some (.ok ()) =>
    match r.registry.build.2 with
    | .error refusal => .failed refusal
    | .ok snapshot => .ready snapshot

/-- Runs the hook; an aborted one is reported to this lookup only. -/
def start (m : Mapper F ω) : Answer F ω (Snapshot F) :=
  let r := m.runHook
  let p := settle r
  { mapper := { m with progress := some p, hookRuns := m.hookRuns + 1 }
    verdict := if r.result.isNone then .error .aborted else p.verdict
    remarks := r.remarks
    events := match p with
      | .ready snapshot => [snapshot.built]
      | _ => [] }

def obtain (m : Mapper F ω) : Answer F ω (Snapshot F) :=
  match m.progress with
  | some p => { mapper := m, verdict := p.verdict }
  | none => m.start

def find (m : Mapper F ω) (look : Snapshot F → Lookup ρ) : Answer F ω (Option ρ) :=
  let a := m.obtain
  match a.verdict with
  | .error e => ⟨a.mapper, .error e, a.remarks, a.events⟩
  | .ok snapshot =>
    ⟨a.mapper, .ok (look snapshot).found, a.remarks, a.events ++ (look snapshot).events⟩

def mapType (m : Mapper F ω) (p : TypeParameter) : Answer F ω (Option F.type) :=
  m.find (·.typeRecorder p)

def mapConstructor (m : Mapper F ω) (p : Parameter) : Answer F ω (Option F.constructor) :=
  m.find (·.constructorRecorder p)

def mapNamed (m : Mapper F ω) (name : String) : Answer F ω (Option F.named) :=
  m.find (·.namedRecorder name)

end Mapper

end AttributeArguments
