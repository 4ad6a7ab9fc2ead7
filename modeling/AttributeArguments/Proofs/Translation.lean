import AttributeArguments.Mapper
import AttributeArguments.Proofs.Table

/-!
# Translating recorders

Mappings look at keys and never at the recorders that they hold. To translate each recorder
commutes therefore with every operation, with building and with the lookups, and the same
registrations are refused for the same reasons.
-/
namespace AttributeArguments

variable {ρ θ : Type} {F G : Family}

structure Family.Hom (F G : Family) where
  type : F.type → G.type
  constructor : F.constructor → G.constructor
  named : F.named → G.named

def NamedSnapshot.map (f : ρ → θ) (m : NamedSnapshot ρ) : NamedSnapshot θ :=
  ⟨m.comparer, m.named.map (Prod.map id f)⟩

theorem NamedSnapshot.get?_map (f : ρ → θ) (m : NamedSnapshot ρ) (name : String) :
    (m.map f).get? name = (m.get? name).map f :=
  Table.lookup_map f m.named _

namespace NamedMappings

def map (f : ρ → θ) (m : NamedMappings ρ) : NamedMappings θ :=
  ⟨m.comparer, m.refusesRebuild, m.named.map (Prod.map id f), m.built⟩

theorem refusal?_map (f : ρ → θ) (m : NamedMappings ρ) (name : String) :
    (m.map f).refusal? name = m.refusal? name := by
  simp only [refusal?, holdsName, keys, map, Table.keys_map]
  rfl

theorem add_map (f : ρ → θ) (m : NamedMappings ρ) (name : String) (r : ρ) :
    (m.map f).add name (f r) = ((m.add name r).1.map f, (m.add name r).2) := by
  simp only [add, refusal?_map]
  cases m.refusal? name with
  | some e => rfl
  | none => simp only [insert, map, List.map_append, List.map_cons, List.map_nil, Prod.map, id]

theorem build_map (f : ρ → θ) (m : NamedMappings ρ) :
    (m.map f).build = (m.build.1.map f, m.build.2.map (NamedSnapshot.map f)) := by
  unfold build
  change (if m.built && m.refusesRebuild then _ else _) = _
  cases m.built && m.refusesRebuild <;> rfl

end NamedMappings

def TypeSnapshot.map (f : ρ → θ) (m : TypeSnapshot ρ) : TypeSnapshot θ :=
  ⟨m.comparer, m.indexed.map (Prod.map id f), m.named.map (Prod.map id f)⟩

theorem TypeSnapshot.get?_map (f : ρ → θ) (m : TypeSnapshot ρ) (p : TypeParameter) :
    (m.map f).get? p = (m.get? p).map f := by
  simp only [get?, getNamed?, getIndexed?, map, Table.lookup_map]
  cases m.named.lookup (m.comparer.key p.name) <;> rfl

namespace TypeMappings

def map (f : ρ → θ) (m : TypeMappings ρ) : TypeMappings θ :=
  ⟨m.comparer, m.refusesRebuild, m.indexed.map (Prod.map id f), m.named.map (Prod.map id f),
    m.built⟩

theorem indexRefusal?_map (f : ρ → θ) (m : TypeMappings ρ) (index : Nat) :
    (m.map f).indexRefusal? index = m.indexRefusal? index := by
  simp only [indexRefusal?, indices, map, Table.keys_map, List.isEmpty_map]
  rfl

theorem nameRefusal?_map (f : ρ → θ) (m : TypeMappings ρ) (name : String) :
    (m.map f).nameRefusal? name = m.nameRefusal? name := by
  simp only [nameRefusal?, holdsName, keys, map, Table.keys_map, List.isEmpty_map]
  rfl

theorem addIndexed_map (f : ρ → θ) (m : TypeMappings ρ) (index : Nat) (r : ρ) :
    (m.map f).addIndexed index (f r) =
      ((m.addIndexed index r).1.map f, (m.addIndexed index r).2) := by
  simp only [addIndexed, indexRefusal?_map]
  cases m.indexRefusal? index with
  | some e => rfl
  | none =>
    simp only [insertIndexed, map, List.map_append, List.map_cons, List.map_nil, Prod.map, id]

theorem addNamed_map (f : ρ → θ) (m : TypeMappings ρ) (name : String) (r : ρ) :
    (m.map f).addNamed name (f r) = ((m.addNamed name r).1.map f, (m.addNamed name r).2) := by
  simp only [addNamed, nameRefusal?_map]
  cases m.nameRefusal? name with
  | some e => rfl
  | none =>
    simp only [insertNamed, map, List.map_append, List.map_cons, List.map_nil, Prod.map, id]

theorem build_map (f : ρ → θ) (m : TypeMappings ρ) :
    (m.map f).build = (m.build.1.map f, m.build.2.map (TypeSnapshot.map f)) := by
  unfold build
  change (if m.built && m.refusesRebuild then _ else _) = _
  cases m.built && m.refusesRebuild <;> rfl

end TypeMappings

namespace Snapshot

def map (h : F.Hom G) (m : Snapshot F) : Snapshot G :=
  ⟨m.types.map h.type, m.constructors.map h.constructor, m.named.map h.named⟩

theorem typeRecorder_map (h : F.Hom G) (m : Snapshot F) (p : TypeParameter) :
    (m.map h).typeRecorder p = (m.typeRecorder p).map h.type := by
  simp only [typeRecorder, map, TypeSnapshot.get?_map, Lookup.orEvent, Lookup.map,
    Option.isNone_map]

theorem constructorRecorder_map (h : F.Hom G) (m : Snapshot F) (p : Parameter) :
    (m.map h).constructorRecorder p = (m.constructorRecorder p).map h.constructor := by
  simp only [constructorRecorder, map, NamedSnapshot.get?_map, Lookup.orEvent, Lookup.map,
    Option.isNone_map]

theorem namedRecorder_map (h : F.Hom G) (m : Snapshot F) (name : String) :
    (m.map h).namedRecorder name = (m.namedRecorder name).map h.named := by
  simp only [namedRecorder, map, NamedSnapshot.get?_map, Lookup.orEvent, Lookup.map,
    Option.isNone_map]

end Snapshot

namespace Registry

def map (h : F.Hom G) (m : Registry F) : Registry G :=
  ⟨m.types.map h.type, m.constructors.map h.constructor, m.named.map h.named⟩

theorem build_map (h : F.Hom G) (m : Registry F) :
    (m.map h).build = (m.build.1.map h, m.build.2.map (Snapshot.map h)) := by
  simp only [build, buildTypes, buildConstructors, buildNamed, map, TypeMappings.build_map]
  rcases m.types.build with ⟨types, _ | t⟩
  · rfl
  simp only [Except.map, NamedMappings.build_map]
  rcases m.constructors.build with ⟨constructors, _ | c⟩
  · rfl
  simp only [Except.map, NamedMappings.build_map]
  rcases m.named.build with ⟨named, _ | n⟩ <;> rfl

theorem buildPart_map (h : F.Hom G) (m : Registry F) (part : Option Category) :
    ((m.map h).buildPart part).1 = (m.buildPart part).1.map h ∧
    ((m.map h).buildPart part).2.map (fun _ => ()) = (m.buildPart part).2.map fun _ => () := by
  match part with
  | none =>
    simp only [buildPart, build_map, true_and]
    cases m.build.2 <;> rfl
  | some .type =>
    simp only [buildPart, buildTypes, map, TypeMappings.build_map, true_and]
    cases m.types.build.2 <;> rfl
  | some .constructor =>
    simp only [buildPart, buildConstructors, map, NamedMappings.build_map, true_and]
    cases m.constructors.build.2 <;> rfl
  | some .named =>
    simp only [buildPart, buildNamed, map, NamedMappings.build_map, true_and]
    cases m.named.build.2 <;> rfl

end Registry

namespace Operation

def map (h : F.Hom G) : Operation F → Operation G
  | mapIndex index r => mapIndex index (h.type r)
  | mapType name r => mapType name (h.type r)
  | mapConstructor name r => mapConstructor name (h.constructor r)
  | mapNamed name r => mapNamed name (h.named r)
  | build part => build part

theorem apply_map (h : F.Hom G) (m : Registry F) (op : Operation F) :
    (op.map h).apply (m.map h) = ((op.apply m).1.map h, (op.apply m).2) := by
  cases op with
  | mapIndex index r => simp only [map, apply, Registry.map, TypeMappings.addIndexed_map]
  | mapType name r => simp only [map, apply, Registry.map, TypeMappings.addNamed_map]
  | mapConstructor name r => simp only [map, apply, Registry.map, NamedMappings.add_map]
  | mapNamed name r => simp only [map, apply, Registry.map, NamedMappings.add_map]
  | build part =>
    obtain ⟨hm, hr⟩ := Registry.buildPart_map h m part
    simp only [map, apply, hm, hr]

end Operation

def Progress.map (h : F.Hom G) : Progress F → Progress G
  | running => running
  | ready m => ready (m.map h)
  | failed e => failed e

def HookRun.map {ω : Type} (h : F.Hom G) (r : HookRun F ω) : HookRun G ω :=
  ⟨r.registry.map h, r.result, r.remarks⟩

/-- Makes the operations in turn. The refusal of a required one ends the hook, that of any other
is passed over. -/
def Hook.ofList {ω : Type} : List (Operation F × Bool) → Hook F ω
  | [] => finish (.ok ())
  | (op, required) :: ops =>
    operate op fun result =>
      match required, result with
      | true, .error e => finish (.error e)
      | _, _ => ofList ops

theorem Hook.run_ofList_map {ω : Type} (h : F.Hom G) (ops : List (Operation F × Bool))
    (m : Registry F) :
    (ofList (ω := ω) (ops.map (Prod.map (Operation.map h) id))).run .running (m.map h) =
      ((ofList (ω := ω) ops).run .running m).map h := by
  induction ops generalizing m with
  | nil => rfl
  | cons x ops ih =>
    obtain ⟨op, required⟩ := x
    have hn := ih (op.apply m).1
    simp only [List.map_cons, Prod.map, id, ofList, run, Operation.apply_map]
    cases (op.apply m).2 with
    | ok => cases required <;> exact hn
    | error e =>
      cases required with
      | true => rfl
      | false => exact hn

namespace Mapper

variable {ω : Type}

def ofList (options : MapperOptions) (ops : List (Operation F × Bool)) : Mapper F ω :=
  { options, hook := .ofList ops }

theorem settle_map (h : F.Hom G) (r : HookRun F ω) : settle (r.map h) = (settle r).map h := by
  obtain ⟨m, result, remarks⟩ := r
  match result with
  | none => rfl
  | some (.error e) => rfl
  | some (.ok ()) =>
    simp only [settle, HookRun.map, Registry.build_map]
    cases m.build.2 <;> rfl

theorem obtain_ofList_map (h : F.Hom G) (options : MapperOptions)
    (ops : List (Operation F × Bool)) :
    (ofList (ω := ω) options (ops.map (Prod.map (Operation.map h) id))).obtain.verdict =
      (ofList (ω := ω) options ops).obtain.verdict.map (Snapshot.map h) := by
  have hr : (ofList (ω := ω) options (ops.map (Prod.map (Operation.map h) id))).runHook =
      ((ofList (ω := ω) options ops).runHook).map h :=
    Hook.run_ofList_map h ops (.empty options.comparer options.refusesRebuild)
  have hv (r : HookRun F ω) :
      (if (r.map h).result.isNone then .error .aborted else (settle (r.map h)).verdict) =
        Except.map (Snapshot.map h)
          (if r.result.isNone then .error .aborted else (settle r).verdict) := by
    rw [settle_map]
    change (if r.result.isNone then _ else _) = _
    cases r.result.isNone with
    | true => rfl
    | false => cases settle r <;> rfl
  change (start _).verdict = (start _).verdict.map _
  simp only [start, hr]
  exact hv _

end Mapper

end AttributeArguments
