import AttributeArguments.Proofs.Initialization
import AttributeArguments.Proofs.Ledger

/-!
# What a mapper serves

A hook leaves a trail of operations on the registry, each with its outcome. The mapper that runs
it serves the registrations of the trail that were accepted, and nothing else: one recorder at most
for each parameter, by the comparer of its category. It fails with the refusal that the hook ended
with, or because the hook built the registry, or a part of it, and rebuilding is not allowed.
-/
namespace AttributeArguments

variable {F : Family} {ω ρ : Type}

abbrev Step (F : Family) := Operation F × Except Refusal Unit

/-- What a hook does to the registry while it runs. -/
def Hook.trail (progress : Progress F) : Hook F ω → Registry F → List (Step F)
  | finish _, _ => []
  | abort, _ => []
  | operate op next, m =>
    (op, (op.apply m).2) :: (next (op.apply m).2).trail progress (op.apply m).1
  | lookup next, m => (next progress.verdict).trail progress m
  | inspect next, m => (next progress.isReady).trail progress m
  | remark _ next, m => next.trail progress m

def accepted (trail : List (Step F)) : List (Operation F) :=
  (trail.filter fun x => x.2.isOk).map Prod.fst

theorem NamedMappings.addWith_created {β : Type} (m : NamedMappings ρ) (n : String)
    (create : β → ρ × β) (b : β) :
    m.addWith n create b =
      (m.add n (create b).1, bif (m.add n (create b).1).2.isOk then (create b).2 else b) := by
  simp only [addWith, add]
  cases m.refusal? n <;> rfl

namespace Operation

def isBuild : Operation F → Bool
  | build _ => true
  | _ => false

def type? : Operation F → Option (TypeKey × F.type)
  | mapIndex index r => some (.index index, r)
  | mapType name r => some (.name name, r)
  | _ => none

def constructor? : Operation F → Option (String × F.constructor)
  | mapConstructor name r => some (name, r)
  | _ => none

def named? : Operation F → Option (String × F.named)
  | mapNamed name r => some (name, r)
  | _ => none

def created {β : Type} (b : β) : Operation (F.creators β) → Operation F × β
  | mapIndex index create => (mapIndex index (create b).1, (create b).2)
  | mapType name create => (mapType name (create b).1, (create b).2)
  | mapConstructor name create => (mapConstructor name (create b).1, (create b).2)
  | mapNamed name create => (mapNamed name (create b).1, (create b).2)
  | build part => (build part, b)

theorem applyCreating_eq {β : Type} (m : Registry F) (b : β) (op : Operation (F.creators β)) :
    op.applyCreating m b = ((op.created b).1.apply m,
      bif ((op.created b).1.apply m).2.isOk then (op.created b).2 else b) := by
  cases op with
  | mapIndex index create =>
    have h := m.types.addWith_created (.index index) create b
    simp only [TypeMappings.addWith, TypeMappings.add] at h
    simp only [applyCreating, h]
    rfl
  | mapType name create =>
    have h := m.types.addWith_created (.name name) create b
    simp only [TypeMappings.addWith, TypeMappings.add] at h
    simp only [applyCreating, h]
    rfl
  | mapConstructor name create =>
    simp only [applyCreating, m.constructors.addWith_created name create b]
    rfl
  | mapNamed name create =>
    simp only [applyCreating, m.named.addWith_created name create b]
    rfl
  | build part => exact Prod.ext rfl (Bool.cond_self _ b).symm

end Operation

namespace Hook

def create {β : Type} (op : Operation (F.creators β)) (b : β)
    (next : Except Refusal Unit → β → Hook F ω) : Hook F ω :=
  operate (op.created b).1 fun verdict =>
    next verdict (bif verdict.isOk then (op.created b).2 else b)

end Hook

/-- Of the entries at most one has a key that suits, and `found` is its recorder. -/
def OnlyEntry {κ : Type} (entries : List (κ × ρ)) (suits : κ → Bool) (found : Option ρ) : Prop :=
  (entries.filter fun x => suits x.1).length ≤ 1 ∧
    found = (entries.filter fun x => suits x.1).head?.map Prod.snd

/-- The snapshot has the recorders of the registrations among the operations. -/
structure Snapshot.Serves (c : ParameterComparer) (ops : List (Operation F)) (s : Snapshot F) :
    Prop where
  type : ∀ p, OnlyEntry (ops.filterMap Operation.type?) (fun k => k.isFor c.type p)
    (s.typeRecorder p).found
  constructor : ∀ p, OnlyEntry (ops.filterMap Operation.constructor?)
    (fun name => c.constructor.equals name p.name) (s.constructorRecorder p).found
  named : ∀ name, OnlyEntry (ops.filterMap Operation.named?)
    (fun other => c.named.equals other name) (s.namedRecorder name).found

namespace TypeMappings

def Holds (c : NameComparer) (refusesRebuild : Bool) (entries : List (TypeKey × ρ))
    (m : TypeMappings ρ) : Prop :=
  ∃ built, m.Represents c refusesRebuild ⟨entries, built⟩

variable {c : NameComparer} {refusesRebuild : Bool} {entries : List (TypeKey × ρ)}
  {m : TypeMappings ρ}

theorem Holds.add (h : m.Holds c refusesRebuild entries) (k : TypeKey) (r : ρ) :
    (m.add k r).1.Holds c refusesRebuild
      (entries ++ if (m.add k r).2.isOk then [(k, r)] else []) := by
  obtain ⟨built, h⟩ := h
  refine ⟨built, ?_⟩
  have entered := h.enter k r
  cases hv : (m.add k r).2 with
  | error e =>
    rw [hv] at entered
    simp only [Except.isOk, Except.toBool, Bool.false_eq_true, ↓reduceIte, List.append_nil]
    exact entered
  | ok =>
    rw [hv] at entered
    exact entered

theorem Holds.build (h : m.Holds c refusesRebuild entries) :
    m.build.1.Holds c refusesRebuild entries := by
  obtain ⟨built, h⟩ := h
  exact ⟨true, h.build.1⟩

theorem Holds.build_verdict (h : m.Holds c refusesRebuild entries) :
    m.build.2 =
      if m.built && refusesRebuild then .error .alreadyBuilt else .ok m.snapshot := by
  obtain ⟨built, h⟩ := h
  rw [h.build.2, h.built]

theorem Holds.onlyEntry (h : m.Holds c refusesRebuild entries) (p : TypeParameter) :
    OnlyEntry entries (fun k => k.isFor c p) (m.snapshot.get? p) := by
  obtain ⟨built, h⟩ := h
  exact ⟨h.length_filter_le_one p, h.get? p⟩

theorem built_build (m : TypeMappings ρ) : m.build.1.built = true := by
  rw [build]
  split_ifs with hb
  · exact (Bool.and_eq_true _ _ ▸ hb).1
  · rfl

theorem built_add (m : TypeMappings ρ) (k : TypeKey) (r : ρ) : (m.add k r).1.built = m.built := by
  rw [add_eq]
  cases m.refusal? k with
  | some e => rfl
  | none => cases k <;> rfl

end TypeMappings

namespace NamedMappings

def Holds (c : NameComparer) (refusesRebuild : Bool) (entries : List (String × ρ))
    (m : NamedMappings ρ) : Prop :=
  m.asTypes.Holds c refusesRebuild (entries.map (Prod.map TypeKey.name id))

variable {c : NameComparer} {refusesRebuild : Bool} {entries : List (String × ρ)}
  {m : NamedMappings ρ}

theorem Holds.add (h : m.Holds c refusesRebuild entries) (n : String) (r : ρ) :
    (m.add n r).1.Holds c refusesRebuild
      (entries ++ if (m.add n r).2.isOk then [(n, r)] else []) := by
  have added := TypeMappings.Holds.add h (.name n) r
  rw [asTypes_add] at added
  rw [Holds, List.map_append, apply_ite (List.map _)]
  exact added

theorem Holds.build (h : m.Holds c refusesRebuild entries) :
    m.build.1.Holds c refusesRebuild entries := by
  have built := TypeMappings.Holds.build h
  rw [asTypes_build] at built
  exact built

theorem Holds.build_verdict (h : m.Holds c refusesRebuild entries) :
    m.build.2 =
      if m.built && refusesRebuild then .error .alreadyBuilt else .ok m.snapshot := by
  obtain ⟨_, h⟩ := h
  have refuses : m.refusesRebuild = refusesRebuild := h.refuses
  rw [← refuses, NamedMappings.build]
  split_ifs <;> rfl

theorem Holds.onlyEntry (h : m.Holds c refusesRebuild entries) (n : String) :
    OnlyEntry entries (fun k => c.equals k n) (m.snapshot.get? n) := by
  -- A name is looked up as the parameter of that name, with any ordinal.
  obtain ⟨one, found⟩ := TypeMappings.Holds.onlyEntry h ⟨n, 0⟩
  have filtered := Ledger.filter_mapKey ⟨entries, false⟩ c n 0
  simp only [Ledger.mapKey] at filtered
  rw [filtered] at one found
  rw [List.length_map] at one
  rw [List.head?_map, Option.map_map] at found
  refine ⟨one, ?_⟩
  rw [← NamedSnapshot.get?_asTypes m.snapshot n 0]
  exact found

theorem built_build (m : NamedMappings ρ) : m.build.1.built = true := by
  have built := m.asTypes.built_build
  rw [asTypes_build] at built
  exact built

theorem built_add (m : NamedMappings ρ) (n : String) (r : ρ) : (m.add n r).1.built = m.built := by
  have built := m.asTypes.built_add (.name n) r
  rw [asTypes_add] at built
  exact built

end NamedMappings

theorem filterMap_accepted_snoc {α : Type} (f : Operation F → Option α) (ops : List (Operation F))
    (op : Operation F) (verdict : Except Refusal Unit) :
    (ops ++ accepted [(op, verdict)]).filterMap f =
      ops.filterMap f ++ if verdict.isOk then (f op).toList else [] := by
  rw [List.filterMap_append]
  cases verdict with
  | error e => rfl
  | ok => cases hf : f op <;> simp [accepted, Except.isOk, Except.toBool, hf]

theorem filterMap_accepted_other {α : Type} {f : Operation F → Option α} {op : Operation F}
    (other : f op = none) (ops : List (Operation F)) (verdict : Except Refusal Unit) :
    (ops ++ accepted [(op, verdict)]).filterMap f = ops.filterMap f := by
  rw [filterMap_accepted_snoc, other, Option.toList_none, ite_self, List.append_nil]

namespace Registry

structure Holds (c : ParameterComparer) (refusesRebuild : Bool) (ops : List (Operation F))
    (m : Registry F) : Prop where
  types : m.types.Holds c.type refusesRebuild (ops.filterMap Operation.type?)
  constructors : m.constructors.Holds c.constructor refusesRebuild
    (ops.filterMap Operation.constructor?)
  named : m.named.Holds c.named refusesRebuild (ops.filterMap Operation.named?)

def anyBuilt (m : Registry F) : Bool := m.types.built || m.constructors.built || m.named.built

def snapshot (m : Registry F) : Snapshot F :=
  ⟨m.types.snapshot, m.constructors.snapshot, m.named.snapshot⟩

variable {c : ParameterComparer} {refusesRebuild : Bool} {ops : List (Operation F)}
  {m : Registry F}

theorem holds_empty (c : ParameterComparer) (refusesRebuild : Bool) :
    (empty c refusesRebuild : Registry F).Holds c refusesRebuild [] where
  types := ⟨false, rfl, rfl, rfl, rfl, rfl, .nil⟩
  constructors := ⟨false, rfl, rfl, rfl, rfl, rfl, .nil⟩
  named := ⟨false, rfl, rfl, rfl, rfl, rfl, .nil⟩

theorem anyBuilt_eq_false_iff : m.anyBuilt = false ↔ ∀ part, m.built part = false := by
  rw [anyBuilt, Bool.or_eq_false_iff, Bool.or_eq_false_iff]
  constructor
  · intro ⟨⟨types, constructors⟩, named⟩ part
    cases part with
    | type => exact types
    | constructor => exact constructors
    | named => exact named
  · intro h
    exact ⟨⟨h .type, h .constructor⟩, h .named⟩

theorem Holds.buildTypes (h : m.Holds c refusesRebuild ops) :
    m.buildTypes.1.Holds c refusesRebuild ops :=
  ⟨h.types.build, h.constructors, h.named⟩

theorem Holds.buildConstructors (h : m.Holds c refusesRebuild ops) :
    m.buildConstructors.1.Holds c refusesRebuild ops :=
  ⟨h.types, h.constructors.build, h.named⟩

theorem Holds.buildNamed (h : m.Holds c refusesRebuild ops) :
    m.buildNamed.1.Holds c refusesRebuild ops :=
  ⟨h.types, h.constructors, h.named.build⟩

theorem build_cases (m : Registry F) :
    m.build.1 = m.buildTypes.1 ∨ m.build.1 = m.buildTypes.1.buildConstructors.1 ∨
      m.build.1 = m.buildTypes.1.buildConstructors.1.buildNamed.1 := by
  rw [build]
  rcases m.buildTypes with ⟨m₁, e | types⟩
  · exact .inl rfl
  right
  dsimp only
  rcases m₁.buildConstructors with ⟨m₂, e | constructors⟩
  · exact .inl rfl
  right
  dsimp only
  rcases m₂.buildNamed with ⟨m₃, e | named⟩ <;> rfl

theorem build_verdict (m : Registry F) :
    m.build.2 = do
      let types ← m.types.build.2
      let constructors ← m.constructors.build.2
      let named ← m.named.build.2
      return ⟨types, constructors, named⟩ := by
  rcases ht : m.types.build with ⟨_, e | types⟩ <;> simp only [build, buildTypes, ht]
  · rfl
  rcases hc : m.constructors.build with ⟨_, e | constructors⟩ <;> simp only [buildConstructors, hc]
  · rfl
  rcases hn : m.named.build with ⟨_, e | named⟩ <;> simp only [buildNamed, hn] <;> rfl

theorem Holds.build (h : m.Holds c refusesRebuild ops) :
    m.build.1.Holds c refusesRebuild ops := by
  rcases m.build_cases with hb | hb | hb <;> rw [hb]
  · exact h.buildTypes
  · exact h.buildTypes.buildConstructors
  · exact h.buildTypes.buildConstructors.buildNamed

theorem Holds.buildPart (h : m.Holds c refusesRebuild ops) (part : Option Category) :
    (m.buildPart part).1.Holds c refusesRebuild ops := by
  match part with
  | none => exact h.build
  | some .type => exact h.buildTypes
  | some .constructor => exact h.buildConstructors
  | some .named => exact h.buildNamed

theorem Holds.addType (h : m.Holds c refusesRebuild ops) (k : TypeKey) (r : F.type)
    {op : Operation F} (entry : op.type? = some (k, r)) (no_constructor : op.constructor? = none)
    (no_named : op.named? = none) :
    let a := m.types.add k r
    ({ m with types := a.1 } : Registry F).Holds c refusesRebuild
      (ops ++ accepted [(op, a.2)]) := by
  refine ⟨?_, ?_, ?_⟩
  · rw [filterMap_accepted_snoc, entry]
    exact h.types.add k r
  · rw [filterMap_accepted_other no_constructor]
    exact h.constructors
  · rw [filterMap_accepted_other no_named]
    exact h.named

theorem Holds.apply (h : m.Holds c refusesRebuild ops) (op : Operation F) :
    (op.apply m).1.Holds c refusesRebuild (ops ++ accepted [(op, (op.apply m).2)]) := by
  cases op with
  | mapIndex i r => exact h.addType (.index i) r rfl rfl rfl
  | mapType n r => exact h.addType (.name n) r rfl rfl rfl
  | mapConstructor n r =>
    refine ⟨?_, ?_, ?_⟩
    · rw [filterMap_accepted_other rfl]
      exact h.types
    · rw [filterMap_accepted_snoc]
      exact h.constructors.add n r
    · rw [filterMap_accepted_other rfl]
      exact h.named
  | mapNamed n r =>
    refine ⟨?_, ?_, ?_⟩
    · rw [filterMap_accepted_other rfl]
      exact h.types
    · rw [filterMap_accepted_other rfl]
      exact h.constructors
    · rw [filterMap_accepted_snoc]
      exact h.named.add n r
  | build part =>
    have hp := h.buildPart part
    refine ⟨?_, ?_, ?_⟩
    · rw [filterMap_accepted_other rfl]
      exact hp.types
    · rw [filterMap_accepted_other rfl]
      exact hp.constructors
    · rw [filterMap_accepted_other rfl]
      exact hp.named

theorem Holds.serves (h : m.Holds c refusesRebuild ops) : m.snapshot.Serves c ops where
  type := h.types.onlyEntry
  constructor p := h.constructors.onlyEntry p.name
  named := h.named.onlyEntry

theorem Holds.build_eq (h : m.Holds c refusesRebuild ops) :
    m.build.2 =
      if m.anyBuilt && refusesRebuild then .error .alreadyBuilt else .ok m.snapshot := by
  have ht := h.types.build_verdict
  have hc := h.constructors.build_verdict
  have hn := h.named.build_verdict
  rw [Registry.build_verdict, ht, hc, hn, anyBuilt]
  cases refusesRebuild <;> cases m.types.built <;> cases m.constructors.built <;>
    cases m.named.built <;> rfl

theorem anyBuilt_build (m : Registry F) : m.build.1.anyBuilt = true := by
  have ht : m.build.1.types.built = true := by
    rcases m.build_cases with hb | hb | hb <;> rw [hb] <;> exact m.types.built_build
  rw [anyBuilt, ht, Bool.true_or, Bool.true_or]

theorem anyBuilt_buildPart (m : Registry F) (part : Option Category) :
    (m.buildPart part).1.anyBuilt = true := by
  match part with
  | none => exact m.anyBuilt_build
  | some .type =>
    change (m.types.build.1.built || m.constructors.built || m.named.built) = true
    rw [m.types.built_build, Bool.true_or, Bool.true_or]
  | some .constructor =>
    change (m.types.built || m.constructors.build.1.built || m.named.built) = true
    rw [m.constructors.built_build, Bool.or_true, Bool.true_or]
  | some .named =>
    change (m.types.built || m.constructors.built || m.named.build.1.built) = true
    rw [m.named.built_build, Bool.or_true]

theorem anyBuilt_apply (m : Registry F) (op : Operation F) :
    (op.apply m).1.anyBuilt = (m.anyBuilt || op.isBuild) := by
  cases op with
  | mapIndex i r =>
    change ((m.types.add (.index i) r).1.built || _ || _) = (m.anyBuilt || false)
    rw [m.types.built_add, Bool.or_false]
    rfl
  | mapType n r =>
    change ((m.types.add (.name n) r).1.built || _ || _) = (m.anyBuilt || false)
    rw [m.types.built_add, Bool.or_false]
    rfl
  | mapConstructor n r =>
    change (_ || (m.constructors.add n r).1.built || _) = (m.anyBuilt || false)
    rw [m.constructors.built_add, Bool.or_false]
    rfl
  | mapNamed n r =>
    change (_ || _ || (m.named.add n r).1.built) = (m.anyBuilt || false)
    rw [m.named.built_add, Bool.or_false]
    rfl
  | build part => exact (m.anyBuilt_buildPart part).trans (Bool.or_true _).symm

end Registry

theorem accepted_cons (x : Step F) (xs : List (Step F)) :
    accepted (x :: xs) = accepted [x] ++ accepted xs := by
  rw [accepted, ← List.singleton_append, List.filter_append, List.map_append]
  rfl

namespace Hook

theorem holds_run {c : ParameterComparer} {refusesRebuild : Bool} (p : Progress F)
    (h : Hook F ω) {ops : List (Operation F)} {m : Registry F}
    (held : m.Holds c refusesRebuild ops) :
    (h.run p m).registry.Holds c refusesRebuild (ops ++ accepted (h.trail p m)) := by
  induction h generalizing ops m with
  | finish result =>
    rw [trail, accepted, List.filter_nil, List.map_nil, List.append_nil]
    exact held
  | abort =>
    rw [trail, accepted, List.filter_nil, List.map_nil, List.append_nil]
    exact held
  | operate op next ih =>
    have rest := ih (op.apply m).2 (held.apply op)
    rw [List.append_assoc, ← accepted_cons] at rest
    exact rest
  | lookup next ih => exact ih _ held
  | inspect next ih => exact ih _ held
  | remark o next ih => exact ih held

theorem anyBuilt_run (p : Progress F) (h : Hook F ω) (m : Registry F) :
    (h.run p m).registry.anyBuilt = (m.anyBuilt || (h.trail p m).any fun x => x.1.isBuild) := by
  induction h generalizing m with
  | finish result => exact (Bool.or_false _).symm
  | abort => exact (Bool.or_false _).symm
  | operate op next ih =>
    have rest := ih (op.apply m).2 (op.apply m).1
    rw [Registry.anyBuilt_apply, Bool.or_assoc] at rest
    exact rest
  | lookup next ih => exact ih _ m
  | inspect next ih => exact ih _ m
  | remark o next ih => exact ih m

end Hook

namespace Mapper

theorem obtain_verdict {m : Mapper F ω} (unasked : m.progress = none) :
    m.obtain.verdict = match m.runHook.result with
      | none => .error .aborted
      | some (.error refusal) => .error (.initialization refusal)
      | some (.ok ()) => m.runHook.registry.build.2.mapError .initialization := by
  cases hr : m.runHook.result with
  | none => exact (obtain_aborted unasked hr).2
  | some result =>
    have finishes : m.runHook.result.isSome = true := by rw [hr]; rfl
    rw [(obtain_settled unasked hr).2, HookRun.verdict_settle finishes, HookRun.outcome, hr]
    cases result <;> rfl

theorem result_of_isOk {m : Mapper F ω} (unasked : m.progress = none)
    (ok : m.obtain.verdict.isOk = true) : m.runHook.result = some (.ok ()) := by
  rw [obtain_verdict unasked] at ok
  match hr : m.runHook.result with
  | none =>
    rw [hr] at ok
    cases ok
  | some (.error refusal) =>
    rw [hr] at ok
    cases ok
  | some (.ok ()) => rfl

theorem obtain_verdict_of_holds {m : Mapper F ω} (unasked : m.progress = none)
    {c : ParameterComparer} {refusesRebuild : Bool} {ops : List (Operation F)}
    (held : m.runHook.registry.Holds c refusesRebuild ops)
    (returned : m.runHook.result = some (.ok ())) :
    m.obtain.verdict =
      if m.runHook.registry.anyBuilt && refusesRebuild then
        .error (.initialization .alreadyBuilt)
      else .ok m.runHook.registry.snapshot := by
  rw [obtain_verdict unasked, returned, held.build_eq]
  split_ifs <;> rfl

/-- What a mapper serves: the accepted registrations of its hook, if the hook finishes without a
refusal and either rebuilding is allowed or the hook built nothing. -/
theorem serves_registered (options : MapperOptions) (hook : Hook F ω) :
    let start : Mapper F ω := { options, hook }
    let r := start.runHook
    let trail := hook.trail .running start.empty
    let served := start.obtain.verdict
    (∀ q : Request, q.isLookup = true → (start.ask q).2 = q.response served false) ∧
    (served.isOk = true ↔ r.result = some (.ok ()) ∧
      (options.refusesRebuild = false ∨ ∀ part, r.registry.built part = false)) ∧
    (∀ refusal, r.result = some (.error refusal) →
      served = .error (.initialization refusal)) ∧
    (r.result = some (.ok ()) → served.isOk = false →
      served = .error (.initialization .alreadyBuilt)) ∧
    ((∀ part, r.registry.built part = false) ↔ ∀ x ∈ trail, x.1.isBuild = false) ∧
    ∀ s, served = .ok s → s.Serves options.comparer (accepted trail) := by
  intro start r trail served
  have held : r.registry.Holds options.comparer options.refusesRebuild (accepted trail) :=
    hook.holds_run .running (Registry.holds_empty options.comparer options.refusesRebuild)
  have built : r.registry.anyBuilt = trail.any fun x => x.1.isBuild :=
    hook.anyBuilt_run .running start.empty
  have finished (hr : r.result = some (.ok ())) : served =
      if r.registry.anyBuilt && options.refusesRebuild then .error (.initialization .alreadyBuilt)
      else .ok r.registry.snapshot := obtain_verdict_of_holds rfl held hr
  have allowed : (r.registry.anyBuilt && options.refusesRebuild) = false ↔
      options.refusesRebuild = false ∨ r.registry.anyBuilt = false := by
    rw [Bool.and_eq_false_iff, or_comm]
  rw [← Registry.anyBuilt_eq_false_iff, ← allowed]
  refine ⟨?_, ⟨?_, ?_⟩, ?_, ?_, ?_, ?_⟩
  · intro q lookup
    rw [ask_eq]
    rfl
  · intro ok
    have hr : r.result = some (.ok ()) := result_of_isOk rfl ok
    refine ⟨hr, ?_⟩
    rw [finished hr] at ok
    split_ifs at ok with hb
    · cases ok
    · exact Bool.eq_false_iff.mpr hb
  · intro ⟨hr, hb⟩
    rw [finished hr, hb]
    rfl
  · intro refusal hr
    have verdict := start.obtain_verdict rfl
    rw [hr] at verdict
    exact verdict
  · intro hr no
    rw [finished hr] at no ⊢
    split_ifs at no ⊢
    · rfl
    · cases no
  · rw [built, List.any_eq_false]
    simp only [Bool.not_eq_true]
  · intro s hs
    have ok : served.isOk = true := by
      rw [hs]
      rfl
    have hr : r.result = some (.ok ()) := result_of_isOk rfl ok
    rw [finished hr] at hs
    split_ifs at hs
    cases hs
    exact held.serves

def stubborn : Hook ⟨Nat, Nat, Nat⟩ String :=
  .operate (.mapConstructor "Name" 1) fun _ =>
  .operate (.build (some .constructor)) fun _ =>
  .create (.mapConstructor "Size" fun n => (n, n + 1)) 2 fun _ n =>
  .operate (.mapIndex 0 n) fun _ =>
  .operate (.mapType "T" 3) fun _ => .finish (.ok ())

theorem serves_registered_stubborn :
    ({ options := {}, hook := stubborn } : Mapper _ _).obtain.verdict =
      .error (.initialization .alreadyBuilt) ∧
    ∃ s,
      ({ options := { refusesRebuild := false }, hook := stubborn } : Mapper _ _).obtain.verdict =
        .ok s ∧
      (s.constructorRecorder ⟨"Name", 0, .normal⟩).found = some 1 ∧
      (s.constructorRecorder ⟨"Size", 1, .normal⟩).found = none ∧
      (s.typeRecorder ⟨"T", 0⟩).found = some 2 := by
  obtain ⟨-, -, -, built, -⟩ := serves_registered {} stubborn
  obtain ⟨-, finished, -, -, -, serves⟩ := serves_registered { refusesRebuild := false } stubborn
  have ok := finished.mpr ⟨rfl, .inl rfl⟩
  refine ⟨built rfl rfl, ?_⟩
  cases hs : ({ options := { refusesRebuild := false }, hook := stubborn } :
      Mapper _ _).obtain.verdict with
  | error e =>
    rw [hs] at ok
    cases ok
  | ok s =>
    have h := serves s hs
    refine ⟨s, rfl, ?_, ?_, ?_⟩
    · exact (h.constructor _).2
    · exact (h.constructor _).2
    · exact (h.type _).2

end Mapper

end AttributeArguments
