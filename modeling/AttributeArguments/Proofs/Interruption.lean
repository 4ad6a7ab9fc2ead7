import AttributeArguments.Proofs.Service

/-!
# Interrupted builds

A registry is built category by category, up to the first one that was built before and refuses to
be built again. The categories that come before it are left built: no snapshot of them is given
out, and one that was open takes no registrations any more. So a refused build is not without
effect, unless those categories were built before it.
-/
namespace AttributeArguments

variable {F : Family} {ρ : Type}

theorem TypeMappings.add_of_built (m : TypeMappings ρ) (built : m.built = true) (k : TypeKey)
    (r : ρ) : (m.add k r).2 = .error .alreadyBuilt := by
  rw [add_eq]
  cases k <;> simp only [refusal?, indexRefusal?, nameRefusal?, built, ↓reduceIte]

theorem NamedMappings.add_of_built (m : NamedMappings ρ) (built : m.built = true) (n : String)
    (r : ρ) : (m.add n r).2 = .error .alreadyBuilt := by
  simp only [add, refusal?, built, ↓reduceIte]

def Operation.registersIn? : Operation F → Option Category
  | mapIndex _ _ => some .type
  | mapType _ _ => some .type
  | mapConstructor _ _ => some .constructor
  | mapNamed _ _ => some .named
  | build _ => none

namespace Registry

def buildOrder : List Category := [.type, .constructor, .named]

def run (m : Registry F) (ops : List (Operation F)) : Registry F :=
  ops.foldl (fun m op => (op.apply m).1) m

def refusesBuild (m : Registry F) : Category → Bool
  | .type => m.types.built && m.types.refusesRebuild
  | .constructor => m.constructors.built && m.constructors.refusesRebuild
  | .named => m.named.built && m.named.refusesRebuild

def closing (m : Registry F) (cs : List Category) : Registry F where
  types := { m.types with built := m.types.built || decide (.type ∈ cs) }
  constructors := { m.constructors with
    built := m.constructors.built || decide (.constructor ∈ cs) }
  named := { m.named with built := m.named.built || decide (.named ∈ cs) }

def buildable (m : Registry F) : List Category :=
  buildOrder.takeWhile fun c => !m.refusesBuild c

theorem closing_eq_self_iff (m : Registry F) (cs : List Category) :
    m.closing cs = m ↔ ∀ c ∈ cs, m.built c = true := by
  have flag (old : Bool) (c : Category) :
      (old || decide (c ∈ cs)) = old ↔ c ∈ cs → old = true := by
    cases old <;> simp
  constructor
  · intro same c hc
    have kept : (m.closing cs).built c = m.built c := by rw [same]
    cases c with
    | type => exact (flag _ _).mp kept hc
    | constructor => exact (flag _ _).mp kept hc
    | named => exact (flag _ _).mp kept hc
  · intro built
    have types := (flag m.types.built _).mpr (built .type)
    have constructors := (flag m.constructors.built _).mpr (built .constructor)
    have named := (flag m.named.built _).mpr (built .named)
    rw [closing, types, constructors, named]

theorem build_eq (m : Registry F) :
    m.build = (m.closing m.buildable,
      if m.buildable = buildOrder then .ok m.snapshot else .error .alreadyBuilt) := by
  have types : m.types.build = if m.refusesBuild .type then (m.types, .error .alreadyBuilt)
      else ({ m.types with built := true }, .ok m.types.snapshot) := rfl
  have constructors : m.constructors.build =
      if m.refusesBuild .constructor then (m.constructors, .error .alreadyBuilt)
      else ({ m.constructors with built := true }, .ok m.constructors.snapshot) := rfl
  have named : m.named.build = if m.refusesBuild .named then (m.named, .error .alreadyBuilt)
      else ({ m.named with built := true }, .ok m.named.snapshot) := rfl
  cases ht : m.refusesBuild .type with
  | true => simp [build, buildTypes, types, buildable, buildOrder, closing, ht]
  | false =>
    cases hc : m.refusesBuild .constructor with
    | true =>
      simp [build, buildTypes, buildConstructors, types, constructors, buildable,
        buildOrder, closing, ht, hc]
    | false =>
      cases hn : m.refusesBuild .named <;>
        simp [build, buildTypes, buildConstructors, buildNamed, types, constructors, named,
          buildable, buildOrder, closing, snapshot, ht, hc, hn]

theorem exists_refusesBuild {m : Registry F} (stopped : m.buildable ≠ buildOrder) :
    ∃ part after, buildOrder = m.buildable ++ part :: after ∧
      m.refusesBuild part = true := by
  have split : m.buildable ++ buildOrder.dropWhile (fun c => !m.refusesBuild c) =
      buildOrder := List.takeWhile_append_dropWhile
  cases rest : buildOrder.dropWhile fun c => !m.refusesBuild c with
  | nil =>
    rw [rest, List.append_nil] at split
    exact (stopped split).elim
  | cons part after =>
    rw [rest] at split
    have more : buildOrder.dropWhile (fun c => !m.refusesBuild c) ≠ [] := by
      rw [rest]
      exact List.cons_ne_nil part after
    have first := List.head_dropWhile_not (fun c => !m.refusesBuild c) more
    simp only [rest, List.head_cons, Bool.not_eq_false'] at first
    exact ⟨part, after, split.symm, first⟩

theorem apply_of_built {m : Registry F} {op : Operation F} {c : Category}
    (registers : op.registersIn? = some c) (built : m.built c = true) :
    (op.apply m).2 = .error .alreadyBuilt := by
  cases op with
  | mapIndex index r =>
    cases registers
    exact m.types.add_of_built built (.index index) r
  | mapType name r =>
    cases registers
    exact m.types.add_of_built built (.name name) r
  | mapConstructor name r =>
    cases registers
    exact m.constructors.add_of_built built name r
  | mapNamed name r =>
    cases registers
    exact m.named.add_of_built built name r
  | build part => cases registers

theorem apply_closing (m : Registry F) (cs : List Category) {op : Operation F} {c : Category}
    (registers : op.registersIn? = some c) :
    (op.apply (m.closing cs)).2 =
      if c ∈ cs then .error .alreadyBuilt else (op.apply m).2 := by
  split_ifs with closed
  · refine apply_of_built registers ?_
    cases c <;> simp [built, closing, closed]
  · cases op <;> cases registers <;> simp [Operation.apply, closing, closed]

/-- How the build of a registry ended at the category `part`: those `before` it were built, and
take no registrations any more, and nothing else changed. -/
structure Interruption (m : Registry F) (before : List Category) (part : Category) : Prop where
  order : ∃ after, buildOrder = before ++ part :: after
  passed : ∀ c ∈ before, m.refusesBuild c = false
  refuses : m.refusesBuild part = true
  state : m.build.1 = m.closing before
  same : m.build.1 = m ↔ ∀ c ∈ before, m.built c = true
  registrations : ∀ (op : Operation F) c, op.registersIn? = some c →
    (op.apply m.build.1).2 = if c ∈ before then .error .alreadyBuilt else (op.apply m).2

theorem Interruption.same_iff {m : Registry F} {before : List Category} {part : Category}
    (h : m.Interruption before part) (refuses : m.types.refusesRebuild = true) :
    m.build.1 = m ↔ m.types.built = true := by
  obtain ⟨after, order⟩ := h.order
  rw [h.same]
  cases before with
  | nil =>
    obtain ⟨rfl, -⟩ := List.cons.inj order
    have built := (Bool.and_eq_true_iff.mp h.refuses).1
    exact iff_of_true (fun c hc => (List.not_mem_nil hc).elim) built
  | cons first before =>
    obtain ⟨rfl, -⟩ := List.cons.inj order
    have passed := h.passed _ List.mem_cons_self
    rw [refusesBuild, refuses, Bool.and_true] at passed
    refine iff_of_false (fun built => ?_) (Bool.eq_false_iff.mp passed)
    exact Bool.eq_false_iff.mp passed (built _ List.mem_cons_self)

/-- A refused build has built the categories before the one that refused, so that the registry is
as it was only if those were built already; where rebuilding is refused throughout, only if the
first category was. -/
theorem build_interrupted {m : Registry F} {e : Refusal} (refused : m.build.2 = .error e) :
    e = .alreadyBuilt ∧ (∃ before part, m.Interruption before part) ∧
      (m.types.refusesRebuild = true → (m.build.1 = m ↔ m.types.built = true)) := by
  have build := m.build_eq
  have stopped : m.buildable ≠ buildOrder := by
    intro all
    rw [build, if_pos all] at refused
    cases refused
  obtain ⟨part, after, order, refuses⟩ := exists_refusesBuild stopped
  have state : m.build.1 = m.closing m.buildable := congrArg Prod.fst build
  have interruption : m.Interruption m.buildable part :=
    { order := ⟨after, order⟩
      passed := fun c hc => by simpa using List.all_eq_true.mp List.all_takeWhile c hc
      refuses
      state
      same := by rw [state, closing_eq_self_iff]
      registrations := fun op c registers => by rw [state, apply_closing _ _ registers] }
  refine ⟨?_, ⟨_, _, interruption⟩, interruption.same_iff⟩
  rw [build, if_neg stopped] at refused
  exact (Except.error.inj refused).symm

def constructorsFirst : List (Operation ⟨Nat, Nat, Nat⟩) :=
  [.mapIndex 0 1, .build (some .constructor)]

theorem build_interrupted_constructors :
    let m := (empty .ordinal true).run constructorsFirst
    let op : Operation ⟨Nat, Nat, Nat⟩ := .mapIndex 1 2
    m.build.2 = .error .alreadyBuilt ∧ m.build.1 ≠ m ∧
    (∃ before part, m.Interruption before part) ∧
    (op.apply m).2 = .ok () ∧ (op.apply m.build.1).2 = .error .alreadyBuilt := by
  intro m op
  have refused : m.build.2 = .error .alreadyBuilt := rfl
  obtain ⟨-, interruption, same⟩ := build_interrupted refused
  refine ⟨refused, fun kept => ?_, interruption, rfl, rfl⟩
  cases (same rfl).mp kept

/-- The type parameters were open before the build that is refused, and are not after it. -/
theorem refused_build_not_atomic :
    ¬ ∀ (c : ParameterComparer) (refusesRebuild : Bool) (ops : List (Operation ⟨Nat, Nat, Nat⟩))
      (e : Refusal), let m := (empty c refusesRebuild).run ops
      m.build.2 = .error e → m.build.1 = m := by
  intro atomic
  have kept := atomic .ordinal true constructorsFirst .alreadyBuilt rfl
  cases congrArg (fun m => m.types.built) kept

end Registry

end AttributeArguments
