import AttributeArguments.Proofs.Service

/-!
# Registrations in any order

Registrations that are all accepted are compatible: in no category are there two for one key, nor
an index beside a name. That does not depend on their order, and it is also all that is needed for
all of them to be accepted by an empty registry. So they can be made in any order, and each lookup
finds the one registration that is for its parameter.
-/
namespace AttributeArguments

open scoped List

variable {F : Family} {β ρ : Type}

/-- A registration whose recorder is given, or created on demand with an effect. -/
structure Enrolment (F : Family) (β : Type) where
  operation : Operation F
  effect? : Option (β → β) := none

def Operation.creating (f : β → β) : Operation F → Operation (F.creators β)
  | mapIndex index r => mapIndex index fun b => (r, f b)
  | mapType name r => mapType name fun b => (r, f b)
  | mapConstructor name r => mapConstructor name fun b => (r, f b)
  | mapNamed name r => mapNamed name fun b => (r, f b)
  | build part => build part

theorem Operation.created_creating (f : β → β) (b : β) (op : Operation F) :
    ((op.creating f).created b).1 = op := by
  cases op <;> rfl

namespace Enrolment

def apply (x : Registry F × β) (e : Enrolment F β) : (Registry F × β) × Except Refusal Unit :=
  match e.effect? with
  | none =>
    let a := e.operation.apply x.1
    ((a.1, x.2), a.2)
  | some f =>
    let a := (e.operation.creating f).applyCreating x.1 x.2
    ((a.1.1, a.2), a.1.2)

def AcceptsAll (x : Registry F × β) : List (Enrolment F β) → Prop
  | [] => True
  | e :: es => (e.apply x).2 = .ok () ∧ AcceptsAll (e.apply x).1 es

def run (x : Registry F × β) (es : List (Enrolment F β)) : Registry F × β :=
  es.foldl (fun x e => (e.apply x).1) x

theorem apply_eq (x : Registry F × β) (e : Enrolment F β) :
    (e.apply x).1.1 = (e.operation.apply x.1).1 ∧ (e.apply x).2 = (e.operation.apply x.1).2 := by
  rw [apply]
  cases e.effect? with
  | none => exact ⟨rfl, rfl⟩
  | some f =>
    simp only [Operation.applyCreating_eq, Operation.created_creating]
    exact ⟨trivial, trivial⟩

end Enrolment

structure Compatible (c : ParameterComparer) (ops : List (Operation F)) : Prop where
  types : (ops.filterMap Operation.type?).Pairwise (TypeKey.Apart c.type)
  constructors : (ops.filterMap Operation.constructor?).Pairwise fun x y =>
    c.constructor.equals x.1 y.1 = false
  named : (ops.filterMap Operation.named?).Pairwise fun x y => c.named.equals x.1 y.1 = false

theorem NameComparer.equals_comm (c : NameComparer) (a b : String) :
    c.equals a b = c.equals b a := Bool.beq_comm

theorem TypeKey.Apart.symm {c : NameComparer} {x y : TypeKey × ρ} (h : Apart c x y) :
    Apart c y x := by
  obtain ⟨kind, new⟩ := h
  refine ⟨kind.symm, ?_⟩
  rw [← new]
  cases y.1 <;> cases x.1 <;> first | rfl | exact Bool.beq_comm

namespace Compatible

variable {c : ParameterComparer} {xs ys : List (Operation F)}

theorem perm (h : Compatible c xs) (same : xs ~ ys) : Compatible c ys where
  types := h.types.perm (same.filterMap _) TypeKey.Apart.symm
  constructors := h.constructors.perm (same.filterMap _) fun new => by
    rwa [NameComparer.equals_comm]
  named := h.named.perm (same.filterMap _) fun new => by rwa [NameComparer.equals_comm]

theorem sublist (h : Compatible c ys) (part : xs <+ ys) : Compatible c xs where
  types := h.types.sublist (part.filterMap _)
  constructors := h.constructors.sublist (part.filterMap _)
  named := h.named.sublist (part.filterMap _)

end Compatible

section Verdicts

variable {c : NameComparer} {refusesRebuild : Bool}

theorem TypeMappings.Holds.add_eq_ok {entries : List (TypeKey × ρ)} {m : TypeMappings ρ}
    (h : m.Holds c refusesRebuild entries) (unbuilt : m.built = false) {k : TypeKey} {r : ρ}
    (apart : (entries ++ [(k, r)]).Pairwise (TypeKey.Apart c)) : (m.add k r).2 = .ok () := by
  obtain ⟨built, h⟩ := h
  have new := (List.pairwise_append.mp apart).2.2
  rw [h.add_verdict, Ledger.typeVerdict_eq_ok_iff]
  exact ⟨h.built ▸ unbuilt, fun x hx => (new x hx _ List.mem_cons_self).1,
    fun x hx => (new x hx _ List.mem_cons_self).2⟩

theorem NamedMappings.Holds.add_eq_ok {entries : List (String × ρ)} {m : NamedMappings ρ}
    (h : m.Holds c refusesRebuild entries) (unbuilt : m.built = false) {n : String} {r : ρ}
    (apart : (entries ++ [(n, r)]).Pairwise fun x y => c.equals x.1 y.1 = false) :
    (m.add n r).2 = .ok () := by
  have keys : (entries.map (Prod.map TypeKey.name id) ++ [(TypeKey.name n, r)]).Pairwise
      (TypeKey.Apart c) := by
    have mapped := apart.map (S := TypeKey.Apart c) (Prod.map TypeKey.name id)
      fun x y new => ⟨rfl, new⟩
    rwa [List.map_append] at mapped
  have added := TypeMappings.Holds.add_eq_ok h unbuilt keys
  rwa [asTypes_add] at added

end Verdicts

namespace Registry

structure Collects (c : ParameterComparer) (refusesRebuild : Bool) (ops : List (Operation F))
    (m : Registry F) : Prop where
  holds : m.Holds c refusesRebuild ops
  unbuilt : m.anyBuilt = false

variable {c : ParameterComparer} {refusesRebuild : Bool} {ops : List (Operation F)}
  {m : Registry F}

theorem collects_empty (c : ParameterComparer) (refusesRebuild : Bool) :
    (empty c refusesRebuild : Registry F).Collects c refusesRebuild [] :=
  ⟨holds_empty c refusesRebuild, rfl⟩

namespace Collects

theorem compatible (h : m.Collects c refusesRebuild ops) : Compatible c ops where
  types := by
    obtain ⟨built, types⟩ := h.holds.types
    exact types.distinct
  constructors := by
    obtain ⟨built, constructors⟩ := h.holds.constructors
    exact (List.pairwise_map.mp constructors.distinct).imp And.right
  named := by
    obtain ⟨built, named⟩ := h.holds.named
    exact (List.pairwise_map.mp named.distinct).imp And.right

theorem apply (h : m.Collects c refusesRebuild ops) {op : Operation F}
    (registers : op.isBuild = false) (accepted : (op.apply m).2 = .ok ()) :
    (op.apply m).1.Collects c refusesRebuild (ops ++ [op]) := by
  have held := h.holds.apply op
  rw [accepted] at held
  refine ⟨held, ?_⟩
  rw [anyBuilt_apply, h.unbuilt, registers]
  rfl

theorem apply_eq_ok (h : m.Collects c refusesRebuild ops) {op : Operation F}
    (registers : op.isBuild = false) (compatible : Compatible c (ops ++ [op])) :
    (op.apply m).2 = .ok () := by
  obtain ⟨types, constructors, named⟩ := compatible
  simp only [List.filterMap_append] at types constructors named
  have unbuilt := anyBuilt_eq_false_iff.mp h.unbuilt
  cases op with
  | mapIndex index r => exact h.holds.types.add_eq_ok (k := .index index) (unbuilt .type) types
  | mapType name r => exact h.holds.types.add_eq_ok (k := .name name) (unbuilt .type) types
  | mapConstructor name r =>
    exact h.holds.constructors.add_eq_ok (unbuilt .constructor) constructors
  | mapNamed name r => exact h.holds.named.add_eq_ok (unbuilt .named) named
  | build part => cases registers

theorem build_eq_ok (h : m.Collects c refusesRebuild ops) : m.build.2 = .ok m.snapshot := by
  rw [h.holds.build_eq, h.unbuilt]
  rfl

end Collects

end Registry

namespace Enrolment

variable {c : ParameterComparer} {refusesRebuild : Bool} {done : List (Operation F)}
  {x : Registry F × β} {es : List (Enrolment F β)}

theorem collects_run (h : x.1.Collects c refusesRebuild done)
    (registers : ∀ e ∈ es, e.operation.isBuild = false) (accepted : AcceptsAll x es) :
    (run x es).1.Collects c refusesRebuild (done ++ es.map operation) := by
  induction es generalizing x done with
  | nil => rwa [List.map_nil, List.append_nil]
  | cons e es ih =>
    obtain ⟨next, verdict⟩ := e.apply_eq x
    obtain ⟨here, later⟩ := List.forall_mem_cons.mp registers
    have first := h.apply here (verdict ▸ accepted.1)
    rw [← next] at first
    have rest := ih first later accepted.2
    rwa [List.append_assoc] at rest

theorem acceptsAll_of_compatible (h : x.1.Collects c refusesRebuild done)
    (registers : ∀ e ∈ es, e.operation.isBuild = false)
    (compatible : Compatible c (done ++ es.map operation)) : AcceptsAll x es := by
  induction es generalizing x done with
  | nil => trivial
  | cons e es ih =>
    obtain ⟨next, verdict⟩ := e.apply_eq x
    obtain ⟨here, later⟩ := List.forall_mem_cons.mp registers
    rw [List.map_cons, List.append_cons] at compatible
    have first := h.apply_eq_ok here (compatible.sublist (List.sublist_append_left _ _))
    have held := h.apply here first
    rw [← next] at held
    exact ⟨verdict.trans first, ih held later compatible⟩

theorem acceptsAll_empty_iff (c : ParameterComparer) (refusesRebuild : Bool) (b : β)
    (registers : ∀ e ∈ es, e.operation.isBuild = false) :
    AcceptsAll (.empty c refusesRebuild, b) es ↔ Compatible c (es.map operation) := by
  have start := Registry.collects_empty (F := F) c refusesRebuild
  constructor
  · intro accepted
    exact (collects_run (x := (_, b)) start registers accepted).compatible
  · intro compatible
    exact acceptsAll_of_compatible (x := (_, b)) start registers compatible

end Enrolment

theorem OnlyEntry.perm {κ : Type} {xs ys : List (κ × ρ)} {suits : κ → Bool} {r r' : Option ρ}
    (h : OnlyEntry xs suits r) (h' : OnlyEntry ys suits r') (same : xs ~ ys) : r = r' := by
  obtain ⟨one, rfl⟩ := h
  obtain ⟨-, rfl⟩ := h'
  have found := same.filter fun x => suits x.1
  generalize xs.filter (fun x => suits x.1) = only at one found
  match only with
  | [] => rw [found.nil_eq]
  | [x] => rw [List.singleton_perm.mp found]
  | _ :: _ :: _ => simp at one

structure Snapshot.Alike (s t : Snapshot F) : Prop where
  type : ∀ p, s.typeRecorder p = t.typeRecorder p
  constructor : ∀ p, s.constructorRecorder p = t.constructorRecorder p
  named : ∀ name, s.namedRecorder name = t.namedRecorder name

theorem Snapshot.Serves.alike {c : ParameterComparer} {xs ys : List (Operation F)}
    {s t : Snapshot F} (hs : s.Serves c xs) (ht : t.Serves c ys) (same : xs ~ ys) : s.Alike t where
  type p := congrArg (Lookup.orEvent · _) ((hs.type p).perm (ht.type p) (same.filterMap _))
  constructor p :=
    congrArg (Lookup.orEvent · _) ((hs.constructor p).perm (ht.constructor p) (same.filterMap _))
  named name :=
    congrArg (Lookup.orEvent · _) ((hs.named name).perm (ht.named name) (same.filterMap _))

/-- Registrations that an empty registry accepts are accepted in any order, and the registries
that come about are built and looked up alike. -/
theorem registrations_commute {c : ParameterComparer} {refusesRebuild : Bool} {b : β}
    {xs ys : List (Enrolment F β)} (registers : ∀ x ∈ xs, x.operation.isBuild = false)
    (rearranged : xs ~ ys) (accepted : Enrolment.AcceptsAll (.empty c refusesRebuild, b) xs) :
    Enrolment.AcceptsAll (.empty c refusesRebuild, b) ys ∧
    ∃ s t, (Enrolment.run (.empty c refusesRebuild, b) xs).1.build.2 = .ok s ∧
      (Enrolment.run (.empty c refusesRebuild, b) ys).1.build.2 = .ok t ∧ s.Alike t := by
  have registers' : ∀ y ∈ ys, y.operation.isBuild = false := fun y hy =>
    registers y (rearranged.mem_iff.mpr hy)
  have same : xs.map Enrolment.operation ~ ys.map Enrolment.operation := rearranged.map _
  have compatible := (Enrolment.acceptsAll_empty_iff c _ b registers).mp accepted
  have accepted' := (Enrolment.acceptsAll_empty_iff c refusesRebuild b registers').mpr
    (compatible.perm same)
  have start := Registry.collects_empty (F := F) c refusesRebuild
  have left := Enrolment.collects_run start registers accepted
  have right := Enrolment.collects_run start registers' accepted'
  exact ⟨accepted', _, _, left.build_eq_ok, right.build_eq_ok,
    left.holds.serves.alike right.holds.serves same⟩

def mixedEnrolments : List (Enrolment ⟨Nat, Nat, Nat⟩ Nat) :=
  [⟨.mapIndex 1 10, none⟩, ⟨.mapConstructor "Name" 20, some (· + 1)⟩, ⟨.mapNamed "Name" 30, none⟩,
    ⟨.mapIndex 0 11, some (· + 1)⟩, ⟨.mapConstructor "Size" 21, none⟩]

theorem registrations_commute_reversed :
    Enrolment.AcceptsAll (.empty .ordinal true, 0) mixedEnrolments.reverse ∧
    ∃ t, (Enrolment.run (.empty .ordinal true, 0) mixedEnrolments.reverse).1.build.2 = .ok t ∧
      (t.typeRecorder ⟨"T", 1⟩).found = some 10 ∧
      (t.constructorRecorder ⟨"Name", 0, .normal⟩).found = some 20 ∧
      (t.namedRecorder "Size").found = none := by
  have registers : ∀ x ∈ mixedEnrolments, x.operation.isBuild = false := by
    simp [mixedEnrolments, Operation.isBuild]
  have accepted : Enrolment.AcceptsAll (.empty .ordinal true, 0) mixedEnrolments :=
    ⟨rfl, rfl, rfl, rfl, rfl, trivial⟩
  obtain ⟨accepted', s, t, hs, ht, alike⟩ :=
    registrations_commute registers (List.reverse_perm _).symm accepted
  refine ⟨accepted', t, ht, ?_, ?_, ?_⟩
  · rw [← alike.type]
    cases hs
    rfl
  · rw [← alike.constructor]
    cases hs
    rfl
  · rw [← alike.named]
    cases hs
    rfl

end AttributeArguments
