import AttributeArguments.Mapping
import AttributeArguments.Proofs.Table
import Mathlib.Data.List.Find

/-!
# The ledger of registrations

Mappings in use, beside a ledger of the registrations that they accepted, with the names as they
were given. The ledger alone decides the verdict on the next registration, and of its entries at
most one is for a parameter: a lookup in a snapshot finds the recorder of that entry. Mappings by
name are mappings of type parameters that never hold an index.
-/
namespace AttributeArguments

variable {κ ρ β : Type}

structure Ledger (κ ρ : Type) where
  accepted : List (κ × ρ) := []
  built : Bool := false

def Ledger.enter (l : Ledger κ ρ) (key : κ) (recorder : ρ) : Except Refusal Unit → Ledger κ ρ
  | .ok () => { l with accepted := l.accepted ++ [(key, recorder)] }
  | .error _ => l

/-- One call on mappings under keys `κ`. The recorder is given, or created on demand with an effect
on a value of type `β`. -/
inductive MappingCall (κ ρ β : Type)
  | add (key : κ) (recorder : ρ)
  | addWith (key : κ) (create : β → ρ × β)
  | build

def MappingCall.isBuild : MappingCall κ ρ β → Bool
  | build => true
  | _ => false

def MappingCall.mapKey {κ' : Type} (f : κ → κ') : MappingCall κ ρ β → MappingCall κ' ρ β
  | add key r => add (f key) r
  | addWith key create => addWith (f key) create
  | build => build

structure Interface (μ κ ρ β τ : Type) where
  add : μ → κ → ρ → μ × Except Refusal Unit
  addWith : μ → κ → (β → ρ × β) → β → (μ × Except Refusal Unit) × β
  build : μ → μ × Except Refusal τ

structure InUse (μ κ ρ β : Type) where
  mappings : μ
  effect : β
  ledger : Ledger κ ρ := {}

namespace Interface

variable {μ τ : Type}

def step (i : Interface μ κ ρ β τ) (x : InUse μ κ ρ β) : MappingCall κ ρ β → InUse μ κ ρ β
  | .add key r =>
    let a := i.add x.mappings key r
    ⟨a.1, x.effect, x.ledger.enter key r a.2⟩
  | .addWith key create =>
    let a := i.addWith x.mappings key create x.effect
    ⟨a.1.1, a.2, x.ledger.enter key (create x.effect).1 a.1.2⟩
  | .build =>
    let a := i.build x.mappings
    ⟨a.1, x.effect, { x.ledger with built := x.ledger.built || a.2.isOk }⟩

def run (i : Interface μ κ ρ β τ) (x : InUse μ κ ρ β) (cs : List (MappingCall κ ρ β)) :
    InUse μ κ ρ β := cs.foldl i.step x

/-- After the calls, the ledger decides the verdict on the next registration, by `verdict`, and
a snapshot finds for each parameter the one entry that is for it. -/
structure Lawful {π : Type} (i : Interface μ κ ρ β τ)
    (verdict : Ledger κ ρ → κ → Except Refusal Unit) (isFor : π → κ → Bool)
    (get? : τ → π → Option ρ) (refusesRebuild : Bool) (calls : List (MappingCall κ ρ β))
    (x : InUse μ κ ρ β) : Prop where
  built : x.ledger.built = calls.any MappingCall.isBuild
  add : ∀ key r, (i.add x.mappings key r).2 = verdict x.ledger key
  addWith : ∀ key create b, (i.addWith x.mappings key create b).1.2 = verdict x.ledger key
  build : match (i.build x.mappings).2 with
    | .error e => e = .alreadyBuilt ∧ (x.ledger.built && refusesRebuild) = true
    | .ok snapshot => (x.ledger.built && refusesRebuild) = false ∧
      ∀ p, let found := x.ledger.accepted.filter fun y => isFor p y.1
        found.length ≤ 1 ∧ get? snapshot p = found.head?.map Prod.snd

end Interface

inductive TypeKey
  | index (i : Nat)
  | name (n : String)

namespace TypeKey

def isName : TypeKey → Bool
  | index _ => false
  | name _ => true

def equals (c : NameComparer) : TypeKey → TypeKey → Bool
  | index i, index j => i == j
  | name m, name n => c.equals m n
  | _, _ => false

def Apart (c : NameComparer) (x y : TypeKey × ρ) : Prop :=
  x.1.isName = y.1.isName ∧ x.1.equals c y.1 = false

def isFor (c : NameComparer) (p : TypeParameter) (k : TypeKey) : Bool :=
  k.equals c (name p.name) || k.equals c (index p.ordinal)

def mixed : TypeKey → Refusal
  | index i => .indexedAfterNamed i
  | name n => .namedAfterIndexed n

def duplicate : TypeKey → Refusal
  | index i => .duplicateIndex i
  | name n => .duplicateName n

end TypeKey

def Ledger.typeVerdict (l : Ledger TypeKey ρ) (c : NameComparer) (key : TypeKey) :
    Except Refusal Unit :=
  if l.built then .error .alreadyBuilt
  else if l.accepted.any fun x => x.1.isName != key.isName then .error key.mixed
  else if l.accepted.any fun x => x.1.equals c key then .error key.duplicate
  else .ok ()

theorem Ledger.typeVerdict_eq_ok_iff {l : Ledger TypeKey ρ} {c : NameComparer} {key : TypeKey} :
    l.typeVerdict c key = .ok () ↔
      l.built = false ∧ (∀ x ∈ l.accepted, x.1.isName = key.isName) ∧
        ∀ x ∈ l.accepted, x.1.equals c key = false := by
  have kinds : (l.accepted.any fun x => x.1.isName != key.isName) = false ↔
      ∀ x ∈ l.accepted, x.1.isName = key.isName := by
    simp [List.any_eq_false]
  have keys : (l.accepted.any fun x => x.1.equals c key) = false ↔
      ∀ x ∈ l.accepted, x.1.equals c key = false := by
    simp [List.any_eq_false]
  rw [← kinds, ← keys, typeVerdict]
  cases l.built <;> cases l.accepted.any fun x => x.1.isName != key.isName <;>
    cases l.accepted.any fun x => x.1.equals c key <;> simp

def Ledger.nameVerdict (l : Ledger String ρ) (c : NameComparer) (name : String) :
    Except Refusal Unit :=
  if l.built then .error .alreadyBuilt
  else if l.accepted.any fun x => c.equals x.1 name then .error (.duplicateName name)
  else .ok ()

namespace TypeMappings

def add (m : TypeMappings ρ) : TypeKey → ρ → TypeMappings ρ × Except Refusal Unit
  | .index i => m.addIndexed i
  | .name n => m.addNamed n

def addWith (m : TypeMappings ρ) :
    TypeKey → (β → ρ × β) → β → (TypeMappings ρ × Except Refusal Unit) × β
  | .index i => m.addIndexedWith i
  | .name n => m.addNamedWith n

def interface : Interface (TypeMappings ρ) TypeKey ρ β (TypeSnapshot ρ) := ⟨add, addWith, build⟩

def refusal? (m : TypeMappings ρ) : TypeKey → Option Refusal
  | .index i => m.indexRefusal? i
  | .name n => m.nameRefusal? n

def insert (m : TypeMappings ρ) : TypeKey → ρ → TypeMappings ρ
  | .index i => m.insertIndexed i
  | .name n => m.insertNamed n

theorem add_eq (m : TypeMappings ρ) (k : TypeKey) (r : ρ) :
    m.add k r = match m.refusal? k with
      | some e => (m, .error e)
      | none => (m.insert k r, .ok ()) := by
  cases k <;> rfl

theorem addWith_created (m : TypeMappings ρ) (k : TypeKey) (create : β → ρ × β) (b : β) :
    m.addWith k create b =
      (m.add k (create b).1, bif (m.add k (create b).1).2.isOk then (create b).2 else b) := by
  cases k with
  | index i =>
    simp only [addWith, add, addIndexedWith, addIndexed]
    cases m.indexRefusal? i <;> rfl
  | name n =>
    simp only [addWith, add, addNamedWith, addNamed]
    cases m.nameRefusal? n <;> rfl

theorem addWith_eq (m : TypeMappings ρ) (k : TypeKey) (create : β → ρ × β) (b : β) :
    (m.addWith k create b).1 = m.add k (create b).1 :=
  congrArg Prod.fst (m.addWith_created k create b)

end TypeMappings

namespace TypeKey

def indexed (xs : List (TypeKey × ρ)) : List (Nat × ρ) :=
  xs.filterMap fun x =>
    match x.1 with
    | index i => some (i, x.2)
    | name _ => none

def named (c : NameComparer) (xs : List (TypeKey × ρ)) : List (String × ρ) :=
  xs.filterMap fun x =>
    match x.1 with
    | index _ => none
    | name n => some (c.key n, x.2)

theorem any_index (c : NameComparer) (xs : List (TypeKey × ρ)) (i : Nat) :
    (xs.any fun x => x.1.isName != (index i).isName) = !(named c xs).isEmpty ∧
    (xs.any fun x => x.1.equals c (index i)) = ((indexed xs).map (·.1)).contains i := by
  induction xs with
  | nil => exact ⟨rfl, rfl⟩
  | cons x xs ih =>
    obtain ⟨k, r⟩ := x
    cases k <;> simp_all [indexed, named, isName, equals, Bool.beq_comm]

theorem any_name (c : NameComparer) (xs : List (TypeKey × ρ)) (n : String) :
    (xs.any fun x => x.1.isName != (name n).isName) = !(indexed xs).isEmpty ∧
    (xs.any fun x => x.1.equals c (name n)) =
      ((named c xs).map (·.1)).contains (c.key n) := by
  induction xs with
  | nil => exact ⟨rfl, rfl⟩
  | cons x xs ih =>
    obtain ⟨k, r⟩ := x
    cases k <;> simp_all [indexed, named, isName, equals, NameComparer.equals, Bool.beq_comm]

theorem lookup_indexed (c : NameComparer) (xs : List (TypeKey × ρ)) (i : Nat) :
    (indexed xs).lookup i = (xs.find? fun x => x.1.equals c (index i)).map Prod.snd := by
  induction xs with
  | nil => rfl
  | cons x xs ih =>
    obtain ⟨k, r⟩ := x
    rw [List.find?_cons]
    cases k with
    | name n => exact ih
    | index j =>
      change List.lookup i ((j, r) :: indexed xs) = _
      rw [List.lookup_cons, ih, Bool.beq_comm]
      simp only [equals]
      cases j == i <;> rfl

theorem lookup_named (c : NameComparer) (xs : List (TypeKey × ρ)) (n : String) :
    (named c xs).lookup (c.key n) = (xs.find? fun x => x.1.equals c (name n)).map Prod.snd := by
  induction xs with
  | nil => rfl
  | cons x xs ih =>
    obtain ⟨k, r⟩ := x
    rw [List.find?_cons]
    cases k with
    | index i => exact ih
    | name m =>
      change List.lookup (c.key n) ((c.key m, r) :: named c xs) = _
      rw [List.lookup_cons, ih, Bool.beq_comm]
      simp only [equals, NameComparer.equals]
      cases c.key m == c.key n <;> rfl

theorem find?_isFor (c : NameComparer) (p : TypeParameter) {xs : List (TypeKey × ρ)} {b : Bool}
    (kind : ∀ x ∈ xs, x.1.isName = b) :
    (xs.find? fun x => x.1.isFor c p) =
      (xs.find? fun x => x.1.equals c (name p.name)).orElse fun _ =>
        xs.find? fun x => x.1.equals c (index p.ordinal) := by
  cases b with
  | false =>
    have none_named : ∀ x ∈ xs, x.1.equals c (name p.name) = false := fun x hx => by
      have hk := kind x hx
      cases h : x.1 <;> simp_all [isName, equals]
    have hn : (xs.find? fun x => x.1.equals c (name p.name)) = none :=
      List.find?_eq_none.mpr fun x hx => by simp [none_named x hx]
    rw [hn, Option.orElse_none]
    exact List.find?_congr fun x hx => by rw [isFor, none_named x hx, Bool.false_or]
  | true =>
    have none_indexed : ∀ x ∈ xs, x.1.equals c (index p.ordinal) = false := fun x hx => by
      have hk := kind x hx
      cases h : x.1 <;> simp_all [isName, equals]
    have hi : (xs.find? fun x => x.1.equals c (index p.ordinal)) = none :=
      List.find?_eq_none.mpr fun x hx => by simp [none_indexed x hx]
    have found : (xs.find? fun x => x.1.isFor c p) =
        xs.find? fun x => x.1.equals c (name p.name) :=
      List.find?_congr fun x hx => by rw [isFor, none_indexed x hx, Bool.or_false]
    rw [found, hi]
    cases xs.find? fun x => x.1.equals c (name p.name) <;> rfl

theorem equals_of_isFor {c : NameComparer} {p : TypeParameter} {k l : TypeKey}
    (kind : k.isName = l.isName) (hk : k.isFor c p = true) (hl : l.isFor c p = true) :
    k.equals c l = true := by
  cases k <;> cases l <;> simp_all [isName, isFor, equals, NameComparer.equals]

end TypeKey

namespace TypeMappings

/-- The mappings are those of the ledger, whose keys are all of one kind and differ. -/
structure Represents (c : NameComparer) (refusesRebuild : Bool) (m : TypeMappings ρ)
    (l : Ledger TypeKey ρ) : Prop where
  comparer : m.comparer = c
  refuses : m.refusesRebuild = refusesRebuild
  built : m.built = l.built
  indexed : m.indexed = TypeKey.indexed l.accepted
  named : m.named = TypeKey.named c l.accepted
  distinct : l.accepted.Pairwise (TypeKey.Apart c)

variable {c : NameComparer} {refusesRebuild : Bool} {m : TypeMappings ρ} {l : Ledger TypeKey ρ}

theorem Represents.verdict (h : m.Represents c refusesRebuild l) (k : TypeKey) :
    l.typeVerdict c k = match m.refusal? k with
      | some e => .error e
      | none => .ok () := by
  cases k with
  | index i =>
    obtain ⟨mixed, dup⟩ := TypeKey.any_index c l.accepted i
    simp only [Ledger.typeVerdict, mixed, dup, refusal?, indexRefusal?, indices, h.built,
      h.indexed, h.named]
    split_ifs <;> rfl
  | name n =>
    obtain ⟨mixed, dup⟩ := TypeKey.any_name c l.accepted n
    simp only [Ledger.typeVerdict, mixed, dup, refusal?, nameRefusal?, holdsName, keys,
      h.comparer, h.built, h.indexed, h.named]
    split_ifs <;> rfl

theorem Represents.add_verdict (h : m.Represents c refusesRebuild l) (k : TypeKey) (r : ρ) :
    (m.add k r).2 = l.typeVerdict c k := by
  rw [add_eq, h.verdict]
  cases m.refusal? k <;> rfl

theorem Represents.enter (h : m.Represents c refusesRebuild l) (k : TypeKey) (r : ρ) :
    (m.add k r).1.Represents c refusesRebuild (l.enter k r (m.add k r).2) := by
  have hv := h.verdict k
  rw [add_eq]
  cases hr : m.refusal? k with
  | some e => exact h
  | none =>
    rw [hr, Ledger.typeVerdict_eq_ok_iff] at hv
    obtain ⟨-, kind, new⟩ := hv
    refine ⟨?_, ?_, ?_, ?_, ?_, ?_⟩
    · cases k <;> exact h.comparer
    · cases k <;> exact h.refuses
    · cases k <;> exact h.built
    · cases k <;>
        simp [insert, insertIndexed, insertNamed, Ledger.enter, TypeKey.indexed, h.indexed]
    · cases k <;>
        simp [insert, insertIndexed, insertNamed, Ledger.enter, TypeKey.named, h.named, h.comparer]
    · refine List.pairwise_append.mpr ⟨h.distinct, List.pairwise_singleton _ _, ?_⟩
      intro x hx y hy
      rw [List.mem_singleton.mp hy]
      exact ⟨kind x hx, new x hx⟩

theorem Represents.build (h : m.Represents c refusesRebuild l) :
    m.build.1.Represents c refusesRebuild { l with built := true } ∧
    m.build.2 = if l.built && refusesRebuild then .error .alreadyBuilt else .ok m.snapshot := by
  rw [← h.refuses, ← h.built, TypeMappings.build]
  split_ifs with hb
  · have hl : l.built = true := h.built ▸ (Bool.and_eq_true _ _ ▸ hb).1
    exact ⟨⟨h.comparer, rfl, h.built.trans hl, h.indexed, h.named, h.distinct⟩, rfl⟩
  · exact ⟨⟨h.comparer, rfl, rfl, h.indexed, h.named, h.distinct⟩, rfl⟩

theorem Represents.step {x : InUse (TypeMappings ρ) TypeKey ρ β}
    (h : x.mappings.Represents c refusesRebuild x.ledger) (call : MappingCall TypeKey ρ β) :
    let y := interface.step x call
    y.mappings.Represents c refusesRebuild y.ledger ∧
    y.ledger.built = (x.ledger.built || call.isBuild) := by
  have unbuilt (key : TypeKey) (r : ρ) (verdict : Except Refusal Unit) :
      (x.ledger.enter key r verdict).built = (x.ledger.built || false) := by
    rw [Bool.or_false]
    cases verdict <;> rfl
  cases call with
  | add key r => exact ⟨h.enter key r, unbuilt key r _⟩
  | addWith key create =>
    have he := h.enter key (create x.effect).1
    rw [← addWith_eq] at he
    exact ⟨he, unbuilt key _ _⟩
  | build =>
    obtain ⟨hr, hv⟩ := h.build
    -- A build is refused only after another one, so the ledger is built in either case.
    have hb : (x.ledger.built || x.mappings.build.2.isOk) = true := by
      rw [hv]
      cases x.ledger.built <;> rfl
    simp only [Interface.step, interface, hb, MappingCall.isBuild, Bool.or_true]
    exact ⟨hr, trivial⟩

theorem Represents.run {x : InUse (TypeMappings ρ) TypeKey ρ β}
    (h : x.mappings.Represents c refusesRebuild x.ledger)
    (calls : List (MappingCall TypeKey ρ β)) :
    let y := interface.run x calls
    y.mappings.Represents c refusesRebuild y.ledger ∧
    y.ledger.built = (x.ledger.built || calls.any MappingCall.isBuild) := by
  induction calls generalizing x with
  | nil => exact ⟨h, (Bool.or_false _).symm⟩
  | cons call calls ih =>
    obtain ⟨hstep, built⟩ := h.step call
    obtain ⟨hrun, hbuilt⟩ := ih hstep
    refine ⟨hrun, ?_⟩
    rw [List.any_cons, ← Bool.or_assoc, ← built]
    exact hbuilt

theorem Represents.one_kind (h : m.Represents c refusesRebuild l) :
    ∃ b, ∀ x ∈ l.accepted, x.1.isName = b := by
  obtain ⟨accepted, built⟩ := l
  cases accepted with
  | nil => exact ⟨true, fun x hx => (List.not_mem_nil hx).elim⟩
  | cons x xs =>
    have distinct := List.pairwise_cons.mp h.distinct
    refine ⟨x.1.isName, fun y hy => ?_⟩
    rcases List.mem_cons.mp hy with rfl | hy
    · rfl
    · exact (distinct.1 y hy).1.symm

theorem Represents.length_filter_le_one (h : m.Represents c refusesRebuild l)
    (p : TypeParameter) : (l.accepted.filter fun x => x.1.isFor c p).length ≤ 1 := by
  have clash : (l.accepted.filter fun x => x.1.isFor c p).Pairwise fun _ _ => False := by
    refine (h.distinct.filter _).imp_of_mem fun {x y} hx hy ⟨kind, new⟩ => ?_
    have he := TypeKey.equals_of_isFor kind (List.mem_filter.mp hx).2 (List.mem_filter.mp hy).2
    rw [new] at he
    exact Bool.false_ne_true he
  generalize l.accepted.filter (fun x => x.1.isFor c p) = found at clash
  match found with
  | [] => exact Nat.zero_le 1
  | [_] => exact Nat.le_refl 1
  | x :: y :: rest => exact ((List.pairwise_cons.mp clash).1 y List.mem_cons_self).elim

theorem Represents.get? (h : m.Represents c refusesRebuild l) (p : TypeParameter) :
    m.snapshot.get? p =
      (l.accepted.filter fun x => x.1.isFor c p).head?.map Prod.snd := by
  obtain ⟨b, kind⟩ := h.one_kind
  rw [List.head?_filter, TypeKey.find?_isFor c p kind]
  simp only [TypeSnapshot.get?, TypeSnapshot.getNamed?, TypeSnapshot.getIndexed?, snapshot,
    h.comparer, h.indexed, h.named, TypeKey.lookup_named, TypeKey.lookup_indexed c]
  cases l.accepted.find? fun x => x.1.equals c (.name p.name) <;> rfl

end TypeMappings

def Ledger.mapKey {κ' : Type} (f : κ → κ') (l : Ledger κ ρ) : Ledger κ' ρ :=
  ⟨l.accepted.map (Prod.map f id), l.built⟩

theorem Ledger.mapKey_enter {κ' : Type} (f : κ → κ') (l : Ledger κ ρ) (key : κ) (r : ρ)
    (verdict : Except Refusal Unit) :
    (l.mapKey f).enter (f key) r verdict = (l.enter key r verdict).mapKey f := by
  cases verdict with
  | error e => rfl
  | ok => simp [enter, mapKey]

namespace NamedMappings

def interface : Interface (NamedMappings ρ) String ρ β (NamedSnapshot ρ) := ⟨add, addWith, build⟩

def asTypes (m : NamedMappings ρ) : TypeMappings ρ :=
  ⟨m.comparer, m.refusesRebuild, [], m.named, m.built⟩

theorem asTypes_add (m : NamedMappings ρ) (n : String) (r : ρ) :
    m.asTypes.add (.name n) r = ((m.add n r).1.asTypes, (m.add n r).2) := by
  have hr : m.asTypes.nameRefusal? n = m.refusal? n := rfl
  simp only [TypeMappings.add, TypeMappings.addNamed, hr, add]
  cases m.refusal? n <;> rfl

theorem asTypes_addWith (m : NamedMappings ρ) (n : String) (create : β → ρ × β) (b : β) :
    m.asTypes.addWith (.name n) create b =
      (((m.addWith n create b).1.1.asTypes, (m.addWith n create b).1.2),
        (m.addWith n create b).2) := by
  have hr : m.asTypes.nameRefusal? n = m.refusal? n := rfl
  simp only [TypeMappings.addWith, TypeMappings.addNamedWith, hr, addWith]
  cases m.refusal? n <;> rfl

theorem asTypes_build (m : NamedMappings ρ) :
    m.asTypes.build = (m.build.1.asTypes, m.build.2.map fun s => ⟨s.comparer, [], s.named⟩) := by
  unfold build
  change (if m.built && m.refusesRebuild then _ else _) = _
  cases m.built && m.refusesRebuild <;> rfl

end NamedMappings

def InUse.asTypes (x : InUse (NamedMappings ρ) String ρ β) :
    InUse (TypeMappings ρ) TypeKey ρ β :=
  ⟨x.mappings.asTypes, x.effect, x.ledger.mapKey .name⟩

theorem InUse.asTypes_step (x : InUse (NamedMappings ρ) String ρ β)
    (call : MappingCall String ρ β) :
    TypeMappings.interface.step x.asTypes (call.mapKey .name) =
      (NamedMappings.interface.step x call).asTypes := by
  cases call with
  | add n r =>
    simp only [MappingCall.mapKey, Interface.step, TypeMappings.interface,
      NamedMappings.interface, asTypes, NamedMappings.asTypes_add, Ledger.mapKey_enter]
  | addWith n create =>
    simp only [MappingCall.mapKey, Interface.step, TypeMappings.interface,
      NamedMappings.interface, asTypes, NamedMappings.asTypes_addWith, Ledger.mapKey_enter]
  | build =>
    simp only [MappingCall.mapKey, Interface.step, TypeMappings.interface,
      NamedMappings.interface, asTypes, NamedMappings.asTypes_build]
    cases x.mappings.build.2 <;> rfl

theorem InUse.asTypes_run (x : InUse (NamedMappings ρ) String ρ β)
    (calls : List (MappingCall String ρ β)) :
    TypeMappings.interface.run x.asTypes (calls.map (·.mapKey .name)) =
      (NamedMappings.interface.run x calls).asTypes := by
  induction calls generalizing x with
  | nil => rfl
  | cons call calls ih =>
    have hs := ih (NamedMappings.interface.step x call)
    rw [← asTypes_step] at hs
    exact hs

theorem Ledger.typeVerdict_mapKey (l : Ledger String ρ) (c : NameComparer) (n : String) :
    (l.mapKey TypeKey.name).typeVerdict c (.name n) = l.nameVerdict c n := by
  have kinds : ((l.mapKey TypeKey.name).accepted.any fun x : TypeKey × ρ =>
      x.1.isName != (TypeKey.name n).isName) = false := by
    simp [mapKey, TypeKey.isName]
  have keys : ((l.mapKey TypeKey.name).accepted.any fun x : TypeKey × ρ =>
      x.1.equals c (.name n)) = l.accepted.any fun x => c.equals x.1 n := by
    simp only [mapKey, List.any_map]
    rfl
  simp only [typeVerdict, kinds, keys, nameVerdict]
  rfl

theorem Ledger.filter_mapKey (l : Ledger String ρ) (c : NameComparer) (n : String) (i : Nat) :
    ((l.mapKey TypeKey.name).accepted.filter fun x => x.1.isFor c ⟨n, i⟩) =
      (l.accepted.filter fun x => c.equals x.1 n).map (Prod.map TypeKey.name id) := by
  simp only [mapKey, List.filter_map]
  congr 1
  refine List.filter_congr fun x _ => ?_
  exact Bool.or_false _

theorem NamedSnapshot.get?_asTypes (s : NamedSnapshot ρ) (n : String) (i : Nat) :
    (⟨s.comparer, [], s.named⟩ : TypeSnapshot ρ).get? ⟨n, i⟩ = s.get? n := by
  change (s.get? n).orElse (fun _ => none) = s.get? n
  cases s.get? n <;> rfl

theorem TypeMappings.Represents.lawful {c : NameComparer} {refusesRebuild : Bool}
    {x : InUse (TypeMappings ρ) TypeKey ρ β} {calls : List (MappingCall TypeKey ρ β)}
    (h : x.mappings.Represents c refusesRebuild x.ledger)
    (built : x.ledger.built = calls.any MappingCall.isBuild) :
    interface.Lawful (Ledger.typeVerdict · c) (TypeKey.isFor c) TypeSnapshot.get? refusesRebuild
      calls x where
  built := built
  add := h.add_verdict
  addWith key create b := by
    rw [← h.add_verdict key (create b).1, ← addWith_eq]
    rfl
  build := by
    have hv := h.build.2
    split_ifs at hv with hb
    · simp only [interface, hv]
      exact ⟨trivial, hb⟩
    · simp only [interface, hv]
      exact ⟨Bool.eq_false_iff.mpr hb, fun p => ⟨h.length_filter_le_one p, h.get? p⟩⟩

theorem InUse.lawful_of_asTypes {c : NameComparer} {refusesRebuild : Bool}
    {x : InUse (NamedMappings ρ) String ρ β} {calls : List (MappingCall String ρ β)}
    (h : TypeMappings.interface.Lawful (Ledger.typeVerdict · c) (TypeKey.isFor c)
      TypeSnapshot.get? refusesRebuild (calls.map (·.mapKey TypeKey.name)) x.asTypes) :
    NamedMappings.interface.Lawful (Ledger.nameVerdict · c) (fun n m => c.equals m n)
      NamedSnapshot.get? refusesRebuild calls x where
  built := by
    have hc (call : MappingCall String ρ β) :
        (call.mapKey TypeKey.name).isBuild = call.isBuild := by cases call <;> rfl
    have hb := h.built
    simp only [List.any_map, Function.comp_def, hc] at hb
    exact hb
  add n r := by
    have hn := h.add (.name n) r
    simp only [TypeMappings.interface, asTypes, NamedMappings.asTypes_add,
      Ledger.typeVerdict_mapKey] at hn
    exact hn
  addWith n create b := by
    have hn := h.addWith (.name n) create b
    simp only [TypeMappings.interface, asTypes, NamedMappings.asTypes_addWith,
      Ledger.typeVerdict_mapKey] at hn
    exact hn
  build := by
    have hn := h.build
    simp only [TypeMappings.interface, asTypes, NamedMappings.asTypes_build] at hn
    simp only [NamedMappings.interface]
    cases hb : x.mappings.build.2 with
    | error e =>
      rw [hb] at hn
      exact hn
    | ok snapshot =>
      rw [hb] at hn
      refine ⟨hn.1, fun n => ?_⟩
      obtain ⟨one, found⟩ := hn.2 ⟨n, 0⟩
      rw [Ledger.filter_mapKey] at one found
      rw [List.length_map] at one
      rw [List.head?_map, Option.map_map] at found
      rw [NamedSnapshot.get?_asTypes] at found
      exact ⟨one, found⟩

/-- The law of registrations. After any calls, a registration is refused for the reasons that the
ledger gives and no others, and each snapshot holds the ledger. -/
theorem registrations_lawful (c : NameComparer) (refusesRebuild : Bool) (b : β) :
    (∀ calls : List (MappingCall TypeKey ρ β),
      TypeMappings.interface.Lawful (Ledger.typeVerdict · c) (TypeKey.isFor c) TypeSnapshot.get?
        refusesRebuild calls
        (TypeMappings.interface.run ⟨{ comparer := c, refusesRebuild }, b, {}⟩ calls)) ∧
    ∀ calls : List (MappingCall String ρ β),
      NamedMappings.interface.Lawful (Ledger.nameVerdict · c) (fun n m => c.equals m n)
        NamedSnapshot.get? refusesRebuild calls
        (NamedMappings.interface.run ⟨{ comparer := c, refusesRebuild }, b, {}⟩ calls) := by
  have start : TypeMappings.Represents c refusesRebuild (ρ := ρ)
      { comparer := c, refusesRebuild } {} := ⟨rfl, rfl, rfl, rfl, rfl, .nil⟩
  have types (calls : List (MappingCall TypeKey ρ β)) := start.run (x := ⟨_, b, _⟩) calls
  refine ⟨fun calls => ?_, fun calls => ?_⟩
  · obtain ⟨h, built⟩ := types calls
    exact h.lawful built
  · obtain ⟨h, built⟩ := types (calls.map (·.mapKey TypeKey.name))
    have asTypes := InUse.asTypes_run
      ⟨({ comparer := c, refusesRebuild } : NamedMappings ρ), b, {}⟩ calls
    have law := h.lawful built
    exact InUse.lawful_of_asTypes (asTypes ▸ law)

end AttributeArguments
