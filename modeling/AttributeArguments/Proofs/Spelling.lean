import AttributeArguments.Proofs.Ledger
import AttributeArguments.Proofs.Lowering

/-!
# Spellings of a name

The key that ignores case is the lower-case form of the name, whichever way it was come by, and the
key of a key is the key itself. So a snapshot finds its entries also under the keys that it lists.
Two spellings with the same letters have the same key unless a capital sigma in one of them becomes
final where the other has a small sigma.
-/
namespace AttributeArguments

variable {ρ β : Type}

namespace NameComparer

theorem ignoreCase_key (name : String) :
    ignoreCase.key name = String.ofList (Text.lower name.toList) := by
  change caseKey name = _
  rw [caseKey]
  split_ifs with same
  · rw [Text.lower_eq_self same, String.ofList_toList]
  · rfl

theorem ignoreCase_equals_iff_lower (a b : String) :
    ignoreCase.equals a b = true ↔ Text.lower a.toList = Text.lower b.toList := by
  rw [equals, beq_iff_eq, ignoreCase_key, ignoreCase_key, String.ofList_inj]

theorem ignoreCase_equals_iff {a b : String}
    (letters : Text.lowerEach a.toList = Text.lowerEach b.toList) :
    ignoreCase.equals a b = true ↔ Text.finals a.toList = Text.finals b.toList := by
  rw [ignoreCase_equals_iff_lower, Text.lower_eq_lower_iff letters]

theorem ignoreCase_equals_of_plain {a b : String}
    (letters : Text.lowerEach a.toList = Text.lowerEach b.toList)
    (plain : Text.capitalSigma ∉ a.toList) (plain' : Text.capitalSigma ∉ b.toList) :
    ignoreCase.equals a b = true := by
  rw [ignoreCase_equals_iff_lower, Text.lower, Text.lower, Text.lowerAfter_eq_lowerEach plain,
    Text.lowerAfter_eq_lowerEach plain', letters]

def Stable (c : NameComparer) : Prop := ∀ name, c.key (c.key name) = c.key name

theorem stable_ordinal : ordinal.Stable := fun _ => rfl

theorem stable_ignoreCase : ignoreCase.Stable := by
  intro name
  have lowered : Text.lowerEach (ignoreCase.key name).toList = (ignoreCase.key name).toList := by
    rw [ignoreCase_key, String.toList_ofList, Text.lowerEach_lower]
  rw [ignoreCase_key (ignoreCase.key name), Text.lower_eq_self lowered, String.ofList_toList]

end NameComparer

def Ledger.taken {κ : Type} (l : Ledger κ ρ) (name : String) : Refusal :=
  if l.built then .alreadyBuilt else .duplicateName name

/-- The name is taken by the recorder, which each snapshot finds under the name, so that the next
one under the name is refused. -/
structure Interface.Taken {μ κ τ : Type} (i : Interface μ κ ρ β τ) (finds : τ → String → ρ → Prop)
    (key : String → κ) (x : InUse μ κ ρ β) (name : String) (r : ρ) : Prop where
  found : ∀ s, (i.build x.mappings).2 = .ok s → finds s name r
  add : ∀ next, (i.add x.mappings (key name) next).2 = .error (x.ledger.taken name)
  addWith : ∀ create e,
    (i.addWith x.mappings (key name) create e).1.2 = .error (x.ledger.taken name)

structure TypeSnapshot.Finds (s : TypeSnapshot ρ) (name : String) (r : ρ) : Prop where
  named : s.getNamed? name = some r
  parameter : ∀ ordinal, s.get? ⟨name, ordinal⟩ = some r

def NamedSnapshot.Finds (s : NamedSnapshot ρ) (name : String) (r : ρ) : Prop :=
  s.get? name = some r

theorem TypeKey.nodup_named {c : NameComparer} {xs : List (TypeKey × ρ)}
    (distinct : xs.Pairwise (Apart c)) : ((named c xs).map Prod.fst).Nodup := by
  rw [List.Nodup, List.pairwise_map, named, List.pairwise_filterMap]
  refine distinct.imp fun {x y} new k hk l hl => ?_
  obtain ⟨i | a, r⟩ := x
  · cases hk
  obtain ⟨i | b, r'⟩ := y
  · cases hl
  cases hk
  cases hl
  exact beq_eq_false_iff_ne.mp new.2

namespace TypeMappings

variable {c : NameComparer} {refusesRebuild : Bool} {m : TypeMappings ρ} {l : Ledger TypeKey ρ}

theorem Represents.finds (h : m.Represents c refusesRebuild l) {k : String} {r : ρ}
    (entry : (k, r) ∈ m.named) {name : String} (key : c.key name = k) :
    m.snapshot.Finds name r := by
  have nodup := TypeKey.nodup_named h.distinct
  rw [← h.named] at nodup
  have named : m.snapshot.getNamed? name = some r := by
    change m.named.lookup (m.comparer.key name) = some r
    rw [h.comparer, key, Table.lookup_eq_some_iff nodup]
    exact entry
  refine ⟨named, fun ordinal => ?_⟩
  rw [TypeSnapshot.get?, named]
  rfl

theorem Represents.mem_named (h : m.Represents c refusesRebuild l) {name : String} {r : ρ}
    (mem : (TypeKey.name name, r) ∈ l.accepted) : (c.key name, r) ∈ m.named := by
  rw [h.named, TypeKey.named, List.mem_filterMap]
  exact ⟨_, mem, rfl⟩

theorem Represents.exists_of_mem_named (h : m.Represents c refusesRebuild l) {k : String} {r : ρ}
    (entry : (k, r) ∈ m.named) : ∃ name, c.key name = k := by
  rw [h.named, TypeKey.named, List.mem_filterMap] at entry
  obtain ⟨⟨i | name, r'⟩, -, found⟩ := entry
  · cases found
  · cases found
    exact ⟨name, rfl⟩

theorem Represents.verdict_of_equals (h : m.Represents c refusesRebuild l) {a b : String} {r : ρ}
    (mem : (TypeKey.name a, r) ∈ l.accepted) (same : c.equals a b = true) :
    l.typeVerdict c (.name b) = .error (l.taken b) := by
  obtain ⟨kind, one⟩ := h.one_kind
  have pure : (l.accepted.any fun x => x.1.isName != (TypeKey.name b).isName) = false := by
    rw [List.any_eq_false]
    intro x hx
    rw [one x hx, ← one _ mem]
    exact Bool.false_ne_true
  have taken : (l.accepted.any fun x => x.1.equals c (.name b)) = true :=
    List.any_eq_true.mpr ⟨_, mem, same⟩
  rw [Ledger.typeVerdict, pure, taken, Ledger.taken]
  cases l.built <;> rfl

theorem eq_snapshot_of_build {s : TypeSnapshot ρ} (built : m.build.2 = .ok s) :
    s = m.snapshot := by
  rw [build] at built
  split_ifs at built
  cases built
  rfl

theorem represents_run (c : NameComparer) (refusesRebuild : Bool) (b : β)
    (calls : List (MappingCall TypeKey ρ β)) :
    let x := interface.run ⟨{ comparer := c, refusesRebuild }, b, {}⟩ calls
    x.mappings.Represents c refusesRebuild x.ledger := by
  have start : Represents c refusesRebuild (ρ := ρ) { comparer := c, refusesRebuild } {} :=
    ⟨rfl, rfl, rfl, rfl, rfl, .nil⟩
  exact (start.run (x := ⟨_, b, _⟩) calls).1

theorem Represents.taken {x : InUse (TypeMappings ρ) TypeKey ρ β}
    (h : x.mappings.Represents c refusesRebuild x.ledger) {a b : String} {r : ρ}
    (mem : (TypeKey.name a, r) ∈ x.ledger.accepted) (same : c.equals a b = true) :
    interface.Taken TypeSnapshot.Finds TypeKey.name x b r where
  found s built := by
    obtain rfl := eq_snapshot_of_build built
    exact h.finds (h.mem_named mem) (beq_iff_eq.mp same).symm
  add next := by
    rw [← h.verdict_of_equals mem same]
    exact h.add_verdict _ next
  addWith create e := by
    rw [← h.verdict_of_equals mem same, ← h.add_verdict _ (create e).1, ← addWith_eq]
    rfl

end TypeMappings

namespace NamedMappings

theorem eq_snapshot_of_build {m : NamedMappings ρ} {s : NamedSnapshot ρ}
    (built : m.build.2 = .ok s) : s = m.snapshot := by
  rw [build] at built
  split_ifs at built
  cases built
  rfl

theorem represents_run (c : NameComparer) (refusesRebuild : Bool) (b : β)
    (calls : List (MappingCall String ρ β)) :
    let x := interface.run ⟨{ comparer := c, refusesRebuild }, b, {}⟩ calls
    x.mappings.asTypes.Represents c refusesRebuild (x.ledger.mapKey .name) := by
  have types := TypeMappings.represents_run c refusesRebuild b (calls.map (·.mapKey .name))
  have run := InUse.asTypes_run
    ⟨({ comparer := c, refusesRebuild } : NamedMappings ρ), b, {}⟩ calls
  have represents := congrArg (fun x => x.mappings.Represents c refusesRebuild x.ledger) run
  exact represents.mp types

theorem taken_of_asTypes {c : NameComparer} {refusesRebuild : Bool}
    {x : InUse (NamedMappings ρ) String ρ β} {a b : String} {r : ρ}
    (h : x.mappings.asTypes.Represents c refusesRebuild (x.ledger.mapKey .name))
    (mem : (a, r) ∈ x.ledger.accepted) (same : c.equals a b = true) :
    interface.Taken NamedSnapshot.Finds id x b r := by
  have mem' : (TypeKey.name a, r) ∈ (x.ledger.mapKey TypeKey.name).accepted :=
    List.mem_map_of_mem mem
  have taken := TypeMappings.Represents.taken (x := x.asTypes) h mem' same
  constructor
  · intro s built
    obtain rfl := eq_snapshot_of_build built
    exact (h.finds (h.mem_named mem') (beq_iff_eq.mp same).symm).named
  · intro next
    have add := taken.add next
    simp only [InUse.asTypes, TypeMappings.interface, asTypes_add] at add
    exact add
  · intro create e
    have addWith := taken.addWith create e
    simp only [InUse.asTypes, TypeMappings.interface, asTypes_addWith] at addWith
    exact addWith

end NamedMappings

/-- Two spellings with the same letters are one name unless a capital sigma is final in one of them
only. A mapping that was accepted under one spelling of a name is then a mapping under the other. -/
theorem spellings_share_entry (refusesRebuild : Bool) (e : β) {a b : String}
    (letters : Text.lowerEach a.toList = Text.lowerEach b.toList) :
    (NameComparer.ignoreCase.equals a b = true ↔
      Text.finals a.toList = Text.finals b.toList) ∧
    (Text.capitalSigma ∉ a.toList → Text.capitalSigma ∉ b.toList →
      NameComparer.ignoreCase.equals a b = true) ∧
    (Text.finals a.toList = Text.finals b.toList →
      (∀ (calls : List (MappingCall TypeKey ρ β)) r,
        let x := TypeMappings.interface.run
          ⟨{ comparer := .ignoreCase, refusesRebuild }, e, {}⟩ calls
        (TypeKey.name a, r) ∈ x.ledger.accepted →
          TypeMappings.interface.Taken TypeSnapshot.Finds TypeKey.name x b r) ∧
      ∀ (calls : List (MappingCall String ρ β)) r,
        let x := NamedMappings.interface.run
          ⟨{ comparer := .ignoreCase, refusesRebuild }, e, {}⟩ calls
        (a, r) ∈ x.ledger.accepted →
          NamedMappings.interface.Taken NamedSnapshot.Finds id x b r) := by
  refine ⟨NameComparer.ignoreCase_equals_iff letters,
    NameComparer.ignoreCase_equals_of_plain letters, fun finals => ?_⟩
  have same := (NameComparer.ignoreCase_equals_iff letters).mpr finals
  constructor
  · intro calls r x accepted
    exact (TypeMappings.represents_run .ignoreCase refusesRebuild e calls).taken accepted same
  · intro calls r x accepted
    have h := NamedMappings.represents_run .ignoreCase refusesRebuild e calls
    exact NamedMappings.taken_of_asTypes h accepted same

theorem spellings_share_entry_inside :
    Text.lowerEach "ΔΟΣΗ".toList = Text.lowerEach "δοσΗ".toList ∧
    NameComparer.ignoreCase.equals "ΔΟΣΗ" "δοσΗ" = true ∧
    ∀ refusesRebuild next,
      let x := NamedMappings.interface.run
        ⟨{ comparer := .ignoreCase, refusesRebuild }, (), {}⟩ [.add "ΔΟΣΗ" 1]
      (x.mappings.add "δοσΗ" next).2 = .error (.duplicateName "δοσΗ") ∧
      x.mappings.snapshot.get? "δοσΗ" = some 1 := by
  have letters : Text.lowerEach "ΔΟΣΗ".toList = Text.lowerEach "δοσΗ".toList := by
    decide +kernel
  have finals : Text.finals "ΔΟΣΗ".toList = Text.finals "δοσΗ".toList := by decide +kernel
  refine ⟨letters, (spellings_share_entry (ρ := Nat) true () letters).1.mpr finals, ?_⟩
  intro refusesRebuild next x
  have taken := ((spellings_share_entry refusesRebuild () letters).2.2 finals).2
    [.add "ΔΟΣΗ" 1] 1 (List.mem_singleton_self _)
  exact ⟨taken.add next, taken.found _ rfl⟩

/-- A capital sigma that ends a word is not the same as a small sigma, though it is with case
ignored: both spellings can be mapped, one beside the other. -/
theorem capital_sigma_not_ignored :
    Text.lowerEach "ΑΣ".toList = Text.lowerEach "ασ".toList ∧
    NameComparer.ignoreCase.equals "ΑΣ" "ασ" = false ∧
    NameComparer.ignoreCase.key "ΑΣ" = "ας" ∧ NameComparer.ignoreCase.key "ασ" = "ασ" ∧
    let m : NamedMappings Nat := { comparer := .ignoreCase, refusesRebuild := true }
    let a := m.add "ΑΣ" 1
    a.2 = .ok () ∧ (a.1.add "ασ" 2).2 = .ok () ∧ a.1.snapshot.get? "ασ" = none := by
  decide +kernel

/-- The key that ignores case is the lower-case form, and is its own key. So a snapshot by either of
the two comparers finds each of its entries under the key that it is listed with. -/
theorem keys_find_entries (refusesRebuild : Bool) (b : β) :
    (∀ name, NameComparer.ignoreCase.key name = String.ofList (Text.lower name.toList) ∧
      NameComparer.ignoreCase.key (NameComparer.ignoreCase.key name) =
        NameComparer.ignoreCase.key name) ∧
    ∀ c, c = NameComparer.ordinal ∨ c = NameComparer.ignoreCase →
      (∀ (calls : List (MappingCall TypeKey ρ β)) s,
        let x := TypeMappings.interface.run ⟨{ comparer := c, refusesRebuild }, b, {}⟩ calls
        x.mappings.build.2 = .ok s → ∀ y ∈ s.named, s.Finds y.1 y.2) ∧
      ∀ (calls : List (MappingCall String ρ β)) s,
        let x := NamedMappings.interface.run ⟨{ comparer := c, refusesRebuild }, b, {}⟩ calls
        x.mappings.build.2 = .ok s → ∀ y ∈ s.named, s.Finds y.1 y.2 := by
  refine ⟨fun name => ⟨NameComparer.ignoreCase_key name, NameComparer.stable_ignoreCase name⟩, ?_⟩
  intro c standard
  have stable : c.Stable := by
    obtain rfl | rfl := standard
    · exact NameComparer.stable_ordinal
    · exact NameComparer.stable_ignoreCase
  constructor
  · intro calls s x built y hy
    obtain rfl := TypeMappings.eq_snapshot_of_build built
    have h := TypeMappings.represents_run c refusesRebuild b calls
    obtain ⟨name, key⟩ := h.exists_of_mem_named hy
    exact h.finds hy (key ▸ stable name)
  · intro calls s x built y hy
    obtain rfl := NamedMappings.eq_snapshot_of_build built
    have h := NamedMappings.represents_run c refusesRebuild b calls
    obtain ⟨name, key⟩ := h.exists_of_mem_named hy
    exact (h.finds hy (key ▸ stable name)).named

theorem keys_find_entries_capitals :
    NameComparer.ignoreCase.key "ΔΟΣ" = "δος" ∧
    (∃ s : TypeSnapshot Nat,
      (TypeMappings.interface.run ⟨{ comparer := .ignoreCase, refusesRebuild := true }, (), {}⟩
        [.add (.name "ΔΟΣ") 1]).mappings.build.2 = .ok s ∧ s.getNamed? "δος" = some 1) ∧
    ∃ s : NamedSnapshot Nat,
      (NamedMappings.interface.run ⟨{ comparer := .ignoreCase, refusesRebuild := true }, (), {}⟩
        [.add "ΔΟΣ" 1]).mappings.build.2 = .ok s ∧ s.get? "δος" = some 1 := by
  have key : NameComparer.ignoreCase.key "ΔΟΣ" = "δος" := by decide +kernel
  obtain ⟨types, named⟩ := (keys_find_entries (ρ := Nat) true ()).2 .ignoreCase (.inr rfl)
  refine ⟨key, ⟨_, rfl, ?_⟩, _, rfl, ?_⟩
  · have found := types [.add (.name "ΔΟΣ") 1] _ rfl _ (List.mem_singleton_self _)
    exact key ▸ found.named
  · have found := named [.add "ΔΟΣ" 1] _ rfl _ (List.mem_singleton_self _)
    exact key ▸ found

end AttributeArguments
