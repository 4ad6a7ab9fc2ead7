import AttributeArguments.Pass.Combined
import AttributeArguments.Proofs.Dialogue
import Mathlib.Logic.Basic
import Mathlib.Tactic.SplitIfs

/-!
# What the default passes read

The structural conditions of the two default passes, and the arguments that are read when they
hold. Both passes take the parameters from the bound view, so that the arguments of one type
parameter or constructor parameter stand at the same position of both readings. A reading that
fails gives the one fault that it failed for.
-/
namespace AttributeArguments

/-- The faults of an application itself, found before any argument is handed over. -/
def Diagnostic.IsFault : Diagnostic → Prop
  | argumentRejected _ _ | semanticPassFailed | syntacticPassFailed | countMismatch _ _ _ => False
  | _ => True

theorem Diagnostic.IsFault.ne_countMismatch {d : Diagnostic} (fault : d.IsFault) (k : Category)
    (m n : Nat) : d ≠ .countMismatch k m n := by
  rintro rfl
  exact fault

namespace Binding

theorem isFault_of_labelFault? {ps : List Parameter} {seen labels : List String}
    {d : Diagnostic} (h : labelFault? ps seen labels = some d) : d.IsFault := by
  induction labels generalizing seen with
  | nil => cases h
  | cons label labels ih =>
    simp only [labelFault?] at h
    split_ifs at h
    · cases h; trivial
    · cases h; trivial
    · exact ih h

theorem isFault_of_fill {labelled : List (String × Expression)} {ps : List Parameter}
    {rest : List Expression} {d : Diagnostic} (h : fill labelled ps rest = .error d) :
    d.IsFault := by
  have of_map {slot : Slot} {x : Except Diagnostic (List Slot)}
      (hx : x.map (slot :: ·) = .error d) : x = .error d := by
    cases x with
    | error e => exact congrArg _ (Except.error.inj hx)
    | ok slots => cases hx
  fun_induction fill labelled ps rest with
  | case1 => cases h
  | case2 => cases h; trivial
  | case3 _ _ _ _ _ ih => exact ih (of_map h)
  | case4 _ _ _ _ _ ih => exact ih (of_map h)
  | case5 _ _ _ _ _ _ ih => exact ih (of_map h)
  | case6 _ _ _ _ ih => exact ih (of_map h)
  | case7 => cases h; trivial

theorem isFault_of_bind {ps : List Parameter} {as : List WrittenArgument} {d : Diagnostic}
    (h : bind ps as = .error d) : d.IsFault := by
  unfold bind at h
  split at h
  next fault hf =>
    cases h
    exact isFault_of_labelFault? hf
  next => exact isFault_of_fill h

end Binding

structure Semantic.Reads (data : BoundAttribute) (c : AttributeClass)
    (ps : List Parameter) : Prop where
  resolved : data.attributeClass = some c
  types : c.typeArguments.length = c.typeParameters.length
  selected : data.constructorParameters = some ps
  constructors : data.constructorArguments.length = ps.length

@[simp] theorem Semantic.arguments_reading (data : BoundAttribute) (c : AttributeClass)
    (ps : List Parameter) : (reading data c ps).arguments = arguments data c ps := rfl

theorem Semantic.read_eq_ok_iff {data : BoundAttribute} {a : Reading .bound} :
    read data = .ok a ↔ ∃ c ps, Reads data c ps ∧ a = reading data c ps := by
  constructor
  · intro h
    unfold read at h
    split at h
    · cases h
    next c hc =>
      split_ifs at h with ht
      split at h
      · cases h
      next ps hp =>
        split_ifs at h with hn
        exact ⟨c, ps, ⟨hc, not_not.mp ht, hp, not_not.mp hn⟩, (Except.ok.inj h).symm⟩
  · rintro ⟨c, ps, ⟨hc, ht, hp, hn⟩, rfl⟩
    simp [read, hc, ht, hp, hn]

theorem Semantic.isFault_of_read {data : BoundAttribute} {d : Diagnostic}
    (h : read data = .error d) : d.IsFault := by
  unfold read at h
  split at h
  · cases h; trivial
  · split_ifs at h
    · cases h; trivial
    · split at h
      · cases h; trivial
      · split_ifs at h
        cases h; trivial

structure Syntactic.Reads (data : BoundAttribute) (source : WrittenAttribute)
    (c : AttributeClass) (ps : List Parameter) (slots : List Slot) : Prop where
  resolved : data.attributeClass = some c
  types : source.typeArguments.length = c.typeParameters.length
  selected : data.constructorParameters = some ps
  bound : Binding.bind ps source.arguments = .ok slots

theorem Semantic.Reads.same_parameters {data : BoundAttribute} {source : WrittenAttribute}
    {c d : AttributeClass} {ps qs : List Parameter} {slots : List Slot}
    (semantic : Semantic.Reads data c ps) (syntactic : Syntactic.Reads data source d qs slots) :
    c = d ∧ ps = qs := by
  have hc : some c = some d := semantic.resolved.symm.trans syntactic.resolved
  have hp : some ps = some qs := semantic.selected.symm.trans syntactic.selected
  exact ⟨Option.some.inj hc, Option.some.inj hp⟩

@[simp] theorem Syntactic.arguments_reading (source : WrittenAttribute) (c : AttributeClass)
    (ps : List Parameter) (slots : List Slot) :
    (reading source c ps slots).arguments = arguments source c ps slots := rfl

theorem Syntactic.read_eq_ok_iff {data : BoundAttribute} {source : WrittenAttribute}
    {a : Reading .written} :
    read data source = .ok a ↔
      ∃ c ps slots, Reads data source c ps slots ∧ a = reading source c ps slots := by
  constructor
  · intro h
    unfold read at h
    split at h
    · cases h
    next c hc =>
      split_ifs at h with ht
      split at h
      · cases h
      next ps hp =>
        split at h
        · cases h
        next slots hs =>
          exact ⟨c, ps, slots, ⟨hc, not_not.mp ht, hp, hs⟩, (Except.ok.inj h).symm⟩
  · rintro ⟨c, ps, slots, ⟨hc, ht, hp, hs⟩, rfl⟩
    simp [read, hc, ht, hp, hs]

theorem Syntactic.isFault_of_read {data : BoundAttribute} {source : WrittenAttribute}
    {d : Diagnostic} (h : read data source = .error d) : d.IsFault := by
  unfold read at h
  split at h
  · cases h; trivial
  · split_ifs at h
    · cases h; trivial
    · split at h
      · cases h; trivial
      · split at h
        next hb =>
          cases h
          exact Binding.isFault_of_bind hb
        next => cases h

section Parse

variable {σ : Type} {data : BoundAttribute} {source : WrittenAttribute} {c : AttributeClass}
  {ps : List Parameter} {slots : List Slot}

theorem Semantic.parse_of_reads (reads : Reads data c ps) :
    parse data = Reading.pass .semantic (.ok (reading data c ps)) := by
  rw [parse, read_eq_ok_iff.mpr ⟨c, ps, reads, rfl⟩]

theorem Syntactic.parse_of_reads (reads : Reads data source c ps slots) :
    parse data source = Reading.pass .syntactic (.ok (reading source c ps slots)) := by
  rw [parse, read_eq_ok_iff.mpr ⟨c, ps, slots, reads, rfl⟩]

theorem Semantic.succeeded_parse_iff (r : Recorder σ (Call .bound)) (s : σ) :
    ((parse data).run r s).succeeded = true ↔
      ∃ c ps, Reads data c ps ∧ r.AcceptsAll s (arguments data c ps).calls := by
  rw [parse, Reading.succeeded_pass_iff]
  constructor
  · rintro ⟨a, ha, accepted⟩
    obtain ⟨c, ps, reads, rfl⟩ := read_eq_ok_iff.mp ha
    exact ⟨c, ps, reads, accepted⟩
  · rintro ⟨c, ps, reads, accepted⟩
    exact ⟨_, read_eq_ok_iff.mpr ⟨c, ps, reads, rfl⟩, accepted⟩

theorem Syntactic.succeeded_parse_iff (r : Recorder σ (Call .written)) (s : σ) :
    ((parse data source).run r s).succeeded = true ↔
      ∃ c ps slots, Reads data source c ps slots ∧
        r.AcceptsAll s (arguments source c ps slots).calls := by
  rw [parse, Reading.succeeded_pass_iff]
  constructor
  · rintro ⟨a, ha, accepted⟩
    obtain ⟨c, ps, slots, reads, rfl⟩ := read_eq_ok_iff.mp ha
    exact ⟨c, ps, slots, reads, accepted⟩
  · rintro ⟨c, ps, slots, reads, accepted⟩
    exact ⟨_, read_eq_ok_iff.mpr ⟨c, ps, slots, reads, rfl⟩, accepted⟩

theorem Semantic.record_parse (reads : Reads data c ps) {r : Recorder σ (Call .bound)} {s : σ}
    (accepted : r.AcceptsAll s (arguments data c ps).calls) :
    ((parse data).run r s).record = r.after s (arguments data c ps).calls := by
  rw [parse_of_reads reads]
  exact congrArg Run.record (Reading.pass_of_acceptsAll accepted .semantic).2

theorem Syntactic.record_parse (reads : Reads data source c ps slots)
    {r : Recorder σ (Call .written)} {s : σ}
    (accepted : r.AcceptsAll s (arguments source c ps slots).calls) :
    ((parse data source).run r s).record = r.after s (arguments source c ps slots).calls := by
  rw [parse_of_reads reads]
  exact congrArg Run.record (Reading.pass_of_acceptsAll accepted .syntactic).2

end Parse

end AttributeArguments
