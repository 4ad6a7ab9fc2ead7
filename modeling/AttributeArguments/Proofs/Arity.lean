import AttributeArguments.Proofs.Feeding

/-!
# The number of bound arguments

Both passes take the class and the constructor from the bound view, and refuse an application that
has none. Each of them then counts the arguments of its own view, and no others. A bound view with
too few or too many arguments is refused by the semantic pass and passes the syntactic one, which
runs in the same way whatever the bound arguments are.
-/
namespace AttributeArguments

variable {σ τ : Type}

namespace BoundAttribute

def withArguments (data : BoundAttribute) (types : List TypeName) (constants : List Constant)
    (named : List (String × Constant)) : BoundAttribute where
  attributeClass := data.attributeClass.map fun c => { c with typeArguments := types }
  constructorParameters := data.constructorParameters
  constructorArguments := constants
  namedArguments := named

/-- One bound argument for each parameter of the class and of the constructor. -/
structure Filled (data : BoundAttribute) (c : AttributeClass) (ps : List Parameter) : Prop where
  types : c.typeArguments.length = c.typeParameters.length
  constructors : data.constructorArguments.length = ps.length

end BoundAttribute

theorem Syntactic.read_withArguments (data : BoundAttribute) (source : WrittenAttribute)
    (types : List TypeName) (constants : List Constant) (named : List (String × Constant)) :
    read (data.withArguments types constants named) source = read data source := by
  cases h : data.attributeClass <;> simp only [read, BoundAttribute.withArguments, h] <;> rfl

section Selected

variable {data : BoundAttribute} {c : AttributeClass} {ps : List Parameter}

theorem Semantic.exists_reads_iff (resolved : data.attributeClass = some c)
    (selected : data.constructorParameters = some ps) :
    (∃ d qs, Reads data d qs) ↔ data.Filled c ps := by
  constructor
  · rintro ⟨d, qs, reads⟩
    obtain rfl : c = d := Option.some.inj (resolved.symm.trans reads.resolved)
    obtain rfl : ps = qs := Option.some.inj (selected.symm.trans reads.selected)
    exact ⟨reads.types, reads.constructors⟩
  · rintro ⟨types, constructors⟩
    exact ⟨c, ps, resolved, types, selected, constructors⟩

theorem Semantic.declines_of_not_filled (resolved : data.attributeClass = some c)
    (selected : data.constructorParameters = some ps) (unfilled : ¬ data.Filled c ps)
    (r : Recorder σ (Call .bound)) (s : σ) : (parse data).Declines none r s := by
  rcases parse_cases data r s with ⟨-, declined⟩ | ⟨d, qs, reads, -⟩
  · exact declined
  · exact (unfilled ((exists_reads_iff resolved selected).mp ⟨d, qs, reads⟩)).elim

theorem Semantic.succeeded_parse_iff_filled (resolved : data.attributeClass = some c)
    (selected : data.constructorParameters = some ps) {r : Recorder σ (Call .bound)}
    (accepts : ∀ call s, (r call s).accepted = true) (s : σ) :
    ((parse data).run r s).succeeded = true ↔ data.Filled c ps := by
  rw [succeeded_parse_iff, ← exists_reads_iff resolved selected]
  simp only [Recorder.acceptsAll_of_forall accepts, and_true]

end Selected

/-- An application that goes through the syntactic pass has a class and a constructor. If the bound
arguments are not one for each parameter, the semantic pass declines it, and otherwise it succeeds
with a recorder that accepts every call. The syntactic pass cannot tell the two apart: it would have
run alike with any other bound arguments. -/
theorem Syntactic.parse_leaves_bound_counts {data : BoundAttribute} {source : WrittenAttribute}
    {w : Recorder τ (Call .written)} {t : τ}
    (succeeded : ((parse data source).run w t).succeeded = true) :
    (∃ c ps, data.attributeClass = some c ∧ data.constructorParameters = some ps ∧
      ∀ (r : Recorder σ (Call .bound)) (s : σ),
        (¬ data.Filled c ps → (Semantic.parse data).Declines none r s) ∧
        ((∀ call s, (r call s).accepted = true) →
          (((Semantic.parse data).run r s).succeeded = true ↔ data.Filled c ps))) ∧
    ∀ types constants named,
      (parse (data.withArguments types constants named) source).run w t =
        (parse data source).run w t := by
  constructor
  · obtain ⟨c, ps, slots, ⟨resolved, -, selected, -⟩, -⟩ := (succeeded_parse_iff w t).mp succeeded
    refine ⟨c, ps, resolved, selected, fun r s => ⟨fun unfilled => ?_, fun accepts => ?_⟩⟩
    · exact Semantic.declines_of_not_filled resolved selected unfilled r s
    · exact Semantic.succeeded_parse_iff_filled resolved selected accepts s
  · intro types constants named
    simp only [parse, read_withArguments]

def unboundData : BoundAttribute where
  attributeClass := some ⟨⟨"Example"⟩, [], []⟩
  constructorParameters := some [⟨"size", 0, .normal⟩]

def unboundSource : WrittenAttribute := ⟨[], [⟨none, none, .literal ⟨8, 9⟩⟩], ⟨0, 10⟩⟩

theorem Syntactic.parse_leaves_bound_counts_unbound :
    ((parse unboundData unboundSource).run .skip ()).succeeded = true ∧
    (Semantic.parse unboundData).Declines none .skip () := by
  have succeeded : ((parse unboundData unboundSource).run .skip ()).succeeded = true := by decide
  obtain ⟨⟨c, ps, -, selected, refuses⟩, -⟩ := parse_leaves_bound_counts (σ := Unit) succeeded
  obtain rfl := Option.some.inj selected
  refine ⟨succeeded, (refuses .skip ()).1 ?_⟩
  rintro ⟨-, constructors⟩
  cases constructors

/-- Not every application that the semantic pass refuses for itself is refused by the syntactic
pass. -/
theorem Syntactic.bound_counts_not_checked :
    ¬ ∀ (data : BoundAttribute) (source : WrittenAttribute) (τ : Type)
      (w : Recorder τ (Call .written)) (t : τ),
      ((parse data source).run w t).succeeded = true →
      ∃ c ps, Semantic.Reads data c ps := by
  intro checked
  obtain ⟨c, ps, reads⟩ := checked unboundData unboundSource Unit .skip () (by decide)
  obtain rfl := Option.some.inj reads.selected
  cases reads.constructors

end AttributeArguments
