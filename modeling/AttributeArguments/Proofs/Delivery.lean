import AttributeArguments.Proofs.Binding
import AttributeArguments.Proofs.Reading

/-!
# Delivery of the written arguments

A successful syntactic pass hands over every expression of the source exactly once: the type
arguments to the type parameters at their positions, the labelled and the positional arguments to
the constructor parameters, and the arguments with a target, in source order, as named ones.
-/
namespace AttributeArguments

open scoped List

def Call.expressions : Call .written → List Expression
  | type _ e => [e]
  | constructor _ slot => slot.expressions
  | named _ e => [e]

theorem Arguments.expressions_calls (a : Arguments .written) :
    a.calls.flatMap Call.expressions =
      a.types.map Prod.snd ++ a.constructors.flatMap (fun x => x.2.expressions) ++
        a.named.map Prod.snd := by
  simp only [calls, List.flatMap_append, List.flatMap_map, Call.expressions]
  simp only [← List.map_eq_flatMap]

theorem WrittenArgument.expressions_perm (as : List WrittenArgument) :
    (as.filter isConstructorArgument).map expression ++ (as.filterMap named?).map Prod.snd ~
      as.map expression := by
  induction as with
  | nil => rfl
  | cons a as ih =>
    obtain ⟨label, target, e⟩ := a
    cases target with
    | none => exact ih.cons e
    | some t => exact List.perm_middle.trans (ih.cons e)

namespace Syntactic

variable {σ : Type}

theorem calls_of_succeeded {data : BoundAttribute} {source : WrittenAttribute}
    {r : Recorder σ (Call .written)} {s : σ}
    (succeeded : ((parse data source).run r s).succeeded = true) :
    ∃ c ps slots, Reads data source c ps slots ∧
      (parse data source).calls r s = (arguments source c ps slots).calls := by
  obtain ⟨c, ps, slots, reads, accepted⟩ := (succeeded_parse_iff r s).mp succeeded
  refine ⟨c, ps, slots, reads, ?_⟩
  rw [parse_of_reads reads]
  exact (Reading.pass_of_acceptsAll accepted .syntactic).1

/-- No written argument is lost, repeated or moved to another parameter. -/
theorem parse_delivers (data : BoundAttribute) (source : WrittenAttribute)
    (distinct : ∀ ps ∈ data.constructorParameters, (ps.map Parameter.name).Nodup)
    (r : Recorder σ (Call .written)) (s : σ)
    (succeeded : ((parse data source).run r s).succeeded = true) :
    let made := (parse data source).calls r s
    let received := made.filterMap Call.constructor?
    made.flatMap Call.expressions ~
      source.typeArguments ++ source.arguments.map WrittenArgument.expression ∧
    (∃ c ∈ data.attributeClass, source.typeArguments.length = c.typeParameters.length ∧
      made.filterMap Call.type? = c.typeParameters.zip source.typeArguments) ∧
    data.constructorParameters = some (received.map Prod.fst) ∧
    (∀ a ∈ source.arguments, a.target = none → ∀ l ∈ a.label,
      ∃ p ∈ received.map Prod.fst, p.name = l ∧
        ∀ slot, (p, slot) ∈ received ↔ slot = .written a.expression) ∧
    (received.filter fun x =>
        x.1.name ∉ (source.arguments.filterMap WrittenArgument.labelled?).map Prod.fst).flatMap
      (fun x => x.2.expressions) = source.arguments.filterMap WrittenArgument.positional? ∧
    received.flatMap (fun x => x.2.expressions) ~
      (source.arguments.filter WrittenArgument.isConstructorArgument).map
        WrittenArgument.expression ∧
    made.filterMap Call.named? = source.arguments.filterMap WrittenArgument.named? := by
  obtain ⟨c, ps, slots, reads, hc⟩ := calls_of_succeeded succeeded
  obtain ⟨ht, hr, hn⟩ := (arguments source c ps slots).filterMap_calls
  have hl := Binding.bind_length reads.bound
  have hconstructor : (ps.zip slots).flatMap (fun x => x.2.expressions) ~
      (source.arguments.filter WrittenArgument.isConstructorArgument).map
        WrittenArgument.expression := by
    have hp := (Binding.bind_perm (distinct ps reads.selected) reads.bound).trans
      (Binding.constructorArguments_perm source.arguments).symm
    rw [← List.flatMap_map, List.map_snd_zip (Nat.le_of_eq hl)]
    exact hp
  simp only [hc, ht, hr, hn]
  refine ⟨?_, ⟨c, reads.resolved, reads.types, rfl⟩, ?_, ?_, ?_, hconstructor, rfl⟩
  · rw [Arguments.expressions_calls]
    simp only [arguments, List.append_assoc]
    rw [List.map_snd_zip (Nat.le_of_eq reads.types)]
    exact ((hconstructor.append_right _).trans
      (WrittenArgument.expressions_perm source.arguments)).append_left _
  · rw [reads.selected, arguments, List.map_fst_zip (Nat.le_of_eq hl.symm)]
  · intro a ha target l label
    have labels : (l, a.expression) ∈ Binding.labelled source.arguments := by
      refine List.mem_filterMap.mpr ⟨a, ha, ?_⟩
      simp_all [WrittenArgument.labelled?, WrittenArgument.isConstructorArgument]
    obtain ⟨p, hp, hname, hslot⟩ := Binding.bind_label reads.bound labels
    refine ⟨p, ?_, hname, hslot⟩
    rwa [arguments, List.map_fst_zip (Nat.le_of_eq hl.symm)]
  · exact Binding.bind_unlabelled reads.bound

def mixedData : BoundAttribute where
  attributeClass := some ⟨⟨"Demo"⟩, [⟨"T", 0⟩], [⟨"int"⟩]⟩
  constructorParameters := some [⟨"first", 0, .normal⟩, ⟨"second", 1, .optional⟩,
    ⟨"rest", 2, .params⟩]
  constructorArguments := [.bool true, .null, .array [.i32 3, .i32 4]]
  namedArguments := [("Answer", .i32 42)]

/-- `Demo<T>(second: null, 1, rest: Answer = 42, 3, 4)`, with two labels on one argument. -/
def mixedSource : WrittenAttribute where
  typeArguments := [.typeOf ⟨5, 6⟩]
  arguments := [⟨some "second", none, .null ⟨10, 14⟩⟩, ⟨none, none, .literal ⟨16, 17⟩⟩,
    ⟨some "rest", some "Answer", .literal ⟨20, 22⟩⟩, ⟨none, none, .literal ⟨24, 25⟩⟩,
    ⟨none, none, .literal ⟨27, 28⟩⟩]
  span := ⟨0, 30⟩

theorem parse_delivers_mixed :
    (∀ ps ∈ mixedData.constructorParameters, (ps.map Parameter.name).Nodup) ∧
    ((parse mixedData mixedSource).run Recorder.skip ()).succeeded = true ∧
    ((parse mixedData mixedSource).calls Recorder.skip ()).flatMap Call.expressions ~
      mixedSource.typeArguments ++ mixedSource.arguments.map WrittenArgument.expression := by
  have distinct : ∀ ps ∈ mixedData.constructorParameters, (ps.map Parameter.name).Nodup := by
    decide
  have succeeded : ((parse mixedData mixedSource).run Recorder.skip ()).succeeded = true := by
    decide
  refine ⟨distinct, succeeded, ?_⟩
  exact (parse_delivers mixedData mixedSource distinct Recorder.skip () succeeded).1

end Syntactic

end AttributeArguments
