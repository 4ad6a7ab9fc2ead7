import AttributeArguments.Proofs.Share
import AttributeArguments.Recorder.Written

/-!
# Absent locations

A location is absent exactly when nothing was written. For a parameter that takes one argument the
recorder of single locations never meets listed elements, and what it stores is the range of the
one expression that is written for the parameter, if any. For a `params` parameter the location of
the collection is empty exactly when nothing is written for it, and listed elements have their own
ranges, in source order, without a common one.
-/
namespace AttributeArguments

open Recorder (Written.assignConstructorLocation Written.assignCollectionLocation)

theorem CollectionLocation.ne_none_of_collection {l : CollectionLocation} {span : Span}
    (h : l.collection = .source span) : l ≠ none := by
  intro he
  rw [he] at h
  cases h

theorem Expression.collectionLocation_ne_none (e : Expression) :
    e.collectionLocation ≠ CollectionLocation.none := by
  unfold collectionLocation
  split <;> exact CollectionLocation.ne_none_of_collection rfl

theorem Slot.collectionLocation_eq_none_iff (slot : Slot) :
    slot.collectionLocation = .none ↔ slot.expressions = [] := by
  cases slot with
  | written e => exact iff_of_false e.collectionLocation_ne_none (List.cons_ne_nil e [])
  | listed es => simp [collectionLocation, CollectionLocation.none, Expression.locations,
      expressions]
  | omitted => exact iff_of_true rfl rfl

namespace Binding

theorem Fills.expressions_eq {p : Parameter} {b : Bool} {es : List Expression} {slot : Slot}
    (h : Fills p b es slot) : slot.expressions = es := by
  cases h with
  | remaining => exact Slot.expressions_ofRemaining es
  | label | next | nothing => rfl

theorem Fills.location? {p : Parameter} {b : Bool} {es : List Expression} {slot : Slot}
    (h : Fills p b es slot) (kind : p.kind ≠ .params) :
    (∃ e, es = [e] ∧ slot = .written e) ∨ es = [] ∧ p.kind = .optional ∧ slot = .omitted := by
  cases h with
  | label e => exact .inl ⟨e, rfl, rfl⟩
  | remaining params => exact (kind params).elim
  | next _ e => exact .inl ⟨e, rfl, rfl⟩
  | nothing optional => exact .inr ⟨rfl, optional, rfl⟩

/-- In an accepted binding the recorded location of an argument is absent exactly when nothing is
written for its parameter. -/
theorem location_absent_iff_omitted {ps : List Parameter} {as : List WrittenArgument}
    {slots : List Slot} (accepted : bind ps as = .ok slots) {i : Nat} {p : Parameter} {slot : Slot}
    (declared : ps[i]? = some p) (filled : slots[i]? = some slot) :
    (p.kind ≠ .params → ∃ l : Location,
      (∀ (σ : Type) (f : σ → Location → σ) (s : σ),
        Written.assignConstructorLocation f slot s = ⟨true, f s l, []⟩) ∧
      (l = .none ↔ writtenFor ps as i = []) ∧
      (writtenFor ps as i = [] → p.kind = .optional) ∧
      ∀ e ∈ writtenFor ps as i, writtenFor ps as i = [e] ∧ l = .source e.span) ∧
    (p.kind = .params → ∃ l : CollectionLocation,
      (∀ (σ : Type) (f : σ → CollectionLocation → σ) (s : σ),
        Written.assignCollectionLocation f slot s = ⟨true, f s l, []⟩) ∧
      (l = .none ↔ writtenFor ps as i = []) ∧
      ∀ es, slot = .listed es →
        es = writtenFor ps as i ∧ l = ⟨.none, es.map fun e => .source e.span⟩) := by
  have fills := bind_fills accepted declared filled
  constructor
  · intro kind
    rcases fills.location? kind with ⟨e, he, rfl⟩ | ⟨he, optional, rfl⟩
    · refine ⟨e.location, fun σ f s => rfl, ?_, ?_, ?_⟩
      · rw [he]
        exact iff_of_false nofun (List.cons_ne_nil e [])
      · rw [he]
        exact fun h => (List.cons_ne_nil e [] h).elim
      · rw [he]
        intro e' hm
        rw [List.mem_singleton.mp hm]
        exact ⟨rfl, rfl⟩
    · refine ⟨.none, fun σ f s => rfl, iff_of_true rfl he, fun _ => optional, ?_⟩
      rw [he]
      exact fun e hm => (List.not_mem_nil hm).elim
  · intro _
    refine ⟨slot.collectionLocation, fun σ f s => rfl, ?_, ?_⟩
    · rw [slot.collectionLocation_eq_none_iff, fills.expressions_eq]
    · rintro es rfl
      exact ⟨fills.expressions_eq, rfl⟩

/-- A `params` parameter in front takes all positional arguments, so that the last parameter
goes without. -/
def drainedParameters : List Parameter :=
  [⟨"rest", 0, .params⟩, ⟨"size", 1, .normal⟩, ⟨"unit", 2, .optional⟩]

def drainedArguments : List WrittenArgument :=
  [⟨none, none, .literal ⟨0, 1⟩⟩, ⟨some "size", none, .literal ⟨9, 10⟩⟩,
    ⟨none, none, .literal ⟨12, 13⟩⟩]

theorem location_absent_drained :
    bind drainedParameters drainedArguments = .ok
      [.listed [.literal ⟨0, 1⟩, .literal ⟨12, 13⟩], .written (.literal ⟨9, 10⟩), .omitted] ∧
    (∃ l : CollectionLocation,
      (∀ (σ : Type) (f : σ → CollectionLocation → σ) (s : σ),
        Written.assignCollectionLocation f (.listed [.literal ⟨0, 1⟩, .literal ⟨12, 13⟩]) s =
          ⟨true, f s l, []⟩) ∧
      l = ⟨.none, [.source ⟨0, 1⟩, .source ⟨12, 13⟩]⟩) ∧
    (∃ l : Location,
      (∀ (σ : Type) (f : σ → Location → σ) (s : σ),
        Written.assignConstructorLocation f (.written (.literal ⟨9, 10⟩)) s =
          ⟨true, f s l, []⟩) ∧
      l = .source ⟨9, 10⟩) ∧
    ∃ l : Location,
      (∀ (σ : Type) (f : σ → Location → σ) (s : σ),
        Written.assignConstructorLocation f .omitted s = ⟨true, f s l, []⟩) ∧
      l = .none := by
  have accepted : bind drainedParameters drainedArguments = .ok
      [.listed [.literal ⟨0, 1⟩, .literal ⟨12, 13⟩], .written (.literal ⟨9, 10⟩),
        .omitted] := rfl
  obtain ⟨rest, recordsRest, -, listed⟩ :=
    (location_absent_iff_omitted accepted (i := 0) rfl rfl).2 rfl
  obtain ⟨size, recordsSize, -, -, located⟩ :=
    (location_absent_iff_omitted accepted (i := 1) rfl rfl).1 (by decide)
  obtain ⟨unit, recordsUnit, absent, -⟩ :=
    (location_absent_iff_omitted accepted (i := 2) rfl rfl).1 (by decide)
  refine ⟨accepted, ⟨rest, recordsRest, (listed _ rfl).2⟩, ⟨size, recordsSize, ?_⟩,
    ⟨unit, recordsUnit, absent.mpr rfl⟩⟩
  exact (located _ List.mem_cons_self).2

end Binding

end AttributeArguments
