import AttributeArguments.Proofs.Stripping
import AttributeArguments.Proofs.Verdict
import Mathlib.Data.List.FinRange

/-!
# Parentheses

Parentheses around the written arguments change nothing that binding decides. Which argument goes
to which parameter, and whether it stands alone or in a list, is settled by the places, the labels
and the array-likeness of the arguments, and none of them sees a parenthesis. So each slot holds
the arguments of the same places as before, in their parentheses, a refusal is reported in the same
words, and a collection that is written as one expression is located where it was.
-/
namespace AttributeArguments

namespace Expression

def within (spans : List Span) (e : Expression) : Expression := spans.foldr parenthesized e

theorem within_eq_inside (spans : List Span) (e : Expression) :
    e.within spans = e.inside (spans.map .parentheses) := by
  rw [inside, List.foldr_map]
  rfl

theorem unparenthesized_within (spans : List Span) (e : Expression) :
    (e.within spans).unparenthesized = e.unparenthesized := by
  induction spans with
  | nil => rfl
  | cons span spans ih => exact ih

theorem isArrayLike_within (spans : List Span) (e : Expression) :
    (e.within spans).isArrayLike = e.isArrayLike := by
  rw [isArrayLike, unparenthesized_within, isArrayLike]

theorem collectionLocation_within (spans : List Span) (e : Expression) :
    (e.within spans).collectionLocation = e.collectionLocation := by
  rw [within_eq_inside, collectionLocation_inside]

end Expression

namespace WrittenArgument

def within (spans : List Span) (a : WrittenArgument) : WrittenArgument :=
  { a with expression := a.expression.within spans }

theorem labelled?_within (spans : List Span) (a : WrittenArgument) :
    (a.within spans).labelled? =
      a.labelled?.map fun x => (x.1, a.expression.within spans) := by
  obtain ⟨label, target, e⟩ := a
  cases target <;> cases label <;> rfl

theorem positional?_within (spans : List Span) (a : WrittenArgument) :
    (a.within spans).positional? = a.positional?.map fun _ => a.expression.within spans := by
  obtain ⟨label, target, e⟩ := a
  cases target <;> cases label <;> rfl

end WrittenArgument

/-- A slot in which the places of the arguments stand for their expressions. -/
inductive Plan (ι : Type)
  | written (i : ι)
  | listed (is : List ι)
  | omitted

namespace Plan

variable {ι : Type}

def slot (e : ι → Expression) : Plan ι → Slot
  | written i => .written (e i)
  | listed is => .listed (is.map e)
  | omitted => .omitted

def ofRemaining (arrayLike : ι → Bool) : List ι → Plan ι
  | [i] => if arrayLike i then written i else listed [i]
  | is => listed is

theorem slot_ofRemaining {arrayLike : ι → Bool} {e : ι → Expression}
    (h : ∀ i, (e i).isArrayLike = arrayLike i) (is : List ι) :
    (ofRemaining arrayLike is).slot e = Slot.ofRemaining (is.map e) := by
  match is with
  | [] => rfl
  | [i] =>
    simp only [ofRemaining, Slot.ofRemaining, List.map_cons, List.map_nil, h]
    split_ifs <;> rfl
  | _ :: _ :: _ => rfl

theorem collectionLocation_slot {e f : ι → Expression}
    (h : ∀ i, (f i).collectionLocation = (e i).collectionLocation) (p : Plan ι) {x : Expression}
    (hp : p.slot e = .written x) :
    (p.slot f).collectionLocation = (p.slot e).collectionLocation := by
  cases p with
  | written i => exact h i
  | listed is => exact nomatch hp
  | omitted => rfl

end Plan

namespace Binding

variable {ι : Type}

/-- One plan gives what comes out, whatever expressions stand in the places, as long as the same
ones are array-like. -/
def Planned (arrayLike : ι → Bool)
    (outcome : (ι → Expression) → Except Diagnostic (List Slot)) : Prop :=
  ∃ plan : Except Diagnostic (List (Plan ι)), ∀ e : ι → Expression,
    (∀ i, (e i).isArrayLike = arrayLike i) → outcome e = plan.map (List.map (Plan.slot e))

namespace Planned

variable {arrayLike : ι → Bool}

theorem error (d : Diagnostic) : Planned arrayLike fun _ => .error d := ⟨.error d, fun _ _ => rfl⟩

theorem fill_cons {p : Parameter} {ps : List Parameter} {labelled : List (String × ι)}
    {rest left : List ι}
    (others : Planned arrayLike fun e => fill (labelled.map (Prod.map id e)) ps (left.map e))
    (taken : Plan ι)
    (takes : ∀ e : ι → Expression, (∀ i, (e i).isArrayLike = arrayLike i) →
      Takes (labelled.map (Prod.map id e)) p (rest.map e) (taken.slot e) (left.map e)) :
    Planned arrayLike fun e => fill (labelled.map (Prod.map id e)) (p :: ps) (rest.map e) := by
  obtain ⟨plan, others⟩ := others
  refine ⟨plan.map (taken :: ·), fun e he => ?_⟩
  calc fill (labelled.map (Prod.map id e)) (p :: ps) (rest.map e)
    _ = (fill (labelled.map (Prod.map id e)) ps (left.map e)).map (taken.slot e :: ·) :=
        (takes e he).fill_cons ps
    _ = (plan.map (List.map (Plan.slot e))).map (taken.slot e :: ·) :=
        congrArg (Except.map (taken.slot e :: ·)) (others e he)
    _ = (plan.map (taken :: ·)).map (List.map (Plan.slot e)) := by cases plan <;> rfl

end Planned

theorem planned_fill (arrayLike : ι → Bool) (labelled : List (String × ι)) (ps : List Parameter)
    (rest : List ι) :
    Planned arrayLike fun e => fill (labelled.map (Prod.map id e)) ps (rest.map e) := by
  induction ps generalizing rest with
  | nil =>
    cases rest with
    | nil => exact ⟨.ok [], fun e _ => rfl⟩
    | cons i rest =>
      simp only [fill, List.map_cons, List.length_cons, List.length_map]
      exact .error _
  | cons p ps ih =>
    have entry (e : ι → Expression) := Table.lookup_map e labelled p.name
    cases found : labelled.lookup p.name with
    | some i =>
      refine (ih rest).fill_cons (.written i) fun e _ => .label ?_
      rw [entry, found]
      rfl
    | none =>
      have unlabelled (e : ι → Expression) :
          (labelled.map (Prod.map id e)).lookup p.name = none := by
        rw [entry, found]
        rfl
      by_cases params : p.kind = .params
      · refine (ih []).fill_cons (.ofRemaining arrayLike rest) fun e he => ?_
        rw [Plan.slot_ofRemaining he]
        exact .remaining (unlabelled e) params
      · cases rest with
        | cons i rest =>
          exact (ih rest).fill_cons (.written i) fun e _ => .next (unlabelled e) params
        | nil =>
          cases kind : p.kind with
          | params => exact (params kind).elim
          | optional => exact (ih []).fill_cons .omitted fun e _ => .nothing (unlabelled e) kind
          | normal =>
            simp only [List.map_nil, fill, unlabelled, kind]
            exact .error _

section Places

variable (a : ι → WrittenArgument) (w : ι → List Span) (is : List ι)

theorem labelled_within :
    labelled (is.map fun i => (a i).within (w i)) =
      (is.filterMap fun i => (a i).labelled?.map fun x => (x.1, i)).map
        (Prod.map id fun i => (a i).expression.within (w i)) := by
  rw [labelled, List.filterMap_map, List.map_filterMap]
  refine List.filterMap_congr fun i _ => ?_
  rw [Function.comp_apply, WrittenArgument.labelled?_within, Option.map_map]
  rfl

theorem positional_within :
    positional (is.map fun i => (a i).within (w i)) =
      (is.filterMap fun i => (a i).positional?.map fun _ => i).map
        fun i => (a i).expression.within (w i) := by
  rw [positional, List.filterMap_map, List.map_filterMap]
  refine List.filterMap_congr fun i _ => ?_
  rw [Function.comp_apply, WrittenArgument.positional?_within, Option.map_map]
  rfl

end Places

def parenthesize (as : List WrittenArgument) (w : Fin as.length → List Span) :
    List WrittenArgument :=
  List.ofFn fun i => as[i].within (w i)

variable (ps : List Parameter) (as : List WrittenArgument)

theorem exists_plan_bind :
    ∃ plan : Except Diagnostic (List (Plan (Fin as.length))), ∀ w : Fin as.length → List Span,
      bind ps (parenthesize as w) =
        plan.map (List.map (Plan.slot fun i => as[i].expression.within (w i))) := by
  obtain ⟨plan, hplan⟩ := planned_fill (fun i : Fin as.length => as[i].expression.isArrayLike)
    ((List.finRange as.length).filterMap fun i => as[i].labelled?.map fun x => (x.1, i)) ps
    ((List.finRange as.length).filterMap fun i => as[i].positional?.map fun _ => i)
  have filled (w : Fin as.length → List Span) :=
    hplan (fun i => as[i].expression.within (w i)) fun i => Expression.isArrayLike_within _ _
  simp only [bind, parenthesize, List.ofFn_eq_map, labelled_within, positional_within,
    Table.keys_map]
  cases labelFault? ps [] _ with
  | some fault => exact ⟨.error fault, fun w => rfl⟩
  | none => exact ⟨plan, filled⟩

/-- Parentheses around the arguments do not change the binding. One plan of places says, for all
parentheses at once, which expressions each slot holds and in which form; the reports are the
same, and a slot that holds one expression is located as a collection where it was. -/
theorem bind_parenthesize :
    ∃ plan : Option (List (Plan (Fin as.length))), ∀ c : Collector,
      (bindInto c ps as).1 = plan.map (List.map (Plan.slot fun i => as[i].expression)) ∧
      ∀ w : Fin as.length → List Span,
        (bindInto c ps (parenthesize as w)).1 =
          plan.map (List.map (Plan.slot fun i => as[i].expression.within (w i))) ∧
        (bindInto c ps (parenthesize as w)).2 = (bindInto c ps as).2 ∧
        ∀ slots ∈ (bindInto c ps as).1, ∀ slots' ∈ (bindInto c ps (parenthesize as w)).1,
          slots.Forall₂ (fun (slot slot' : Slot) => ∀ e, slot = .written e →
            slot'.collectionLocation = slot.collectionLocation) slots' := by
  obtain ⟨plan, wrapped⟩ := exists_plan_bind ps as
  -- the plan serves all parentheses, so also the arguments as they are, with none
  have bare : bind ps as = plan.map (List.map (Plan.slot fun i => as[i].expression)) := by
    have none : parenthesize as (fun _ => []) = as := List.ofFn_getElem
    have := wrapped fun _ => []
    rwa [none] at this
  cases plan with
  | error fault =>
    refine ⟨none, fun c => ?_⟩
    simp only [bindInto, bare, wrapped, Except.map, true_and]
    refine ⟨rfl, fun w => ⟨rfl, ?_⟩⟩
    rintro slots ⟨⟩
  | ok plan =>
    refine ⟨some plan, fun c => ?_⟩
    simp only [bindInto, bare, wrapped, Except.map, true_and]
    refine ⟨rfl, fun w => ⟨rfl, ?_⟩⟩
    rintro slots ⟨⟩ slots' ⟨⟩
    rw [List.forall₂_map_left_iff, List.forall₂_map_right_iff, List.forall₂_same]
    intro p _ e hp
    exact p.collectionLocation_slot (fun i => Expression.collectionLocation_within _ _) hp

end Binding

end AttributeArguments
