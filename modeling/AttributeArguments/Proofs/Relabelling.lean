import AttributeArguments.Proofs.Binding
import Mathlib.Data.List.Forall2

/-!
# Labels instead of positions

A positional argument that is all there is in the slot of a parameter may as well be written with
the name of that parameter. The label takes the parameter out of those that are served by position,
and the argument out of those that serve them, so that every parameter after it meets the same
arguments as before. Any number of arguments can be labelled at once, and no slot changes.
-/
namespace AttributeArguments.Binding

open scoped List

/-- For each positional argument in source order, the parameter that has it for its written slot,
if it is not one of several elements: the slots of the unlabelled parameters hold the positional
arguments in this order. -/
def soleTakers (labelled : List (String × Expression)) (xs : List (Parameter × Slot)) :
    List (Option Parameter) :=
  (xs.filter fun x => (labelled.lookup x.1.name).isNone).flatMap fun x =>
    match x.2 with
    | .written _ => [some x.1]
    | slot => slot.expressions.map fun _ => none

def chosenLabels (chosen : Nat → Bool) (ts : List (Option Parameter)) : List (Option String) :=
  ts.mapIdx fun i t => if chosen i then t.map Parameter.name else none

/-- Gives the positional arguments, in turn, the labels of the list. -/
def relabel : List (Option String) → List WrittenArgument → List WrittenArgument
  | _, [] => []
  | ms, a :: as =>
    if a.positional?.isSome then { a with label := ms.headD none } :: relabel ms.tail as
    else a :: relabel ms as

inductive Choice : List (Option Parameter) → List (Option String) → Prop
  | nil : Choice [] []
  | keep (t : Option Parameter) {ts : List (Option Parameter)} {ms : List (Option String)} :
      Choice ts ms → Choice (t :: ts) (none :: ms)
  | label (p : Parameter) {ts : List (Option Parameter)} {ms : List (Option String)} :
      Choice ts ms → Choice (some p :: ts) (some p.name :: ms)

def kept (ms : List (Option String)) (es : List Expression) : List Expression :=
  ((ms.zip es).filter fun x => x.1.isNone).map Prod.snd

def moved (ms : List (Option String)) (es : List Expression) : List (String × Expression) :=
  (ms.zip es).filterMap fun x => x.1.map fun l => (l, x.2)

theorem kept_nil (ms : List (Option String)) : kept ms [] = [] := by
  rw [kept, List.zip_nil_right]
  rfl

theorem moved_nil (ms : List (Option String)) : moved ms [] = [] := by
  rw [moved, List.zip_nil_right]
  rfl

theorem choice_chosenLabels (chosen : Nat → Bool) (ts : List (Option Parameter)) :
    Choice ts (chosenLabels chosen ts) := by
  induction ts generalizing chosen with
  | nil => exact .nil
  | cons t ts ih =>
    have rest := ih fun i => chosen (i + 1)
    rw [chosenLabels, List.mapIdx_cons]
    cases t with
    | none => cases chosen 0 <;> exact .keep none rest
    | some p =>
      cases chosen 0 with
      | false => exact .keep (some p) rest
      | true => exact .label p rest

namespace Choice

variable {ts : List (Option Parameter)} {ms : List (Option String)}

theorem length_eq (h : Choice ts ms) : ms.length = ts.length := by
  induction h with
  | nil => rfl
  | keep _ _ ih => exact congrArg (· + 1) ih
  | label _ _ ih => exact congrArg (· + 1) ih

theorem sublist (h : Choice ts ms) : ms.filterMap id <+ (ts.filterMap id).map Parameter.name := by
  induction h with
  | nil => exact .slnil
  | keep t _ ih =>
    cases t with
    | none => exact ih
    | some p => exact ih.cons _
  | label p _ ih => exact ih.cons_cons _

theorem of_none {es : List Expression} (h : Choice (es.map fun _ => none) ms) :
    kept ms es = es ∧ moved ms es = [] := by
  induction es generalizing ms with
  | nil =>
    cases h
    exact ⟨rfl, rfl⟩
  | cons e es ih =>
    cases h with
    | keep _ rest =>
      obtain ⟨same, none_moved⟩ := ih rest
      exact ⟨congrArg (e :: ·) same, none_moved⟩

end Choice

theorem map_fst_moved {ms : List (Option String)} {es : List Expression}
    (fits : ms.length = es.length) : (moved ms es).map Prod.fst = ms.filterMap id := by
  induction ms generalizing es with
  | nil => rfl
  | cons m ms ih =>
    obtain ⟨e, es, rfl⟩ := List.exists_cons_of_length_eq_add_one fits.symm
    have rest := ih (Nat.succ.inj fits)
    cases m with
    | none => exact rest
    | some l => exact congrArg (l :: ·) rest

theorem relabel_spec {ms : List (Option String)} {as : List WrittenArgument}
    (fits : ms.length = (positional as).length) :
    positional (relabel ms as) = kept ms (positional as) ∧
      labelled (relabel ms as) ~ labelled as ++ moved ms (positional as) := by
  induction as generalizing ms with
  | nil =>
    obtain rfl := List.length_eq_zero_iff.mp fits
    exact ⟨rfl, .refl _⟩
  | cons a as ih =>
    obtain ⟨label, target, e⟩ := a
    cases target with
    | some t => exact ih fits
    | none =>
      cases label with
      | some l =>
        obtain ⟨hp, hl⟩ := ih fits
        exact ⟨hp, hl.cons (l, e)⟩
      | none =>
        obtain ⟨m, ms, rfl⟩ := List.exists_cons_of_length_eq_add_one fits
        have rest_fits : ms.length = (positional as).length := Nat.succ.inj fits
        obtain ⟨hp, hl⟩ := ih rest_fits
        cases m with
        | none => exact ⟨congrArg (e :: ·) hp, hl⟩
        | some l => exact ⟨hp, (hl.cons (l, e)).trans List.perm_middle.symm⟩

section Step

variable {xs ys : List (String × Expression)} {p : Parameter} {slot : Slot}

theorem soleTakers_cons (zs : List (Parameter × Slot)) :
    soleTakers xs ((p, slot) :: zs) = soleTakers xs [(p, slot)] ++ soleTakers xs zs := by
  rw [soleTakers, ← List.singleton_append, List.filter_append, List.flatMap_append]
  rfl

theorem soleTakers_label {e : Expression} (found : xs.lookup p.name = some e) :
    soleTakers xs [(p, slot)] = [] := by
  simp [soleTakers, found]

theorem soleTakers_written {e : Expression} (unlabelled : xs.lookup p.name = none) :
    soleTakers xs [(p, .written e)] = [some p] := by
  simp [soleTakers, unlabelled]

theorem soleTakers_listed (unlabelled : xs.lookup p.name = none) (es : List Expression) :
    soleTakers xs [(p, .listed es)] = es.map fun _ => none := by
  simp [soleTakers, unlabelled, Slot.expressions]

theorem soleTakers_ofRemaining (unlabelled : xs.lookup p.name = none) (rest : List Expression) :
    (∃ e, rest = [e] ∧ Slot.ofRemaining rest = .written e) ∨
      soleTakers xs [(p, .ofRemaining rest)] = rest.map fun _ => none := by
  match rest with
  | [] => exact .inr (soleTakers_listed unlabelled [])
  | [e] =>
    by_cases array : e.isArrayLike = true
    · exact .inl ⟨e, rfl, if_pos array⟩
    · rw [Slot.ofRemaining, if_neg array]
      exact .inr (soleTakers_listed unlabelled [e])
  | e :: f :: es => exact .inr (soleTakers_listed unlabelled (e :: f :: es))

theorem soleTakers_omitted : soleTakers xs [(p, .omitted)] = [] := by
  simp [soleTakers, Slot.expressions]

theorem soleTakers_sublist (zs : List (Parameter × Slot)) :
    (soleTakers xs zs).filterMap id <+
      (zs.map Prod.fst).filter fun q => (xs.lookup q.name).isNone := by
  induction zs with
  | nil => exact .slnil
  | cons z zs ih =>
    obtain ⟨q, slot⟩ := z
    rw [soleTakers_cons, List.filterMap_append, List.map_cons, List.filter_cons]
    cases found : xs.lookup q.name with
    | some e =>
      rw [soleTakers_label found]
      exact ih
    | none =>
      cases slot with
      | written e =>
        rw [soleTakers_written found]
        exact ih.cons_cons q
      | listed es =>
        have no_taker : (es.map fun _ => (none : Option Parameter)).filterMap id = [] := by simp
        rw [soleTakers_listed found, no_taker]
        exact ih.cons q
      | omitted =>
        rw [soleTakers_omitted]
        exact ih.cons q

theorem length_soleTakers (zs : List (Parameter × Slot)) :
    (soleTakers xs zs).length =
      ((zs.filter fun x => (xs.lookup x.1.name).isNone).flatMap
        fun x => x.2.expressions).length := by
  simp only [soleTakers, List.length_flatMap]
  congr 1
  refine List.map_congr_left fun x _ => ?_
  cases hx : x.2 <;> simp [Slot.expressions]

theorem Choice.mem_moved {ts : List (Option Parameter)} {ms : List (Option String)}
    (h : Choice ts ms) {es : List Expression} {l : String} {e : Expression}
    (hm : (l, e) ∈ moved ms es) : ∃ q, some q ∈ ts ∧ q.name = l := by
  induction h generalizing es with
  | nil => cases hm
  | keep t _ ih =>
    cases es with
    | nil => cases hm
    | cons f es =>
      obtain ⟨q, hq, hl⟩ := @ih es hm
      exact ⟨q, List.mem_cons_of_mem t hq, hl⟩
  | label p _ ih =>
    cases es with
    | nil => cases hm
    | cons f es =>
      rcases List.mem_cons.mp hm with heq | hm
      · cases heq
        exact ⟨p, List.mem_cons_self, rfl⟩
      · obtain ⟨q, hq, hl⟩ := ih hm
        exact ⟨q, List.mem_cons_of_mem _ hq, hl⟩

theorem Takes.relabel {rest left : List Expression} (h : Takes xs p rest slot left)
    {ts : List (Option Parameter)} {ms : List (Option String)} (fits : ts.length = left.length)
    (choice : Choice (soleTakers xs [(p, slot)] ++ ts) ms)
    (other : ∀ q, some q ∈ ts → q.name ≠ p.name)
    (table : ∀ e, ys.lookup p.name = some e ↔
      xs.lookup p.name = some e ∨ (p.name, e) ∈ moved ms rest) :
    ∃ ms', Choice ts ms' ∧ Takes ys p (kept ms rest) slot (kept ms' left) ∧
      ∀ l e, l ≠ p.name → ((l, e) ∈ moved ms rest ↔ (l, e) ∈ moved ms' left) := by
  have still_unlabelled (unlabelled : xs.lookup p.name = none)
      (stays : ∀ e, (p.name, e) ∉ moved ms rest) : ys.lookup p.name = none := by
    refine Option.eq_none_iff_forall_ne_some.mpr fun e he => ?_
    rcases (table e).mp he with found | hm
    · rw [unlabelled] at found
      cases found
    · exact stays e hm
  cases h with
  | label found =>
    rw [soleTakers_label found, List.nil_append] at choice
    exact ⟨ms, choice, .label ((table _).mpr (.inl found)), fun _ _ _ => Iff.rfl⟩
  | nothing unlabelled kind =>
    rw [soleTakers_omitted, List.nil_append] at choice
    have free := still_unlabelled unlabelled (by simp [moved_nil])
    refine ⟨ms, choice, ?_, fun _ _ _ => Iff.rfl⟩
    rw [kept_nil]
    exact .nothing free kind
  | @next e left unlabelled kind =>
    rw [soleTakers_written unlabelled] at choice
    cases choice with
    | @keep _ _ ms rest =>
      have stays (f : Expression) : (p.name, f) ∉ moved (none :: ms) (e :: left) := by
        intro hm
        have later : (p.name, f) ∈ moved ms left := hm
        obtain ⟨q, hq, same⟩ := rest.mem_moved later
        exact other q hq same
      exact ⟨ms, rest, .next (still_unlabelled unlabelled stays) kind, fun _ _ _ => Iff.rfl⟩
    | @label _ _ ms rest =>
      have labels : ys.lookup p.name = some e := (table e).mpr (.inr List.mem_cons_self)
      refine ⟨ms, rest, .label labels, fun l f hl => ?_⟩
      have differs : (l, f) ≠ (p.name, e) := fun h => hl (congrArg Prod.fst h)
      exact List.mem_cons.trans (or_iff_right differs)
  | remaining unlabelled kind =>
    obtain rfl := List.length_eq_zero_iff.mp fits
    rw [List.append_nil] at choice
    refine ⟨[], .nil, ?_⟩
    rw [kept_nil]
    rcases soleTakers_ofRemaining unlabelled rest with ⟨e, rfl, written⟩ | listed
    · rw [written, soleTakers_written unlabelled] at choice
      cases choice with
      | keep _ none_left =>
        cases none_left
        have free := still_unlabelled unlabelled fun f => List.not_mem_nil
        exact ⟨.remaining free kind, fun _ _ _ => Iff.rfl⟩
      | label _ none_left =>
        cases none_left
        have labels : ys.lookup p.name = some e := (table e).mpr (.inr List.mem_cons_self)
        rw [written]
        refine ⟨.label labels, fun l f hl => iff_of_false ?_ List.not_mem_nil⟩
        exact fun hm => hl (congrArg Prod.fst (List.mem_singleton.mp hm))
    · rw [listed] at choice
      obtain ⟨all_kept, none_moved⟩ := choice.of_none
      have free := still_unlabelled unlabelled (by simp [none_moved])
      rw [all_kept, none_moved]
      exact ⟨.remaining free kind, fun _ _ _ => Iff.rfl⟩

theorem soleTakers_hold (zs : List (Parameter × Slot)) :
    List.Forall₂ (fun t e => ∀ q ∈ t, (q, Slot.written e) ∈ zs) (soleTakers xs zs)
      ((zs.filter fun x => (xs.lookup x.1.name).isNone).flatMap fun x => x.2.expressions) := by
  have members : List.Forall₂ (fun x y => x = y ∧ x ∈ zs)
      (zs.filter fun x => (xs.lookup x.1.name).isNone)
      (zs.filter fun x => (xs.lookup x.1.name).isNone) :=
    List.forall₂_same.mpr fun x hx => ⟨rfl, (List.mem_filter.mp hx).1⟩
  refine List.rel_flatMap members ?_
  rintro ⟨q, slot⟩ _ ⟨rfl, hq⟩
  cases slot with
  | written e =>
    refine .cons (fun r hr => ?_) .nil
    cases hr
    exact hq
  | listed es =>
    simp only [Slot.expressions, List.forall₂_map_left_iff]
    exact List.forall₂_same.mpr fun e _ r hr => nomatch hr
  | omitted => exact .nil

theorem soleTaker_of_written {zs : List (Parameter × Slot)} {q : Parameter} {e : Expression}
    (hq : (q, .written e) ∈ zs) (unlabelled : xs.lookup q.name = none) :
    some q ∈ soleTakers xs zs := by
  refine List.mem_flatMap.mpr ⟨(q, .written e), List.mem_filter.mpr ⟨hq, ?_⟩, List.mem_cons_self⟩
  rw [unlabelled]
  rfl

end Step

section Run

variable {xs ys : List (String × Expression)} {ps : List Parameter} {rest : List Expression}
  {slots : List Slot}

theorem sublist_of_fill (filled : fill xs ps rest = .ok slots) :
    (soleTakers xs (ps.zip slots)).filterMap id <+
      ps.filter fun q => (xs.lookup q.name).isNone := by
  have inside : (soleTakers xs (ps.zip slots)).filterMap id <+ _ :=
    soleTakers_sublist (ps.zip slots)
  rwa [List.map_fst_zip (Nat.le_of_eq (fill_length filled).symm)] at inside

theorem mem_of_soleTaker (filled : fill xs ps rest = .ok slots) {q : Parameter}
    (taker : some q ∈ soleTakers xs (ps.zip slots)) :
    q ∈ ps ∧ xs.lookup q.name = none := by
  have inside := (sublist_of_fill filled).subset (List.mem_filterMap.mpr ⟨some q, taker, rfl⟩)
  rwa [List.mem_filter, Option.isNone_iff_eq_none] at inside

theorem fill_relabel (distinct : (ps.map Parameter.name).Nodup)
    (filled : fill xs ps rest = .ok slots) {ms : List (Option String)}
    (choice : Choice (soleTakers xs (ps.zip slots)) ms)
    (table : ∀ p ∈ ps, ∀ e, ys.lookup p.name = some e ↔
      xs.lookup p.name = some e ∨ (p.name, e) ∈ moved ms rest) :
    fill ys ps (kept ms rest) = .ok slots := by
  induction ps generalizing rest slots ms with
  | nil =>
    obtain ⟨rfl, rfl⟩ := fill_nil_eq_ok filled
    rw [kept_nil]
    rfl
  | cons p ps ih =>
    obtain ⟨slot, left, tail, taken, ht, rfl⟩ := fill_cons_eq_ok filled
    rw [List.map_cons, List.nodup_cons] at distinct
    rw [List.zip_cons_cons, soleTakers_cons] at choice
    have differs : ∀ q ∈ ps, q.name ≠ p.name := fun q hq same =>
      distinct.1 (List.mem_map.mpr ⟨q, hq, same⟩)
    have fits : (soleTakers xs (ps.zip tail)).length = left.length := by
      rw [length_soleTakers, fill_unlabelled ht]
    have other : ∀ q, some q ∈ soleTakers xs (ps.zip tail) → q.name ≠ p.name := fun q hq =>
      differs q (mem_of_soleTaker ht hq).1
    obtain ⟨ms', choice', taken', later⟩ :=
      taken.relabel fits choice other (table p List.mem_cons_self)
    have filled' : fill ys ps (kept ms' left) = .ok tail := by
      refine ih distinct.2 ht choice' fun q hq e => ?_
      rw [table q (List.mem_cons_of_mem p hq), later q.name e (differs q hq)]
    rw [taken'.fill_cons, filled']
    rfl

end Run

/-- Any of the positional arguments that are the written slot of a parameter can be labelled with
its name where they stand, and all parameters keep their slots. -/
theorem bind_relabel {ps : List Parameter} (distinct : (ps.map Parameter.name).Nodup)
    {as : List WrittenArgument} {slots : List Slot} (accepted : bind ps as = .ok slots)
    (chosen : Nat → Bool) :
    let ts := soleTakers (labelled as) (ps.zip slots)
    List.Forall₂ (fun t e => ∀ p ∈ t, (p, Slot.written e) ∈ ps.zip slots) ts (positional as) ∧
    (∀ p e, (p, Slot.written e) ∈ ps.zip slots → (labelled as).lookup p.name = none →
      some p ∈ ts) ∧
    bind ps (relabel (chosenLabels chosen ts) as) = .ok slots := by
  intro ts
  obtain ⟨known, once, filled⟩ := bind_eq_ok_iff.mp accepted
  have hold : List.Forall₂ (fun t e => ∀ p ∈ t, (p, Slot.written e) ∈ ps.zip slots) ts
      (positional as) := fill_unlabelled filled ▸ soleTakers_hold (ps.zip slots)
  refine ⟨hold, fun p e => soleTaker_of_written, ?_⟩
  have choice : Choice ts (chosenLabels chosen ts) := choice_chosenLabels chosen ts
  generalize chosenLabels chosen ts = ms at choice ⊢
  have fits : ms.length = (positional as).length := choice.length_eq.trans hold.length_eq
  obtain ⟨positions, labels⟩ := relabel_spec fits
  -- The new labels are names of parameters that had none, so that no label is given twice.
  have names : (moved ms (positional as)).map Prod.fst <+
      (ps.filter fun q => ((labelled as).lookup q.name).isNone).map Parameter.name := by
    rw [map_fst_moved fits]
    exact choice.sublist.trans ((sublist_of_fill filled).map _)
  have keys := labels.map Prod.fst
  rw [List.map_append] at keys
  have once' : ((labelled (relabel ms as)).map Prod.fst).Nodup := by
    have moved_once := (distinct.sublist (List.filter_sublist.map _)).sublist names
    refine keys.nodup_iff.mpr (List.nodup_append.mpr ⟨once, moved_once, ?_⟩)
    rintro l hl m hm rfl
    obtain ⟨q, hq, rfl⟩ := List.mem_map.mp (names.subset hm)
    exact Table.isNone_lookup_iff.mp (List.mem_filter.mp hq).2 hl
  have known' : ∀ l ∈ (labelled (relabel ms as)).map Prod.fst, l ∈ ps.map Parameter.name := by
    intro l hl
    rcases List.mem_append.mp (keys.mem_iff.mp hl) with old | new
    · exact known l old
    · exact (List.filter_sublist.map _).subset (names.subset new)
  refine bind_eq_ok_iff.mpr ⟨known', once', ?_⟩
  rw [positions]
  refine fill_relabel distinct filled choice fun p _ e => ?_
  rw [Table.lookup_eq_some_iff once', Table.lookup_eq_some_iff once, labels.mem_iff,
    List.mem_append]

def mixedParameters : List Parameter :=
  [⟨"size", 0, .normal⟩, ⟨"text", 1, .normal⟩, ⟨"names", 2, .params⟩, ⟨"unit", 3, .optional⟩]

def mixedArguments : List WrittenArgument :=
  [⟨none, none, .literal ⟨0, 1⟩⟩, ⟨none, some "Order", .literal ⟨11, 12⟩⟩,
    ⟨some "text", none, .literal ⟨20, 21⟩⟩,
    ⟨none, none, .collection ⟨23, 26⟩ [.literal ⟨24, 25⟩]⟩]

def mixedSlots : List Slot :=
  [.written (.literal ⟨0, 1⟩), .written (.literal ⟨20, 21⟩),
    .written (.collection ⟨23, 26⟩ [.literal ⟨24, 25⟩]), .omitted]

theorem bind_relabel_mixed :
    bind mixedParameters mixedArguments = .ok mixedSlots ∧
    bind mixedParameters
      [⟨none, none, .literal ⟨0, 1⟩⟩, ⟨none, some "Order", .literal ⟨11, 12⟩⟩,
        ⟨some "text", none, .literal ⟨20, 21⟩⟩,
        ⟨some "names", none, .collection ⟨23, 26⟩ [.literal ⟨24, 25⟩]⟩] = .ok mixedSlots := by
  have distinct : (mixedParameters.map Parameter.name).Nodup := by decide
  have accepted : bind mixedParameters mixedArguments = .ok mixedSlots := rfl
  exact ⟨accepted, (bind_relabel distinct accepted fun i => i == 1).2.2⟩

end AttributeArguments.Binding
