import AttributeArguments.Pass.Combined
import AttributeArguments.Proofs.Table

/-!
# What binding does with the written arguments

One step of binding gives one parameter its slot. A labelled parameter takes its own expression
and leaves the positional ones alone; any other parameter takes a first part of them. Over a whole
list of parameters no positional expression is lost, repeated or moved, and with distinct
parameters the same holds of the labelled ones.
-/
namespace AttributeArguments

open scoped List

theorem Slot.expressions_ofRemaining (es : List Expression) :
    (Slot.ofRemaining es).expressions = es := by
  match es with
  | [] => rfl
  | [e] =>
    simp only [Slot.ofRemaining]
    split_ifs <;> rfl
  | _ :: _ :: _ => rfl

namespace Binding

theorem labelFault?_eq_none_iff (parameters : List Parameter) (seen labels : List String) :
    labelFault? parameters seen labels = none ↔
      (∀ l ∈ labels, l ∈ parameters.map Parameter.name) ∧ labels.Nodup ∧
        ∀ l ∈ labels, l ∉ seen := by
  induction labels generalizing seen with
  | nil => simp [labelFault?]
  | cons label labels ih =>
    simp only [labelFault?]
    split_ifs with hp hs
    · have hn : label ∉ parameters.map Parameter.name := by simpa using hp
      exact iff_of_false nofun fun h => hn (h.1 label List.mem_cons_self)
    · have hm : label ∈ seen := by simpa using hs
      exact iff_of_false nofun fun h => h.2.2 label List.mem_cons_self hm
    · have hn : label ∈ parameters.map Parameter.name := by simpa using hp
      have hm : label ∉ seen := by simpa using hs
      simp only [ih, List.mem_cons, List.nodup_cons]
      grind

/-- What one parameter takes from the remaining positional expressions, and what it leaves. -/
inductive Takes (labelled : List (String × Expression)) (p : Parameter) :
    List Expression → Slot → List Expression → Prop
  | label {e : Expression} {rest : List Expression} (found : labelled.lookup p.name = some e) :
      Takes labelled p rest (.written e) rest
  | remaining {rest : List Expression} (unlabelled : labelled.lookup p.name = none)
      (kind : p.kind = .params) : Takes labelled p rest (.ofRemaining rest) []
  | next {e : Expression} {rest : List Expression} (unlabelled : labelled.lookup p.name = none)
      (kind : p.kind ≠ .params) : Takes labelled p (e :: rest) (.written e) rest
  | nothing (unlabelled : labelled.lookup p.name = none) (kind : p.kind = .optional) :
      Takes labelled p [] .omitted []

theorem fill_nil_eq_ok {labelled : List (String × Expression)} {rest : List Expression}
    {slots : List Slot} (h : fill labelled [] rest = .ok slots) : rest = [] ∧ slots = [] := by
  cases rest with
  | nil => exact ⟨rfl, (Except.ok.inj h).symm⟩
  | cons e rest => simp [fill] at h

theorem fill_cons_eq_ok {labelled : List (String × Expression)} {p : Parameter}
    {ps : List Parameter} {rest : List Expression} {slots : List Slot}
    (h : fill labelled (p :: ps) rest = .ok slots) :
    ∃ slot left tail, Takes labelled p rest slot left ∧ fill labelled ps left = .ok tail ∧
      slots = slot :: tail := by
  have cons_of_map {slot : Slot} {x : Except Diagnostic (List Slot)}
      (hx : x.map (slot :: ·) = .ok slots) : ∃ tail, x = .ok tail ∧ slots = slot :: tail := by
    cases x with
    | error d => cases hx
    | ok tail => exact ⟨tail, rfl, (Except.ok.inj hx).symm⟩
  simp only [fill] at h
  split at h
  next e found =>
    obtain ⟨tail, ht, hs⟩ := cons_of_map h
    exact ⟨_, _, tail, .label found, ht, hs⟩
  next unlabelled =>
    split at h
    next kind =>
      obtain ⟨tail, ht, hs⟩ := cons_of_map h
      exact ⟨_, _, tail, .remaining unlabelled kind, ht, hs⟩
    next e rest kind =>
      obtain ⟨tail, ht, hs⟩ := cons_of_map h
      exact ⟨_, _, tail, .next unlabelled kind, ht, hs⟩
    next kind =>
      obtain ⟨tail, ht, hs⟩ := cons_of_map h
      exact ⟨_, _, tail, .nothing unlabelled kind, ht, hs⟩
    next => cases h

theorem Takes.fill_cons {labelled : List (String × Expression)} {p : Parameter}
    {rest left : List Expression} {slot : Slot} (h : Takes labelled p rest slot left)
    (ps : List Parameter) :
    fill labelled (p :: ps) rest = (fill labelled ps left).map (slot :: ·) := by
  cases h with
  | label found => simp only [fill, found]
  | remaining unlabelled kind => simp only [fill, unlabelled, kind]
  | next unlabelled kind => simp only [fill, unlabelled]
  | nothing unlabelled kind => simp only [fill, unlabelled, kind]

theorem Takes.of_label {labelled : List (String × Expression)} {p : Parameter}
    {rest left : List Expression} {slot : Slot} {e : Expression}
    (h : Takes labelled p rest slot left) (found : labelled.lookup p.name = some e) :
    slot = .written e ∧ left = rest := by
  cases h with
  | label other =>
    rw [found] at other
    exact ⟨congrArg Slot.written (Option.some.inj other).symm, rfl⟩
  | remaining unlabelled => rw [found] at unlabelled; cases unlabelled
  | next unlabelled => rw [found] at unlabelled; cases unlabelled
  | nothing unlabelled => rw [found] at unlabelled; cases unlabelled

theorem Takes.of_unlabelled {labelled : List (String × Expression)} {p : Parameter}
    {rest left : List Expression} {slot : Slot} (h : Takes labelled p rest slot left)
    (unlabelled : labelled.lookup p.name = none) : rest = slot.expressions ++ left := by
  cases h with
  | label found => rw [found] at unlabelled; cases unlabelled
  | remaining => rw [Slot.expressions_ofRemaining, List.append_nil]
  | next => rfl
  | nothing => rfl

section Fill

variable {labelled : List (String × Expression)} {ps : List Parameter} {rest : List Expression}
  {slots : List Slot}

theorem fill_length (h : fill labelled ps rest = .ok slots) : slots.length = ps.length := by
  induction ps generalizing rest slots with
  | nil => rw [(fill_nil_eq_ok h).2]; rfl
  | cons p ps ih =>
    obtain ⟨slot, left, tail, -, ht, rfl⟩ := fill_cons_eq_ok h
    simp only [List.length_cons, ih ht]

theorem fill_labelled (h : fill labelled ps rest = .ok slots) {x : Parameter × Slot}
    (hx : x ∈ ps.zip slots) {e : Expression} (found : labelled.lookup x.1.name = some e) :
    x.2 = .written e := by
  induction ps generalizing rest slots with
  | nil => simp at hx
  | cons p ps ih =>
    obtain ⟨slot, left, tail, taken, ht, rfl⟩ := fill_cons_eq_ok h
    rw [List.zip_cons_cons, List.mem_cons] at hx
    rcases hx with rfl | hx
    · exact (taken.of_label found).1
    · exact ih ht hx

theorem fill_unlabelled (h : fill labelled ps rest = .ok slots) :
    ((ps.zip slots).filter fun x => (labelled.lookup x.1.name).isNone).flatMap
      (fun x => x.2.expressions) = rest := by
  induction ps generalizing rest slots with
  | nil => simp [(fill_nil_eq_ok h).1]
  | cons p ps ih =>
    obtain ⟨slot, left, tail, taken, ht, rfl⟩ := fill_cons_eq_ok h
    rw [List.zip_cons_cons, List.filter_cons]
    cases found : labelled.lookup p.name with
    | some e =>
      rw [(taken.of_label found).2] at ht
      simpa [found] using ih ht
    | none =>
      rw [taken.of_unlabelled found]
      simpa [found] using ih ht

theorem fill_perm (h : fill labelled ps rest = .ok slots) :
    slots.flatMap Slot.expressions ~ ps.filterMap (labelled.lookup ·.name) ++ rest := by
  induction ps generalizing rest slots with
  | nil => simp [fill_nil_eq_ok h]
  | cons p ps ih =>
    obtain ⟨slot, left, tail, taken, ht, rfl⟩ := fill_cons_eq_ok h
    rw [List.flatMap_cons, List.filterMap_cons]
    cases found : labelled.lookup p.name with
    | some e =>
      obtain ⟨rfl, rfl⟩ := taken.of_label found
      exact (ih ht).cons e
    | none =>
      rw [taken.of_unlabelled found]
      calc slot.expressions ++ tail.flatMap Slot.expressions
        _ ~ slot.expressions ++ (ps.filterMap (labelled.lookup ·.name) ++ left) :=
          (ih ht).append_left _
        _ ~ ps.filterMap (labelled.lookup ·.name) ++ (slot.expressions ++ left) :=
          List.perm_append_comm_assoc _ _ _

end Fill

theorem bind_eq_ok_iff {ps : List Parameter} {as : List WrittenArgument} {slots : List Slot} :
    bind ps as = .ok slots ↔
      (∀ l ∈ (labelled as).map Prod.fst, l ∈ ps.map Parameter.name) ∧
      ((labelled as).map Prod.fst).Nodup ∧ fill (labelled as) ps (positional as) = .ok slots := by
  have h := labelFault?_eq_none_iff ps [] ((labelled as).map Prod.fst)
  unfold bind
  cases hf : labelFault? ps [] ((labelled as).map Prod.fst) with
  | some d =>
    rw [hf] at h
    simp only [reduceCtorEq, List.not_mem_nil, not_false_eq_true, implies_true, and_true,
      false_iff, not_and] at h
    exact iff_of_false nofun fun hb => h hb.1 hb.2.1
  | none =>
    rw [hf] at h
    obtain ⟨hk, hd, -⟩ := h.mp rfl
    exact ⟨fun hs => ⟨hk, hd, hs⟩, fun hs => hs.2.2⟩

section Bind

variable {ps : List Parameter} {as : List WrittenArgument} {slots : List Slot}

theorem bind_length (h : bind ps as = .ok slots) : slots.length = ps.length :=
  fill_length (bind_eq_ok_iff.mp h).2.2

theorem bind_perm (distinct : (ps.map Parameter.name).Nodup) (h : bind ps as = .ok slots) :
    slots.flatMap Slot.expressions ~ (labelled as).map Prod.snd ++ positional as := by
  obtain ⟨known, once, hf⟩ := bind_eq_ok_iff.mp h
  have hl : ps.filterMap ((labelled as).lookup ·.name) ~ (labelled as).map Prod.snd := by
    have hp := Table.filterMap_lookup_perm once distinct known
    rwa [List.filterMap_map] at hp
  exact (fill_perm hf).trans (hl.append_right _)

theorem bind_label (h : bind ps as = .ok slots) {l : String} {e : Expression}
    (labels : (l, e) ∈ labelled as) :
    ∃ p ∈ ps, p.name = l ∧ ∀ slot, (p, slot) ∈ ps.zip slots ↔ slot = .written e := by
  obtain ⟨known, once, hf⟩ := bind_eq_ok_iff.mp h
  obtain ⟨p, hp, rfl⟩ := List.mem_map.mp (known l (List.mem_map.mpr ⟨_, labels, rfl⟩))
  have found := (Table.lookup_eq_some_iff once p.name e).mpr labels
  have only {slot : Slot} (hs : (p, slot) ∈ ps.zip slots) : slot = .written e :=
    fill_labelled hf hs found
  obtain ⟨slot, hs⟩ : ∃ slot, (p, slot) ∈ ps.zip slots := by
    obtain ⟨i, hi, rfl⟩ := List.mem_iff_getElem.mp hp
    have hi' : i < slots.length := (bind_length h).symm ▸ hi
    have hz : i < (ps.zip slots).length := by rw [List.length_zip]; omega
    exact ⟨slots[i], List.mem_iff_getElem.mpr ⟨i, hz, List.getElem_zip⟩⟩
  exact ⟨p, hp, rfl, fun other => ⟨only, fun he => he ▸ only hs ▸ hs⟩⟩

theorem bind_unlabelled (h : bind ps as = .ok slots) :
    ((ps.zip slots).filter fun x => x.1.name ∉ (labelled as).map Prod.fst).flatMap
      (fun x => x.2.expressions) = positional as := by
  have hf := fill_unlabelled (bind_eq_ok_iff.mp h).2.2
  simpa only [Bool.decide_eq_true, ← Table.isNone_lookup_iff] using hf

end Bind

theorem constructorArguments_perm (as : List WrittenArgument) :
    (as.filter WrittenArgument.isConstructorArgument).map WrittenArgument.expression ~
      (labelled as).map Prod.snd ++ positional as := by
  induction as with
  | nil => rfl
  | cons a as ih =>
    obtain ⟨label, target, e⟩ := a
    cases target with
    | some t => exact ih
    | none =>
      cases label with
      | some l => exact ih.cons e
      | none => exact (ih.cons e).trans List.perm_middle.symm

end Binding

end AttributeArguments
