import AttributeArguments.Comparison
import Mathlib.Data.List.Basic
import Mathlib.Data.List.Forall2

/-!
# Lower-case texts

The lower-case form of a character consists of characters that are lower-cased already. So a text
that stays the same when its characters are lower-cased one by one has no capital in it, and a text
that was lower-cased, in either way, does not change any more. The two ways differ only at the
capital sigmas that become final.
-/
namespace AttributeArguments.Text

/-- A set of numbers is kept as the number with those bits; this is the union of some sets. -/
def union {α : Type} (f : α → Nat) (xs : List α) : Nat := xs.foldr (fun x m => m ||| f x) 0

theorem testBit_union {α : Type} (f : α → Nat) (xs : List α) (n : Nat) :
    (union f xs).testBit n = true ↔ ∃ x ∈ xs, (f x).testBit n = true := by
  induction xs with
  | nil => simp [union]
  | cons x xs ih =>
    change (union f xs ||| f x).testBit n = true ↔ _
    rw [Nat.testBit_or, Bool.or_eq_true, ih, List.exists_mem_cons_iff, or_comm]

theorem testBit_singleton (n : Nat) : (1 <<< n).testBit n = true := by
  simp

namespace CaseRun

def numbers (r : CaseRun) : List Nat :=
  (List.range ((r.last - r.first) / r.stride + 1)).map fun k => r.first + r.stride * k

def capitals (r : CaseRun) : Nat := union (1 <<< ·) r.numbers

def smalls (r : CaseRun) : Nat := union (fun n => 1 <<< r.image n) r.numbers

theorem capitals_disjoint_smalls :
    (union capitals lowerCaseRuns ||| 1 <<< 0x130) &&& union smalls lowerCaseRuns = 0 := by
  decide +kernel

theorem isValidChar_lower : ∀ r ∈ lowerCaseRuns, r.lower + (r.last - r.first) < 0xD800 ∨
    0xDFFF < r.lower ∧ r.lower + (r.last - r.first) < 0x110000 := by decide +kernel

variable {r : CaseRun} {n : Nat}

theorem covers_iff : r.covers n = true ↔
    r.first ≤ n ∧ n ≤ r.last ∧ (n - r.first) % r.stride = 0 := by
  simp [covers, and_assoc]

theorem mem_numbers (covered : r.covers n = true) : n ∈ r.numbers := by
  obtain ⟨first, last, step⟩ := covers_iff.mp covered
  have whole : r.stride * ((n - r.first) / r.stride) = n - r.first :=
    Nat.mul_div_cancel' (Nat.dvd_of_mod_eq_zero step)
  have bound : (n - r.first) / r.stride ≤ (r.last - r.first) / r.stride :=
    Nat.div_le_div_right (Nat.sub_le_sub_right last r.first)
  refine List.mem_map.mpr ⟨(n - r.first) / r.stride, ?_, ?_⟩
  · exact List.mem_range.mpr (Nat.lt_succ_of_le bound)
  · omega

theorem testBit_capitals (mem : r ∈ lowerCaseRuns) (covered : r.covers n = true) :
    (union capitals lowerCaseRuns).testBit n = true := by
  have one : r.capitals.testBit n = true :=
    (testBit_union _ _ n).mpr ⟨n, mem_numbers covered, testBit_singleton n⟩
  exact (testBit_union _ _ n).mpr ⟨r, mem, one⟩

theorem testBit_smalls (mem : r ∈ lowerCaseRuns) (covered : r.covers n = true) :
    (union smalls lowerCaseRuns).testBit (r.image n) = true := by
  have one : r.smalls.testBit (r.image n) = true :=
    (testBit_union _ _ _).mpr ⟨n, mem_numbers covered, testBit_singleton _⟩
  exact (testBit_union _ _ _).mpr ⟨r, mem, one⟩

theorem not_capital_image (mem : r ∈ lowerCaseRuns) (covered : r.covers n = true) :
    (union capitals lowerCaseRuns ||| 1 <<< 0x130).testBit (r.image n) = false := by
  have none := congrArg (Nat.testBit · (r.image n)) capitals_disjoint_smalls
  simp only [Nat.testBit_and, testBit_smalls mem covered, Bool.and_true, Nat.zero_testBit] at none
  exact none

theorem isValidChar_image (mem : r ∈ lowerCaseRuns) (covered : r.covers n = true) :
    (r.image n).isValidChar := by
  obtain ⟨first, last, -⟩ := covers_iff.mp covered
  have valid := isValidChar_lower r mem
  unfold image Nat.isValidChar
  omega

end CaseRun

def IsLower (c : Char) : Prop := lowerChar c = [c]

theorem isLower_image {r : CaseRun} (mem : r ∈ lowerCaseRuns) {n : Nat}
    (covered : r.covers n = true) : IsLower (Char.ofNat (r.image n)) := by
  have number : (Char.ofNat (r.image n)).toNat = r.image n := by
    rw [Char.ofNat, dif_pos (CaseRun.isValidChar_image mem covered)]
    rfl
  have small := CaseRun.not_capital_image mem covered
  rw [Nat.testBit_or, Bool.or_eq_false_iff] at small
  have undotted : Char.ofNat (r.image n) ≠ '\u0130' := by
    intro dotted
    have same : r.image n = 0x130 := number.symm.trans (congrArg Char.toNat dotted)
    rw [same, testBit_singleton] at small
    exact Bool.false_ne_true small.2.symm
  have uncovered : lowerCaseRuns.find? (·.covers (r.image n)) = none := by
    rw [List.find?_eq_none]
    intro s hs covers
    rw [CaseRun.testBit_capitals hs covers] at small
    exact Bool.false_ne_true small.1.symm
  rw [IsLower, lowerChar, if_neg undotted, number, uncovered]

theorem isLower_of_mem {c d : Char} (h : d ∈ lowerChar c) : IsLower d := by
  by_cases dotted : c = '\u0130'
  · rw [lowerChar, if_pos dotted] at h
    obtain rfl | h := List.mem_cons.mp h
    · rfl
    · obtain rfl := List.mem_singleton.mp h
      rfl
  cases found : lowerCaseRuns.find? (·.covers c.toNat) with
  | none =>
    have same : lowerChar c = [c] := by rw [lowerChar, if_neg dotted, found]
    rw [same, List.mem_singleton] at h
    rw [h]
    exact same
  | some r =>
    rw [lowerChar, if_neg dotted, found, List.mem_singleton] at h
    have covered := List.find?_some found
    rw [h]
    exact isLower_image (List.mem_of_find?_eq_some found) covered

theorem lowerChar_capitalSigma : lowerChar capitalSigma = [smallSigma] := rfl

theorem not_isLower_capitalSigma : ¬ IsLower capitalSigma := by
  rw [IsLower, lowerChar_capitalSigma]
  decide

theorem isLower_lowerSigma (before after : List Char) : IsLower (lowerSigma before after) := by
  rw [lowerSigma]
  split_ifs <;> rfl

theorem lowerEach_eq_self_iff (cs : List Char) : lowerEach cs = cs ↔ ∀ c ∈ cs, IsLower c := by
  constructor
  · intro same c hc
    rw [← same, lowerEach, List.mem_flatMap] at hc
    obtain ⟨b, -, hc⟩ := hc
    exact isLower_of_mem hc
  · intro lower
    have each : lowerEach cs = cs.flatMap ([·]) := List.flatMap_congr lower
    rw [each, List.flatMap_singleton']

theorem isLower_of_mem_lowerAfter {before cs : List Char} {d : Char}
    (h : d ∈ lowerAfter before cs) : IsLower d := by
  induction cs generalizing before with
  | nil => exact (List.not_mem_nil h).elim
  | cons c cs ih =>
    rw [lowerAfter, List.mem_append] at h
    obtain h | h := h
    · split_ifs at h
      · rw [List.mem_singleton.mp h]
        exact isLower_lowerSigma before cs
      · exact isLower_of_mem h
    · exact ih h

theorem lowerAfter_eq_lowerEach {cs : List Char} (plain : capitalSigma ∉ cs)
    (before : List Char) : lowerAfter before cs = lowerEach cs := by
  induction cs generalizing before with
  | nil => rfl
  | cons c cs ih =>
    obtain ⟨here, later⟩ := not_or.mp (mt List.mem_cons.mpr plain)
    have each : lowerEach (c :: cs) = lowerChar c ++ lowerEach cs := List.flatMap_cons
    rw [lowerAfter, if_neg (Ne.symm here), ih later, each]

theorem lower_eq_self {cs : List Char} (same : lowerEach cs = cs) : lower cs = cs := by
  have plain : capitalSigma ∉ cs := fun capital =>
    not_isLower_capitalSigma ((lowerEach_eq_self_iff cs).mp same _ capital)
  rw [lower, lowerAfter_eq_lowerEach plain, same]

theorem lowerEach_lower (cs : List Char) : lowerEach (lower cs) = lower cs :=
  (lowerEach_eq_self_iff _).mpr fun _ => isLower_of_mem_lowerAfter

/-- For each character of the lower-case form, whether it is the final form of a capital sigma;
`before` is read backwards from the text. -/
def finalsAfter (before : List Char) : List Char → List Bool
  | [] => []
  | c :: after =>
    (if c = capitalSigma then [startsCased before && !startsCased after]
      else (lowerChar c).map fun _ => false) ++ finalsAfter (c :: before) after

def finals (cs : List Char) : List Bool := finalsAfter [] cs

def mark (c : Char) (final : Bool) : Char := if final then finalSigma else c

theorem zipWith_mark_false (cs : List Char) :
    List.zipWith mark cs (cs.map fun _ => false) = cs := by
  rw [List.zipWith_map_right, List.zipWith_self]
  exact List.map_id cs

theorem lowerAfter_eq_mark (before cs : List Char) :
    lowerAfter before cs = List.zipWith mark (lowerEach cs) (finalsAfter before cs) := by
  induction cs generalizing before with
  | nil => rfl
  | cons c cs ih =>
    have each : lowerEach (c :: cs) = lowerChar c ++ lowerEach cs := List.flatMap_cons
    rw [lowerAfter, finalsAfter, each, ih]
    split_ifs with capital
    · rw [capital, lowerChar_capitalSigma]
      rfl
    · rw [List.zipWith_append (by rw [List.length_map]), zipWith_mark_false]

theorem finalsAfter_marks (before cs : List Char) :
    List.Forall₂ (fun c final => final = true → c = smallSigma) (lowerEach cs)
      (finalsAfter before cs) := by
  induction cs generalizing before with
  | nil => exact .nil
  | cons c cs ih =>
    have each : lowerEach (c :: cs) = lowerChar c ++ lowerEach cs := List.flatMap_cons
    rw [finalsAfter, each]
    refine List.rel_append ?_ (ih _)
    split_ifs with capital
    · rw [capital, lowerChar_capitalSigma]
      exact .cons (fun _ => rfl) .nil
    · rw [List.forall₂_map_right_iff, List.forall₂_same]
      exact fun _ _ final => (Bool.false_ne_true final).elim

theorem mark_inj {c : Char} {f g : Bool} (hf : f = true → c = smallSigma)
    (hg : g = true → c = smallSigma) : mark c f = mark c g ↔ f = g := by
  have differ : mark smallSigma false ≠ mark smallSigma true := by decide
  cases f with
  | false =>
    cases g with
    | false => exact iff_of_true rfl rfl
    | true =>
      rw [hg rfl]
      exact iff_of_false differ Bool.false_ne_true
  | true =>
    rw [hf rfl]
    cases g with
    | false => exact iff_of_false differ.symm Bool.false_ne_true.symm
    | true => exact iff_of_true rfl rfl

theorem zipWith_mark_inj {cs : List Char} {fs gs : List Bool}
    (hf : List.Forall₂ (fun c final => final = true → c = smallSigma) cs fs)
    (hg : List.Forall₂ (fun c final => final = true → c = smallSigma) cs gs) :
    List.zipWith mark cs fs = List.zipWith mark cs gs ↔ fs = gs := by
  induction hf generalizing gs with
  | nil =>
    cases hg
    exact iff_of_true rfl rfl
  | @cons c f cs fs small rest ih =>
    cases hg with
    | @cons _ g _ gs small' rest' =>
      rw [List.zipWith_cons_cons, List.zipWith_cons_cons, List.cons.injEq, List.cons.injEq,
        mark_inj small small', ih rest']

theorem lower_eq_lower_iff {cs ds : List Char} (same : lowerEach cs = lowerEach ds) :
    lower cs = lower ds ↔ finals cs = finals ds := by
  have marks := finalsAfter_marks [] ds
  rw [← same] at marks
  rw [lower, lower, lowerAfter_eq_mark, lowerAfter_eq_mark, ← same]
  exact zipWith_mark_inj (finalsAfter_marks [] cs) marks

end AttributeArguments.Text
