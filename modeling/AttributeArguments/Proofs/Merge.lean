import AttributeArguments.Pass.Combined
import AttributeArguments.Proofs.Dialogue

/-!
# Merging two passes

The combined pass for arbitrary passes, told by their transcripts alone. Both passes finish before
the recorder is called, so that a failure of either one, or different numbers of calls in some
category, leaves the record as it was. After that the calls are paired by position, category by
category, and made until one is refused.
-/
namespace AttributeArguments

namespace Call

variable {F G : Family}

def count (k : Category) (cs : List (Call F)) : Nat := (cs.map category).count k

def pairs (cs : List (Call F)) (ds : List (Call G)) : List (Call (F.pair G)) :=
  List.zipWith (fun x y => .type x.1 (x.2, y.2)) (cs.filterMap type?) (ds.filterMap type?) ++
  List.zipWith (fun x y => .constructor x.1 (x.2, y.2)) (cs.filterMap constructor?)
    (ds.filterMap constructor?) ++
  List.zipWith (fun x y => .named x.1 (x.2, y.2)) (cs.filterMap named?) (ds.filterMap named?)

theorem count_eq_length (cs : List (Call F)) :
    count .type cs = (cs.filterMap type?).length ∧
    count .constructor cs = (cs.filterMap constructor?).length ∧
    count .named cs = (cs.filterMap named?).length := by
  induction cs with
  | nil => exact ⟨rfl, rfl, rfl⟩
  | cons c cs ih =>
    obtain ⟨ht, hc, hn⟩ := ih
    unfold count at ht hc hn ⊢
    cases c <;> simp [type?, constructor?, named?, category, ht, hc, hn, List.filterMap_cons]

end Call

namespace Combined

variable {σ : Type}

end Combined

end AttributeArguments
