import AttributeArguments.Recorder.Bound

/-!
# Recording in turn

What becomes of a list of arguments that are handed to one recorder in turn. Handing over stops
at the first refusal, and the refused argument is the last one that the recorder has seen. The
record is at each moment the fold of the arguments seen so far.
-/
namespace AttributeArguments.Recorder

variable {σ α : Type}

def after (r : Recorder σ α) (s : σ) (as : List α) : σ := as.foldl (fun s a => (r a s).record) s

def events (r : Recorder σ α) : σ → List α → List Event
  | _, [] => []
  | s, a :: as => (r a s).events ++ r.events (r a s).record as

def AcceptsAll (r : Recorder σ α) : σ → List α → Prop
  | _, [] => True
  | s, a :: as => (r a s).accepted = true ∧ r.AcceptsAll (r a s).record as

/-- The arguments that the recorder sees of a list, and the one that it refuses, if any. -/
inductive Sees (r : Recorder σ α) (s : σ) (as : List α) : List α → Option α → Prop
  | all (accepted : r.AcceptsAll s as) : Sees r s as as none
  | upTo {before rest : List α} {a : α} (split : as = before ++ a :: rest)
      (accepted : r.AcceptsAll s before) (refused : (r a (r.after s before)).accepted = false) :
      Sees r s as (before ++ [a]) (some a)

theorem after_append (as bs : List α) :
    (assigned fun as a => as ++ [a]).after as bs = as ++ bs ∧
    (assigned fun as a => as ++ [a]).events as bs = [] := by
  induction bs generalizing as with
  | nil => exact ⟨(List.append_nil as).symm, rfl⟩
  | cons b bs ih =>
    have h := ih (as ++ [b])
    rwa [List.append_assoc] at h

theorem acceptsAll_append (r : Recorder σ α) (s : σ) (as bs : List α) :
    r.AcceptsAll s (as ++ bs) ↔ r.AcceptsAll s as ∧ r.AcceptsAll (r.after s as) bs := by
  induction as generalizing s with
  | nil => simp [AcceptsAll, after]
  | cons a as ih =>
    have h := ih (r a s).record
    simp only [List.cons_append, AcceptsAll, h, and_assoc]
    rfl

theorem acceptsAll_of_forall {r : Recorder σ α} (h : ∀ a s, (r a s).accepted = true) (s : σ)
    (as : List α) : r.AcceptsAll s as := by
  induction as generalizing s with
  | nil => trivial
  | cons a as ih => exact ⟨h a s, ih _⟩

theorem Sees.accept {r : Recorder σ α} {s : σ} {a : α} {as seen : List α} {refused : Option α}
    (h : (r a s).accepted = true) (hs : r.Sees (r a s).record as seen refused) :
    r.Sees s (a :: as) (a :: seen) refused := by
  cases hs with
  | all accepted => exact .all ⟨h, accepted⟩
  | @upTo before rest b split accepted refused =>
    have hs : a :: as = (a :: before) ++ b :: rest := congrArg (a :: ·) split
    exact .upTo hs ⟨h, accepted⟩ refused

theorem Sees.refuse {r : Recorder σ α} {s : σ} {a : α} (h : (r a s).accepted = false)
    (as : List α) : r.Sees s (a :: as) [a] (some a) :=
  .upTo (List.nil_append _).symm trivial h

theorem Sees.initial {r : Recorder σ α} {s : σ} {as seen : List α} {refused : Option α}
    (h : r.Sees s as seen refused) : seen <+: as := by
  cases h with
  | all => exact List.prefix_rfl
  | @upTo before rest a split =>
    exact ⟨rest, by rw [split, List.append_assoc]; rfl⟩

theorem Sees.refused_eq_none_iff {r : Recorder σ α} {s : σ} {as seen : List α}
    {refused : Option α} (h : r.Sees s as seen refused) :
    refused = none ↔ r.AcceptsAll s as := by
  cases h with
  | all accepted => exact ⟨fun _ => accepted, fun _ => rfl⟩
  | @upTo before rest a split accepted refused =>
    refine ⟨fun h => (Option.some_ne_none _ h).elim, fun h => ?_⟩
    rw [split, acceptsAll_append] at h
    have ha := h.2.1
    rw [refused] at ha
    exact (Bool.false_ne_true ha).elim

theorem Sees.eq_of_acceptsAll {r : Recorder σ α} {s : σ} {as seen : List α}
    {refused : Option α} (h : r.Sees s as seen refused) (ha : r.AcceptsAll s as) :
    seen = as ∧ refused = none := by
  have hn := h.refused_eq_none_iff.mpr ha
  subst hn
  cases h
  exact ⟨rfl, rfl⟩

end AttributeArguments.Recorder
