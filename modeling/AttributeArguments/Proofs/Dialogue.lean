import AttributeArguments.Pass
import AttributeArguments.Proofs.Recording
import Mathlib.Data.List.Basic

/-!
# The dialogue of a pass

The calls that a pass makes to a recorder. The record that a run leaves is the fold of exactly
these calls. A pass that was read from an application makes no call if the reading failed, and
otherwise its calls in order, up to and including the first refused one.
-/
namespace AttributeArguments

namespace Call

variable {F : Family}

def type? : Call F → Option (TypeParameter × F.type)
  | type p a => some (p, a)
  | _ => none

def constructor? : Call F → Option (Parameter × F.constructor)
  | constructor p a => some (p, a)
  | _ => none

def named? : Call F → Option (String × F.named)
  | named n a => some (n, a)
  | _ => none

end Call

namespace Pass

variable {F : Family} {σ : Type}

def calls (r : Recorder σ (Call F)) : Pass F → σ → List (Call F)
  | finish _, _ => []
  | notify _ next, s => next.calls r s
  | record c next, s => c :: (next (r c s).accepted).calls r (r c s).record

def transcript (p : Pass F) : Run (List (Call F)) := p.run (.assigned fun cs c => cs ++ [c]) []

theorem record_run (r : Recorder σ (Call F)) (p : Pass F) (s : σ) :
    (p.run r s).record = r.after s (p.calls r s) := by
  induction p generalizing s with
  | finish => rfl
  | notify n next ih => exact ih s
  | record c next ih => exact ih _ _

theorem run_assigned_foldl (f : σ → Call F → σ) (s : σ) (p : Pass F) (cs : List (Call F)) :
    p.run (.assigned f) (cs.foldl f s) =
      ⟨(p.run (.assigned fun cs c => cs ++ [c]) cs).succeeded,
        (p.run (.assigned fun cs c => cs ++ [c]) cs).record.foldl f s,
        (p.run (.assigned fun cs c => cs ++ [c]) cs).notices⟩ := by
  induction p generalizing cs with
  | finish => rfl
  | notify n next ih => simp only [run, Run.after, ih]
  | record c next ih =>
    have h := ih true (cs ++ [c])
    rw [List.foldl_append] at h
    simp only [List.foldl_cons, List.foldl_nil] at h
    simp only [run, Recorder.assigned, Run.after] at h ⊢
    rw [h]

theorem run_assigned (f : σ → Call F → σ) (s : σ) (p : Pass F) :
    p.run (.assigned f) s =
      ⟨p.transcript.succeeded, p.transcript.record.foldl f s, p.transcript.notices⟩ :=
  run_assigned_foldl f s p []

theorem run_notifyAll (r : Recorder σ (Call F)) (ns : List Notice) (p : Pass F) (s : σ) :
    (notifyAll ns p).run r s = (p.run r s).after ns := by
  induction ns with
  | nil => rfl
  | cons n ns ih =>
    change ((notifyAll ns p).run r s).after [n] = _
    rw [ih]
    rfl

theorem run_notifyAll_fail (r : Recorder σ (Call F)) (ns : List Notice) (d : Diagnostic) (s : σ) :
    (notifyAll ns (fail d)).run r s = ⟨false, s, ns ++ [.diagnostic d]⟩ :=
  run_notifyAll r ns (fail d) s

theorem calls_notifyAll (r : Recorder σ (Call F)) (ns : List Notice) (p : Pass F) (s : σ) :
    (notifyAll ns p).calls r s = p.calls r s := by
  induction ns with
  | nil => rfl
  | cons n ns ih => exact ih

/-- Calls made in turn, and then notices and success: the recorder sees the calls up to the first
refusal, and a refusal is the one thing that makes the pass fail. -/
theorem run_recordOrFail (r : Recorder σ (Call F)) (ns : List Notice) (cs : List (Call F))
    (s : σ) :
    let p := recordOrFail (notifyAll ns (finish true)) cs
    ∃ refused, r.Sees s cs (p.calls r s) refused ∧
      p.run r s = ⟨refused.isNone, r.after s (p.calls r s),
        (r.events s (p.calls r s)).map .event ++
          match refused with
          | none => ns
          | some c => [.diagnostic c.rejection]⟩ := by
  induction cs generalizing s with
  | nil =>
    refine ⟨none, ?_, ?_⟩
    · simp only [recordOrFail, recordAll, calls_notifyAll, calls]
      exact .all trivial
    · simp only [recordOrFail, recordAll, calls_notifyAll, calls, run_notifyAll, run, Run.after,
        Recorder.after, Recorder.events, List.map_nil, List.nil_append, List.append_nil,
        List.foldl_nil, Option.isNone_none]
  | cons c cs ih =>
    cases h : (r c s).accepted with
    | true =>
      obtain ⟨refused, hs, hr⟩ := ih (r c s).record
      refine ⟨refused, ?_, ?_⟩
      · simp only [recordOrFail, recordAll, calls, h, ↓reduceIte]
        exact hs.accept h
      · simp only [recordOrFail, recordAll, run, calls, h, ↓reduceIte, Run.after,
          Recorder.events, List.map_append, List.append_assoc]
        simp only [recordOrFail] at hr
        rw [hr]
        rfl
    | false =>
      refine ⟨some c, ?_, ?_⟩
      · simp only [recordOrFail, recordAll, calls, h, Bool.false_eq_true, ↓reduceIte, fail]
        exact .refuse h cs
      · simp only [recordOrFail, recordAll, run, calls, fail, h, Bool.false_eq_true, ↓reduceIte,
          Run.after, Recorder.events, List.append_nil, Option.isNone_some]
        rfl

theorem run_recordOrFail_finish (r : Recorder σ (Call F)) (cs : List (Call F)) (s : σ) :
    let p := recordOrFail (finish true) cs
    ∃ refused, r.Sees s cs (p.calls r s) refused ∧
      p.run r s = ⟨refused.isNone, r.after s (p.calls r s),
        (r.events s (p.calls r s)).map .event ++
          (refused.map fun c => .diagnostic c.rejection).toList⟩ := by
  obtain ⟨refused, hs, hr⟩ := run_recordOrFail r [] cs s
  rw [notifyAll, List.foldr_nil] at hs hr
  refine ⟨refused, hs, ?_⟩
  rw [hr]
  cases refused <;> rfl

end Pass

namespace Arguments

variable {F : Family}

def ofCalls (cs : List (Call F)) : Arguments F :=
  ⟨cs.filterMap Call.type?, cs.filterMap Call.constructor?, cs.filterMap Call.named?⟩

theorem filterMap_calls (a : Arguments F) :
    a.calls.filterMap Call.type? = a.types ∧
    a.calls.filterMap Call.constructor? = a.constructors ∧
    a.calls.filterMap Call.named? = a.named := by
  simp [calls, List.filterMap_map, Function.comp_def, List.filterMap_none, Call.type?,
    Call.constructor?, Call.named?]

theorem foldl_add (a : Arguments F) (cs : List (Call F)) :
    cs.foldl add a =
      ⟨a.types ++ (ofCalls cs).types, a.constructors ++ (ofCalls cs).constructors,
        a.named ++ (ofCalls cs).named⟩ := by
  induction cs generalizing a with
  | nil => simp [ofCalls]
  | cons c cs ih =>
    rw [List.foldl_cons, ih]
    cases c <;>
      simp [add, ofCalls, List.filterMap_cons, Call.type?, Call.constructor?, Call.named?]

theorem run_gather (p : Pass F) :
    p.run gather {} =
      ⟨p.transcript.succeeded, ofCalls p.transcript.record, p.transcript.notices⟩ := by
  have h := p.run_assigned add {}
  simp only [foldl_add, List.nil_append] at h
  exact h

end Arguments

namespace Reading

variable {F : Family} {σ : Type}

theorem pass_error (kind : PassKind) (d : Diagnostic) (r : Recorder σ (Call F)) (s : σ) :
    (pass (F := F) kind (.error d)).calls r s = [] ∧
    (pass (F := F) kind (.error d)).run r s = ⟨false, s, [.diagnostic d]⟩ := ⟨rfl, rfl⟩

theorem pass_ok (kind : PassKind) (a : Reading F) (r : Recorder σ (Call F)) (s : σ) :
    ∃ refused, r.Sees s a.arguments.calls ((pass kind (.ok a)).calls r s) refused ∧
      (pass kind (.ok a)).run r s = ⟨refused.isNone, r.after s ((pass kind (.ok a)).calls r s),
        (r.events s ((pass kind (.ok a)).calls r s)).map .event ++
          match refused with
          | none => [.event (a.completion kind)]
          | some c => [.diagnostic c.rejection]⟩ :=
  Pass.run_recordOrFail r [.event (a.completion kind)] a.arguments.calls s

theorem succeeded_pass_iff (kind : PassKind) (x : Except Diagnostic (Reading F))
    (r : Recorder σ (Call F)) (s : σ) :
    ((pass kind x).run r s).succeeded = true ↔
      ∃ a, x = .ok a ∧ r.AcceptsAll s a.arguments.calls := by
  cases x with
  | error d => simp [pass_error]
  | ok a =>
    obtain ⟨refused, hs, hr⟩ := pass_ok kind a r s
    rw [hr]
    simp only [Option.isNone_iff_eq_none, hs.refused_eq_none_iff, Except.ok.injEq, exists_eq_left']

theorem pass_of_acceptsAll {a : Reading F} {r : Recorder σ (Call F)} {s : σ}
    (h : r.AcceptsAll s a.arguments.calls) (kind : PassKind) :
    (pass kind (.ok a)).calls r s = a.arguments.calls ∧
    (pass kind (.ok a)).run r s = ⟨true, r.after s a.arguments.calls,
      (r.events s a.arguments.calls).map .event ++ [.event (a.completion kind)]⟩ := by
  obtain ⟨refused, hs, hr⟩ := pass_ok kind a r s
  obtain ⟨hc, hn⟩ := hs.eq_of_acceptsAll h
  subst hn
  rw [hc] at hr
  exact ⟨hc, hr⟩

theorem transcript_pass_error (kind : PassKind) (d : Diagnostic) :
    (pass (F := F) kind (.error d)).transcript = ⟨false, [], [.diagnostic d]⟩ := rfl

theorem transcript_pass_ok (kind : PassKind) (a : Reading F) :
    (pass kind (.ok a)).transcript =
      ⟨true, a.arguments.calls, [.event (a.completion kind)]⟩ := by
  have accepted := Recorder.acceptsAll_of_forall (r := .assigned fun cs c => cs ++ [c])
    (fun _ _ => rfl) [] a.arguments.calls
  have h := (pass_of_acceptsAll accepted kind).2
  rwa [(Recorder.after_append _ _).1, (Recorder.after_append _ _).2] at h

end Reading

end AttributeArguments
