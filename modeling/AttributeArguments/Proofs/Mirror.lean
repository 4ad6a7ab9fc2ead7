import AttributeArguments.Proofs.Alignment
import AttributeArguments.Proofs.Translation
import AttributeArguments.Recorder.Paired

/-!
# Mirrored recorders

A recorder of whole arguments is mirrored by two recorders of their halves when it accepts what
both of them accept, and the three records stay related as long as it does. Handed a list in
turn, the whole is accepted when both halves are, whichever is handed over first. Snapshots of
mirrored recorders mirror each other call by call.
-/
namespace AttributeArguments

variable {σ τ υ : Type}

/-- Accepting a whole argument is accepting both of its halves, with related records before and
after. -/
def Recorder.Mirrors {α β γ : Type} (R : σ → τ → υ → Prop) (f : γ → α) (g : γ → β)
    (whole : Recorder σ γ) (first : Recorder τ α) (second : Recorder υ β) : Prop :=
  ∀ c s t u, R s t u →
    (whole c s).accepted = ((first (f c) t).accepted && (second (g c) u).accepted) ∧
    ((whole c s).accepted = true →
      R (whole c s).record (first (f c) t).record (second (g c) u).record)

namespace Recorder.Mirrors

variable {α β γ : Type} {R : σ → τ → υ → Prop} {f : γ → α} {g : γ → β} {whole : Recorder σ γ}
  {first : Recorder τ α} {second : Recorder υ β} {s : σ} {t : τ} {u : υ}

theorem skip (f : γ → α) (g : γ → β) : Mirrors R f g Recorder.skip Recorder.skip Recorder.skip :=
  fun _ _ _ _ h => ⟨rfl, fun _ => h⟩

theorem acceptsAll_iff (m : Mirrors R f g whole first second) (h : R s t u) (cs : List γ) :
    whole.AcceptsAll s cs ↔
      first.AcceptsAll t (cs.map f) ∧ second.AcceptsAll u (cs.map g) := by
  induction cs generalizing s t u with
  | nil => exact iff_of_true trivial ⟨trivial, trivial⟩
  | cons c cs ih =>
    obtain ⟨accepted, related⟩ := m c s t u h
    simp only [List.map_cons, AcceptsAll]
    cases hw : (whole c s).accepted with
    | true =>
      rw [hw] at accepted
      obtain ⟨hf, hg⟩ := (Bool.and_eq_true _ _ ▸ accepted.symm :)
      simp only [hf, hg, true_and, ih (related hw)]
    | false =>
      rw [hw] at accepted
      refine iff_of_false (fun ha => Bool.false_ne_true ha.1) fun ha => ?_
      rw [ha.1.1, ha.2.1] at accepted
      exact Bool.false_ne_true accepted

theorem after (m : Mirrors R f g whole first second) (h : R s t u) {cs : List γ}
    (accepted : whole.AcceptsAll s cs) :
    R (whole.after s cs) (first.after t (cs.map f)) (second.after u (cs.map g)) := by
  induction cs generalizing s t u with
  | nil => exact h
  | cons c cs ih => exact ih ((m c s t u h).2 accepted.1) accepted.2

end Recorder.Mirrors

structure Mirror (R : σ → τ → υ → Prop) (α β : Type) where
  whole : Recorder σ (α × β)
  first : Recorder τ α
  second : Recorder υ β
  mirrors : Recorder.Mirrors R Prod.fst Prod.snd whole first second

def Mirror.halves {R : σ → τ → υ → Prop} {α β : Type} (m : Mirror R α β) :
    Recorder τ α × Recorder υ β :=
  ⟨m.first, m.second⟩

namespace Family

variable (R : σ → τ → υ → Prop)

abbrev mirrored : Family :=
  ⟨Mirror R bound.type written.type, Mirror R bound.constructor written.constructor,
    Mirror R bound.named written.named⟩

def Hom.wholes : (mirrored R).Hom (combined σ) := ⟨Mirror.whole, Mirror.whole, Mirror.whole⟩

def Hom.halves : (mirrored R).Hom (split τ υ) := ⟨Mirror.halves, Mirror.halves, Mirror.halves⟩

end Family

namespace Call

variable {F G : Family}

def first : Call (F.pair G) → Call F
  | type p a => type p a.1
  | constructor p a => constructor p a.1
  | named n a => named n a.1

def second : Call (F.pair G) → Call G
  | type p a => type p a.2
  | constructor p a => constructor p a.2
  | named n a => named n a.2

end Call

namespace Arguments

variable {F G : Family}

structure SameParameters (a : Arguments F) (b : Arguments G) : Prop where
  types : a.types.map Prod.fst = b.types.map Prod.fst
  constructors : a.constructors.map Prod.fst = b.constructors.map Prod.fst
  named : a.named.map Prod.fst = b.named.map Prod.fst

theorem halves_pairUp {π α β : Type} {xs : List (π × α)} {ys : List (π × β)}
    (h : xs.map Prod.fst = ys.map Prod.fst) :
    (pairUp xs ys).map (fun x => (x.1, x.2.1)) = xs ∧
    (pairUp xs ys).map (fun x => (x.1, x.2.2)) = ys := by
  induction xs generalizing ys with
  | nil => cases ys <;> simp_all [pairUp]
  | cons x xs ih =>
    cases ys with
    | nil => simp at h
    | cons y ys =>
      simp only [List.map_cons, List.cons.injEq] at h
      obtain ⟨hf, hs⟩ := ih h.2
      exact ⟨congrArg (x :: ·) hf, congrArg₂ (· :: ·) (Prod.ext h.1 rfl) hs⟩

theorem halves_calls_pair {a : Arguments F} {b : Arguments G} (h : a.SameParameters b) :
    (a.pair b).calls.map Call.first = a.calls ∧ (a.pair b).calls.map Call.second = b.calls := by
  obtain ⟨ht, ht'⟩ := halves_pairUp h.types
  obtain ⟨hc, hc'⟩ := halves_pairUp h.constructors
  obtain ⟨hn, hn'⟩ := halves_pairUp h.named
  constructor
  · conv_rhs => rw [calls, ← ht, ← hc, ← hn]
    simp only [calls, pair, List.map_append, List.map_map]
    rfl
  · conv_rhs => rw [calls, ← ht', ← hc', ← hn']
    simp only [calls, pair, List.map_append, List.map_map]
    rfl

end Arguments

theorem Lookup.mirrors {R : σ → τ → υ → Prop} {α β : Type} (l : Lookup (Mirror R α β)) :
    Recorder.Mirrors R Prod.fst Prod.snd (l.map Mirror.whole).record
      ((l.map Mirror.halves).map Prod.fst).record
      ((l.map Mirror.halves).map Prod.snd).record := by
  obtain ⟨found, events⟩ := l
  cases found with
  | none => exact Recorder.Mirrors.skip Prod.fst Prod.snd
  | some m => exact m.mirrors

theorem Snapshot.mirrors {R : σ → τ → υ → Prop} (m : Snapshot (.mirrored R)) :
    Recorder.Mirrors R Call.first Call.second (m.map (.wholes R)).recorder
      (m.map (.halves R)).firstRecorder (m.map (.halves R)).secondRecorder := by
  intro c s t u h
  cases c with
  | type p a =>
    simp only [recorder, firstRecorder, secondRecorder, Call.first, Call.second,
      typeRecorder_map]
    exact (m.typeRecorder p).mirrors a s t u h
  | constructor p a =>
    simp only [recorder, firstRecorder, secondRecorder, Call.first, Call.second,
      constructorRecorder_map]
    exact (m.constructorRecorder p).mirrors a s t u h
  | named n a =>
    simp only [recorder, firstRecorder, secondRecorder, Call.first, Call.second,
      namedRecorder_map]
    exact (m.namedRecorder n).mirrors a s t u h

end AttributeArguments
