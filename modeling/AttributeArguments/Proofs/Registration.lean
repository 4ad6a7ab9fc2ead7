import AttributeArguments.Proofs.Mirror

/-!
# Registrations of whole and of split recorders

One registration for a combined mapper and for a split one: the key and the pattern are the same,
and so is the way in which the recorders come about. The callbacks are arbitrary, and note down
what they receive. In each case the two split recorders mirror the combined one.
-/
namespace AttributeArguments

variable {σ τ υ δ ε α β : Type}

structure Callbacks (σ τ υ α β : Type) where
  whole : σ → α → β → σ
  first : τ → α → τ
  second : υ → β → υ

namespace Callbacks

variable {R : σ → τ → υ → Prop}

def Keep (R : σ → τ → υ → Prop) (c : Callbacks σ τ υ α β) : Prop :=
  ∀ s t u x l, R s t u → R (c.whole s x l) (c.first t x) (c.second u l)

theorem Keep.typeArgument {c : Callbacks σ τ υ TypeName Location} (h : c.Keep R) :
    Recorder.Mirrors R Prod.fst Prod.snd (Recorder.Paired.assignTypeArgument c.whole)
      (Recorder.Bound.assignTypeArgument c.first) (Recorder.Written.assignLocation c.second) :=
  fun a s t u hr => ⟨rfl, fun _ => h s t u a.1 a.2.location hr⟩

theorem Keep.constructor {c : Callbacks σ τ υ α Location} (h : c.Keep R) (p : Pattern α) :
    Recorder.Mirrors R Prod.fst Prod.snd (Recorder.Paired.assignConstructor p c.whole)
      (Recorder.Bound.assign p c.first)
      (Recorder.Written.assignConstructorLocation c.second) := by
  rintro ⟨v, slot⟩ s t u hr
  have accept (l : Location) (x : α) := h s t u x l hr
  simp only [Recorder.Paired.assignConstructor, Recorder.Bound.assign, Recorder.Bound.fitted]
  cases slot with
  | listed es => exact ⟨(Bool.and_false _).symm, fun h => (Bool.false_ne_true h).elim⟩
  | written e =>
    cases p.fit v with
    | error m => exact ⟨rfl, fun h => (Bool.false_ne_true h).elim⟩
    | ok x => exact ⟨rfl, fun _ => accept e.location x⟩
  | omitted =>
    cases p.fit v with
    | error m => exact ⟨rfl, fun h => (Bool.false_ne_true h).elim⟩
    | ok x => exact ⟨rfl, fun _ => accept .none x⟩

theorem Keep.collection {c : Callbacks σ τ υ α CollectionLocation} (h : c.Keep R)
    (p : Pattern α) :
    Recorder.Mirrors R Prod.fst Prod.snd (Recorder.Paired.assignCollection p c.whole)
      (Recorder.Bound.assign p c.first)
      (Recorder.Written.assignCollectionLocation c.second) := by
  rintro ⟨v, slot⟩ s t u hr
  simp only [Recorder.Paired.assignCollection, Recorder.Bound.assign, Recorder.Bound.fitted]
  cases p.fit v with
  | error m => exact ⟨rfl, fun h => (Bool.false_ne_true h).elim⟩
  | ok x => exact ⟨rfl, fun _ => h s t u x slot.collectionLocation hr⟩

theorem Keep.named {c : Callbacks σ τ υ α Location} (h : c.Keep R) (p : Pattern α) :
    Recorder.Mirrors R Prod.fst Prod.snd (Recorder.Paired.assignNamed p c.whole)
      (Recorder.Bound.assign p c.first) (Recorder.Written.assignLocation c.second) := by
  rintro ⟨v, e⟩ s t u hr
  simp only [Recorder.Paired.assignNamed, Recorder.Bound.assign, Recorder.Bound.fitted]
  cases p.fit v with
  | error m => exact ⟨rfl, fun h => (Bool.false_ne_true h).elim⟩
  | ok x => exact ⟨rfl, fun _ => h s t u x e.location hr⟩

end Callbacks

structure Logged (σ δ : Type) where
  record : σ
  received : List δ := []

def Logged.Zipped (σ τ υ δ ε : Type) (s : Logged σ (δ × ε)) (t : Logged τ δ) (u : Logged υ ε) :
    Prop :=
  t.received.length = u.received.length ∧ s.received = t.received.zip u.received

structure Observed (σ τ υ δ ε α β : Type) extends Callbacks σ τ υ α β where
  value : α → δ
  place : β → ε

def Observed.logged (c : Observed σ τ υ δ ε α β) :
    Callbacks (Logged σ (δ × ε)) (Logged τ δ) (Logged υ ε) α β where
  whole s x l := ⟨c.whole s.record x l, s.received ++ [(c.value x, c.place l)]⟩
  first t x := ⟨c.first t.record x, t.received ++ [c.value x]⟩
  second u l := ⟨c.second u.record l, u.received ++ [c.place l]⟩

theorem Observed.keep (c : Observed σ τ υ δ ε α β) : c.logged.Keep (Logged.Zipped σ τ υ δ ε) := by
  rintro s t u x l ⟨hl, hz⟩
  constructor
  · simp only [logged, List.length_append, hl]
    rfl
  · simp only [logged, hz, List.zip_append hl]
    rfl

/-- One registration, to be made with the recorders of either kind of mapper. -/
inductive Registration (σ τ υ δ ε : Type) : Type 1
  | index (index : Nat) (c : Observed σ τ υ δ ε TypeName Location)
  | type (name : String) (c : Observed σ τ υ δ ε TypeName Location)
  | constructor {α : Type} (name : String) (p : Pattern α) (c : Observed σ τ υ δ ε α Location)
  | collection {α : Type} (name : String) (p : Pattern α)
      (c : Observed σ τ υ δ ε α CollectionLocation)
  | named {α : Type} (name : String) (p : Pattern α) (c : Observed σ τ υ δ ε α Location)

namespace Registration

open Recorder

def combined : Registration σ τ υ δ ε → Operation (.combined (Logged σ (δ × ε)))
  | index i c => .mapIndex i (Paired.assignTypeArgument c.logged.whole)
  | type n c => .mapType n (Paired.assignTypeArgument c.logged.whole)
  | constructor n p c => .mapConstructor n (Paired.assignConstructor p c.logged.whole)
  | collection n p c => .mapConstructor n (Paired.assignCollection p c.logged.whole)
  | named n p c => .mapNamed n (Paired.assignNamed p c.logged.whole)

def split : Registration σ τ υ δ ε → Operation (.split (Logged τ δ) (Logged υ ε))
  | index i c => .mapIndex i
      (Bound.assignTypeArgument c.logged.first, Written.assignLocation c.logged.second)
  | type n c => .mapType n
      (Bound.assignTypeArgument c.logged.first, Written.assignLocation c.logged.second)
  | constructor n p c => .mapConstructor n
      (Bound.assign p c.logged.first, Written.assignConstructorLocation c.logged.second)
  | collection n p c => .mapConstructor n
      (Bound.assign p c.logged.first, Written.assignCollectionLocation c.logged.second)
  | named n p c => .mapNamed n
      (Bound.assign p c.logged.first, Written.assignLocation c.logged.second)

def mirrored : Registration σ τ υ δ ε → Operation (.mirrored (Logged.Zipped σ τ υ δ ε))
  | index i c => .mapIndex i ⟨_, _, _, c.keep.typeArgument⟩
  | type n c => .mapType n ⟨_, _, _, c.keep.typeArgument⟩
  | constructor n p c => .mapConstructor n ⟨_, _, _, c.keep.constructor p⟩
  | collection n p c => .mapConstructor n ⟨_, _, _, c.keep.collection p⟩
  | named n p c => .mapNamed n ⟨_, _, _, c.keep.named p⟩

theorem map_wholes (r : Registration σ τ υ δ ε) : r.mirrored.map (.wholes _) = r.combined := by
  cases r <;> rfl

theorem map_halves (r : Registration σ τ υ δ ε) : r.mirrored.map (.halves _) = r.split := by
  cases r <;> rfl

theorem obtain_ofList {ω : Type} {rs : List (Registration σ τ υ δ ε × Bool)}
    {options : MapperOptions} {whole : Snapshot (.combined (Logged σ (δ × ε)))}
    {halves : Snapshot (.split (Logged τ δ) (Logged υ ε))}
    (hwhole : (Mapper.ofList options (rs.map (Prod.map combined id)) :
      Mapper _ ω).obtain.verdict = .ok whole)
    (hhalves : (Mapper.ofList options (rs.map (Prod.map split id)) :
      Mapper _ ω).obtain.verdict = .ok halves) :
    ∃ m : Snapshot (.mirrored (Logged.Zipped σ τ υ δ ε)),
      m.map (.wholes _) = whole ∧ m.map (.halves _) = halves := by
  have hw : rs.map (Prod.map combined id) =
      (rs.map (Prod.map mirrored id)).map (Prod.map (Operation.map (.wholes _)) id) := by
    rw [List.map_map]
    exact List.map_congr_left fun r _ => Prod.ext (map_wholes r.1).symm rfl
  have hh : rs.map (Prod.map split id) =
      (rs.map (Prod.map mirrored id)).map (Prod.map (Operation.map (.halves _)) id) := by
    rw [List.map_map]
    exact List.map_congr_left fun r _ => Prod.ext (map_halves r.1).symm rfl
  rw [hw, Mapper.obtain_ofList_map] at hwhole
  rw [hh, Mapper.obtain_ofList_map] at hhalves
  cases hm : (Mapper.ofList options (rs.map (Prod.map mirrored id)) :
    Mapper (.mirrored (Logged.Zipped σ τ υ δ ε)) ω).obtain.verdict with
  | error e => rw [hm] at hwhole; cases hwhole
  | ok m =>
    rw [hm] at hwhole hhalves
    exact ⟨m, Except.ok.inj hwhole, Except.ok.inj hhalves⟩

end Registration

end AttributeArguments
