import AttributeArguments.Recorder.Paired
import Mathlib.Data.Option.NAry

/-!
# What is handed over

An adapter makes a recorder from a callback that stores what it is given. For each argument it hands
one value to the callback, or it refuses the argument and leaves the record alone; which of the two
does not depend on the callback. The adapters of paired arguments are products: they hand over
together what the adapters of the bound and of the written half hand over apart, and they refuse
what one of these refuses, so that nothing is stored of a half that was fine.
-/
namespace AttributeArguments

variable {α β γ δ : Type}

/-- From callbacks that store values of type `β` to recorders of arguments of type `α`. A callback
that stores two values is one that stores their pair. -/
abbrev Adapter (α β : Type) : Type 1 := (σ : Type) → (σ → β → σ) → Recorder σ α

namespace Adapter

/-- Every callback is called exactly once, with `b`. -/
def HandsOver (a : Adapter α β) (x : α) (b : β) : Prop :=
  ∀ (σ : Type) (f : σ → β → σ) (s : σ), a σ f x s = ⟨true, f s b, []⟩

def Refuses (a : Adapter α β) (x : α) : Prop :=
  ∃ e, ∀ (σ : Type) (f : σ → β → σ) (s : σ), a σ f x s = ⟨false, s, [e]⟩

structure Gives (a : Adapter α β) (outcome : α → Option β) : Prop where
  handsOver : ∀ {x b}, outcome x = some b → a.HandsOver x b
  refuses : ∀ {x}, outcome x = none → a.Refuses x

structure IsProduct (whole : Adapter (α × γ) (β × δ)) (first : Adapter α β)
    (second : Adapter γ δ) : Prop where
  accepted_iff : ∀ {σ τ υ : Type} (f : σ → β × δ → σ) (g : τ → β → τ) (h : υ → δ → υ)
    (s : σ) (t : τ) (u : υ) (x : α) (y : γ),
    (whole σ f (x, y) s).accepted = true ↔
      (first τ g x t).accepted = true ∧ (second υ h y u).accepted = true
  stores : ∀ {σ : Type} (f : σ → β × δ → σ) (s : σ) (x : α) (y : γ),
    (whole σ f (x, y) s).accepted = true →
      ∃ b d, first.HandsOver x b ∧ second.HandsOver y d ∧ whole.HandsOver (x, y) (b, d)
  leaves : ∀ {σ : Type} (f : σ → β × δ → σ) (s : σ) (x : α) (y : γ),
    (whole σ f (x, y) s).accepted = false → whole.Refuses (x, y)

theorem HandsOver.accepted {a : Adapter α β} {x : α} {b : β} (h : a.HandsOver x b) {σ : Type}
    (f : σ → β → σ) (s : σ) : (a σ f x s).accepted = true :=
  congrArg Reply.accepted (h σ f s)

theorem Refuses.accepted {a : Adapter α β} {x : α} (h : a.Refuses x) {σ : Type} (f : σ → β → σ)
    (s : σ) : (a σ f x s).accepted = false := by
  obtain ⟨e, he⟩ := h
  exact congrArg Reply.accepted (he σ f s)

theorem Gives.accepted {a : Adapter α β} {outcome : α → Option β} (h : a.Gives outcome) {σ : Type}
    (f : σ → β → σ) (s : σ) (x : α) : (a σ f x s).accepted = (outcome x).isSome := by
  cases hx : outcome x with
  | some b => exact (h.handsOver hx).accepted f s
  | none => exact (h.refuses hx).accepted f s

theorem Gives.isProduct {whole : Adapter (α × γ) (β × δ)} {first : Adapter α β}
    {second : Adapter γ δ} {F : α → Option β} {G : γ → Option δ} (hf : first.Gives F)
    (hs : second.Gives G) (hw : whole.Gives fun z => Option.map₂ Prod.mk (F z.1) (G z.2)) :
    whole.IsProduct first second where
  accepted_iff f g h s t u x y := by
    rw [hw.accepted, hf.accepted, hs.accepted]
    cases F x <;> cases G y <;> simp
  stores f s x y accepted := by
    rw [hw.accepted, Option.isSome_iff_exists] at accepted
    obtain ⟨⟨b, d⟩, both⟩ := accepted
    obtain ⟨b', d', hb, hd, same⟩ := Option.map₂_eq_some_iff.mp both
    cases same
    exact ⟨b, d, hf.handsOver hb, hs.handsOver hd, hw.handsOver both⟩
  leaves f s x y refused := by
    rw [hw.accepted, Option.isSome_eq_false_iff, Option.isNone_iff_eq_none] at refused
    exact hw.refuses refused

section Recorders

open Recorder

def fitted (p : Pattern α) : Adapter Constant α := fun _ => Bound.assign p

def location : Adapter Expression Location := fun _ => Written.assignLocation

def constructorLocation : Adapter Slot Location := fun _ => Written.assignConstructorLocation

def collectionLocation : Adapter Slot CollectionLocation :=
  fun _ => Written.assignCollectionLocation

def constructor (p : Pattern α) : Adapter (Constant × Slot) (α × Location) :=
  fun _ f => Paired.assignConstructor p fun s a l => f s (a, l)

def collection (p : Pattern α) : Adapter (Constant × Slot) (α × CollectionLocation) :=
  fun _ f => Paired.assignCollection p fun s a l => f s (a, l)

def named (p : Pattern α) : Adapter (Constant × Expression) (α × Location) :=
  fun _ f => Paired.assignNamed p fun s a l => f s (a, l)

theorem gives_fitted (p : Pattern α) : (fitted p).Gives fun c => (p.fit c).toOption where
  handsOver {c a} h σ f s := by
    cases hp : p.fit c with
    | error m => simp [hp, Except.toOption] at h
    | ok b =>
      obtain rfl : b = a := by simpa [hp, Except.toOption] using h
      simp only [fitted, Bound.assign, Bound.fitted, hp, checked]
  refuses {c} h := by
    cases hp : p.fit c with
    | error m => exact ⟨.semanticMisfit m, fun σ f s => by
        simp only [fitted, Bound.assign, Bound.fitted, hp, refused]⟩
    | ok b => simp [hp, Except.toOption] at h

theorem gives_location : location.Gives fun e => some e.location where
  handsOver h σ f s := by
    cases h
    rfl
  refuses h := nomatch h

theorem gives_constructorLocation : constructorLocation.Gives Slot.location? where
  handsOver {slot l} h σ f s := by
    cases slot <;> cases h <;> rfl
  refuses {slot} h := by
    cases slot with
    | listed es => exact ⟨.listedElementsRefused es.length, fun _ _ _ => rfl⟩
    | written | omitted => cases h

theorem gives_collectionLocation :
    collectionLocation.Gives fun slot => some slot.collectionLocation where
  handsOver h σ f s := by
    cases h
    rfl
  refuses h := nomatch h

theorem gives_paired {p : Pattern α} (place : γ → Option δ)
    {whole : Adapter (Constant × γ) (α × δ)}
    (stored : ∀ {c a y d}, p.fit c = .ok a → place y = some d → whole.HandsOver (c, y) (a, d))
    (misfit : ∀ {c m y d}, p.fit c = .error m → place y = some d → whole.Refuses (c, y))
    (nowhere : ∀ {c y}, place y = none → whole.Refuses (c, y)) :
    whole.Gives fun z => Option.map₂ Prod.mk (p.fit z.1).toOption (place z.2) where
  handsOver {z b} h := by
    obtain ⟨a, d, ha, hd, rfl⟩ := Option.map₂_eq_some_iff.mp h
    cases hp : p.fit z.1 with
    | error m => simp [hp, Except.toOption] at ha
    | ok x =>
      obtain rfl : x = a := by simpa [hp, Except.toOption] using ha
      exact stored hp hd
  refuses {z} h := by
    cases hd : place z.2 with
    | none => exact nowhere hd
    | some d =>
      cases hp : p.fit z.1 with
      | error m => exact misfit hp hd
      | ok x => simp [hp, hd, Except.toOption] at h

theorem gives_constructor (p : Pattern α) : (constructor p).Gives fun z =>
    Option.map₂ Prod.mk (p.fit z.1).toOption z.2.location? := by
  apply gives_paired Slot.location?
  · intro c a slot l hp hl σ f s
    simp only [constructor, Paired.assignConstructor, hl, hp, assigned]
  · intro c m slot l hp hl
    refine ⟨.argumentMisfit .constructor m, fun σ f s => ?_⟩
    simp only [constructor, Paired.assignConstructor, hl, hp, refused]
  · intro c slot hl
    refine ⟨.listedElementsRefused slot.expressions.length, fun σ f s => ?_⟩
    simp only [constructor, Paired.assignConstructor, hl, refused]

theorem gives_collection (p : Pattern α) : (collection p).Gives fun z =>
    Option.map₂ Prod.mk (p.fit z.1).toOption (some z.2.collectionLocation) := by
  apply gives_paired fun slot : Slot => some slot.collectionLocation
  · rintro c a slot _ hp ⟨⟩ σ f s
    simp only [collection, Paired.assignCollection, hp, assigned]
  · intro c m slot _ hp _
    refine ⟨.argumentMisfit .constructor m, fun σ f s => ?_⟩
    simp only [collection, Paired.assignCollection, hp, refused]
  · exact fun h => nomatch h

theorem gives_named (p : Pattern α) : (named p).Gives fun z =>
    Option.map₂ Prod.mk (p.fit z.1).toOption (some z.2.location) := by
  apply gives_paired fun e : Expression => some e.location
  · rintro c a e _ hp ⟨⟩ σ f s
    simp only [named, Paired.assignNamed, hp, assigned]
  · intro c m e _ hp _
    refine ⟨.argumentMisfit .named m, fun σ f s => ?_⟩
    simp only [named, Paired.assignNamed, hp, refused]
  · exact fun h => nomatch h

/-- The adapters of paired arguments are the products of the adapter that fits the constant and of
one that locates the expressions. Where any slot or expression can be located, it is the constant
alone that decides. -/
theorem paired_isProduct (p : Pattern α) :
    ((constructor p).IsProduct (fitted p) constructorLocation ∧
      (collection p).IsProduct (fitted p) collectionLocation ∧
      (named p).IsProduct (fitted p) location) ∧
    ∀ {σ τ : Type} (g : τ → α → τ) (t : τ) (s : σ) (c : Constant),
      (∀ (f : σ → α → CollectionLocation → σ) (slot : Slot),
        (Paired.assignCollection p f (c, slot) s).accepted = (Bound.assign p g c t).accepted) ∧
      ∀ (f : σ → α → Location → σ) (e : Expression),
        (Paired.assignNamed p f (c, e) s).accepted = (Bound.assign p g c t).accepted := by
  have first := gives_fitted p
  refine ⟨⟨?_, ?_, ?_⟩, fun g t s c => ⟨fun f slot => ?_, fun f e => ?_⟩⟩
  · exact first.isProduct gives_constructorLocation (gives_constructor p)
  · exact first.isProduct gives_collectionLocation (gives_collection p)
  · exact first.isProduct gives_location (gives_named p)
  · have whole := (gives_collection p).accepted (fun s z => f s z.1 z.2) s (c, slot)
    refine whole.trans (Eq.trans ?_ (first.accepted g t c).symm)
    cases (p.fit c).toOption <;> rfl
  · have whole := (gives_named p).accepted (fun s z => f s z.1 z.2) s (c, e)
    refine whole.trans (Eq.trans ?_ (first.accepted g t c).symm)
    cases (p.fit c).toOption <;> rfl

end Recorders

end Adapter

end AttributeArguments
