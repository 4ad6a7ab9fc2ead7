import AttributeArguments.Pattern
import Mathlib.Logic.Basic
import Mathlib.Tactic.SplitIfs

/-!
# Exact fitting

The shape that a pattern asks for, and the constant that is rebuilt from a fitted value. A constant
fits exactly when it has the shape. Nothing of it is lost: the constant is rebuilt from the value,
to the bits of its numbers and to the order and the number of its elements. Of the enumerations in
a pattern this asks that no two integers are one member.
-/
namespace AttributeArguments

theorem Primitive.read?_eq_some_iff {α : Type} {p : Primitive α} {c : Constant} {a : α} :
    p.read? c = some a ↔ c = p.write a :=
  ⟨eq_write_of_read?, fun h => h ▸ p.read?_write a⟩

namespace EnumType

variable {E : Type}

def Injective (t : EnumType E) : Prop :=
  ∀ m n e, t.ofUnderlying m = some e → t.ofUnderlying n = some e → m = n

noncomputable def underlying (t : EnumType E) (e : E) : Int64 :=
  Classical.epsilon fun n => t.ofUnderlying n = some e

theorem ofUnderlying_underlying {t : EnumType E} {n : Int64} {e : E}
    (h : t.ofUnderlying n = some e) : t.ofUnderlying (t.underlying e) = some e :=
  Classical.epsilon_spec (p := fun n => t.ofUnderlying n = some e) ⟨n, h⟩

theorem read?_eq_some_iff {t : EnumType E} {c : Constant} {e : E} :
    t.read? c = some e ↔ ∃ n, c = .enum t.typeName n ∧ t.ofUnderlying n = some e := by
  constructor
  · intro h
    unfold read? at h
    split at h
    next enumType n =>
      split_ifs at h with same
      exact ⟨n, congrArg (Constant.enum · n) same, h⟩
    next => cases h
  · rintro ⟨n, rfl, h⟩
    simp only [read?, ↓reduceIte, h]

end EnumType

theorem Constant.isNull_iff {c : Constant} : c.isNull = true ↔ c = .null := by
  cases c <;> simp [isNull]

namespace Pattern

def Fits : {α : Type} → Pattern α → Constant → Prop
  | _, primitive p, c => ∃ a, c = p.write a
  | _, object, c => c ≠ .null
  | _, enumeration t, c => ∃ n e, c = .enum t.typeName n ∧ t.ofUnderlying n = some e
  | _, nullable p, c => c = .null ∨ p.Fits c
  | _, array p, c => ∃ elements, c = .array elements ∧ ∀ x ∈ elements, p.Fits x

noncomputable def rebuild : {α : Type} → Pattern α → α → Constant
  | _, primitive p, a => p.write a
  | _, object, c => c
  | _, enumeration t, e => .enum t.typeName (t.underlying e)
  | _, nullable _, none => .null
  | _, nullable p, some a => p.rebuild a
  | _, array p, as => .array (as.map p.rebuild)

/-- No enumeration in the pattern has two integers for one member. -/
def Injective : {α : Type} → Pattern α → Prop
  | _, primitive _ => True
  | _, object => True
  | _, enumeration t => t.Injective
  | _, nullable p => p.Injective
  | _, array p => p.Injective

section Fit

variable {α : Type} {c : Constant}

theorem expect_eq_ok_iff {expected : String} {x : Option α} {a : α} :
    expect expected c x = .ok a ↔ x = some a := by
  cases x <;> simp [expect]

theorem fit_primitive_iff {p : Primitive α} {a : α} :
    (primitive p).fit c = .ok a ↔ c = p.write a :=
  expect_eq_ok_iff.trans Primitive.read?_eq_some_iff

theorem fit_object_iff {d : Constant} : object.fit c = .ok d ↔ c ≠ .null ∧ d = c := by
  rw [fit, ne_eq, ← Constant.isNull_iff]
  split_ifs with hc <;> simp [hc, eq_comm]

theorem fit_enumeration_iff {t : EnumType α} {e : α} :
    (enumeration t).fit c = .ok e ↔ ∃ n, c = .enum t.typeName n ∧ t.ofUnderlying n = some e :=
  expect_eq_ok_iff.trans EnumType.read?_eq_some_iff

theorem fit_nullable_iff {p : Pattern α} {x : Option α} :
    p.nullable.fit c = .ok x ↔
      c = .null ∧ x = none ∨ c ≠ .null ∧ ∃ a, p.fit c = .ok a ∧ x = some a := by
  rw [fit, ne_eq, ← Constant.isNull_iff]
  split_ifs with hc
  · simp [hc, eq_comm]
  · cases p.fit c <;> simp [hc, Except.map, eq_comm]

theorem fit_array_iff {p : Pattern α} {as : List α} :
    p.array.fit c = .ok as ↔
      ∃ elements, c = .array elements ∧ elements.mapM p.fit = .ok as := by
  cases c <;> simp [fit]

end Fit

section Elements

variable {ε α β : Type} {f : α → Except ε β} {xs : List α}

theorem mapM_cons_eq_ok_iff {x : α} {ys : List β} :
    (x :: xs).mapM f = .ok ys ↔
      ∃ y zs, f x = .ok y ∧ xs.mapM f = .ok zs ∧ ys = y :: zs := by
  rw [List.mapM_cons]
  cases f x with
  | error e => simp [bind, Except.bind]
  | ok y => cases xs.mapM f <;> simp [bind, Except.bind, pure, Except.pure, eq_comm]

theorem exists_mapM_eq_ok_iff : (∃ ys, xs.mapM f = .ok ys) ↔ ∀ x ∈ xs, ∃ y, f x = .ok y := by
  induction xs with
  | nil => exact iff_of_true ⟨[], rfl⟩ fun x hx => (List.not_mem_nil hx).elim
  | cons x xs ih =>
    rw [List.forall_mem_cons, ← ih]
    constructor
    · rintro ⟨ys, h⟩
      obtain ⟨y, zs, hy, hz, -⟩ := mapM_cons_eq_ok_iff.mp h
      exact ⟨⟨y, hy⟩, zs, hz⟩
    · rintro ⟨⟨y, hy⟩, zs, hz⟩
      exact ⟨y :: zs, mapM_cons_eq_ok_iff.mpr ⟨y, zs, hy, hz, rfl⟩⟩

theorem map_of_mapM_eq_ok {g : β → α} (inverse : ∀ x y, f x = .ok y → g y = x) {ys : List β}
    (h : xs.mapM f = .ok ys) : ys.map g = xs := by
  induction xs generalizing ys with
  | nil =>
    cases h
    rfl
  | cons x xs ih =>
    obtain ⟨y, zs, hy, hz, rfl⟩ := mapM_cons_eq_ok_iff.mp h
    rw [List.map_cons, inverse x y hy, ih hz]

end Elements

theorem exists_fit_iff {α : Type} (p : Pattern α) (c : Constant) :
    (∃ a, p.fit c = .ok a) ↔ p.Fits c := by
  induction p generalizing c with
  | primitive p => simp only [fit_primitive_iff, Fits]
  | object => simp only [fit_object_iff, Fits, exists_and_left, exists_eq, and_true]
  | enumeration t =>
    simp only [fit_enumeration_iff, Fits]
    exact exists_comm
  | nullable p ih =>
    simp only [fit_nullable_iff, Fits, ← ih]
    constructor
    · rintro ⟨x, ⟨hc, -⟩ | ⟨-, a, ha, -⟩⟩
      · exact .inl hc
      · exact .inr ⟨a, ha⟩
    · intro h
      by_cases hc : c = .null
      · exact ⟨none, .inl ⟨hc, rfl⟩⟩
      · obtain ⟨a, ha⟩ := h.resolve_left hc
        exact ⟨some a, .inr ⟨hc, a, ha, rfl⟩⟩
  | array p ih =>
    simp only [fit_array_iff, Fits, ← ih, ← exists_mapM_eq_ok_iff]
    rw [exists_comm]
    simp only [exists_and_left]

theorem Injective.rebuild_fit {α : Type} {p : Pattern α} (h : p.Injective) {c : Constant} {a : α}
    (fits : p.fit c = .ok a) : p.rebuild a = c := by
  induction p generalizing c with
  | primitive p => exact (fit_primitive_iff.mp fits).symm
  | object => exact (fit_object_iff.mp fits).2
  | enumeration t =>
    obtain ⟨n, rfl, he⟩ := fit_enumeration_iff.mp fits
    exact congrArg _ (h _ n a (EnumType.ofUnderlying_underlying he) he)
  | nullable p ih =>
    obtain ⟨rfl, rfl⟩ | ⟨-, a, ha, rfl⟩ := fit_nullable_iff.mp fits
    · rfl
    · exact ih h ha
  | array p ih =>
    obtain ⟨elements, rfl, he⟩ := fit_array_iff.mp fits
    exact congrArg _ (map_of_mapM_eq_ok (fun x a hx => ih h hx) he)

/-- Fitting is exact and loses nothing: it succeeds on the constants of the shape, and each of them
is rebuilt from its value, so that no two constants have one value. -/
theorem fit_exact {α : Type} (p : Pattern α) :
    (∀ c, (∃ a, p.fit c = .ok a) ↔ p.Fits c) ∧
    (p.Injective →
      (∀ c a, p.fit c = .ok a → p.rebuild a = c) ∧
      ∀ c d a, p.fit c = .ok a → p.fit d = .ok a → c = d) := by
  refine ⟨p.exists_fit_iff, fun injective => ⟨?_, ?_⟩⟩
  · intro c a fits
    exact injective.rebuild_fit fits
  · intro c d a hc hd
    rw [← injective.rebuild_fit hc, ← injective.rebuild_fit hd]

def toggle : EnumType Bool where
  typeName := ⟨"Demo.Toggle"⟩
  ofUnderlying n := if n = 0 then some false else if n = 1 then some true else none

theorem fit_exact_toggles :
    toggle.Injective ∧
    (∃ xs, (enumeration toggle).nullable.array.fit (.array [.enum ⟨"Demo.Toggle"⟩ 1, .null]) =
      .ok xs) ∧
    (enumeration toggle).nullable.array.rebuild [some true, none] =
      .array [.enum ⟨"Demo.Toggle"⟩ 1, .null] := by
  have injective : toggle.Injective := by
    intro m n e hm hn
    simp only [toggle] at hm hn
    split_ifs at hm hn <;> simp_all
  obtain ⟨exact, lossless⟩ := fit_exact (enumeration toggle).nullable.array
  obtain ⟨rebuilt, -⟩ := lossless injective
  refine ⟨injective, ?_, rebuilt _ _ rfl⟩
  exact (exact _).mpr ⟨_, rfl, by simp [Fits, toggle]⟩

end Pattern

end AttributeArguments
