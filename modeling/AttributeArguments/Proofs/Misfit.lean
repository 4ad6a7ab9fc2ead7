import AttributeArguments.Proofs.Fitting

/-!
# The first misfit

A constant that does not fit has a misfit inside it, at the end of a route through arrays and
nullable layers. The mismatch that is reported is that of the first one: before the elements that
the route goes through all elements fit. It names the pattern that stands there, without the arrays
and the nullable layers around it, and the constant that this pattern refuses for itself.
-/
namespace AttributeArguments

theorem Constant.kind_eq_null_iff {c : Constant} : c.kind = "null" ↔ c = .null := by
  cases c <;> simp [kind]

namespace Pattern

/-- The constant is refused for itself and not for an element of it. A nullable pattern leaves this
to the pattern that it wraps. -/
def Rejects : {α : Type} → Pattern α → Constant → Prop
  | _, primitive p, c => ∀ a, c ≠ p.write a
  | _, object, c => c = .null
  | _, enumeration t, c => ∀ n e, c = .enum t.typeName n → t.ofUnderlying n ≠ some e
  | _, nullable _, _ => False
  | _, array _, c => ∀ elements, c ≠ .array elements

inductive Layer
  | nullable
  | element (index : Nat)
deriving DecidableEq, Repr

/-- The route leads from a pattern and a constant to the pattern `q` that faces the constant `d`
inside them. In each array on the way all earlier elements fit. -/
inductive Leads {β : Type} (q : Pattern β) (d : Constant) :
    {α : Type} → Pattern α → Constant → List Layer → Prop
  | here : Leads q d q d []
  | nullable {α : Type} {p : Pattern α} {c : Constant} {route : List Layer} (given : c ≠ .null)
      (rest : Leads q d p c route) : Leads q d p.nullable c (.nullable :: route)
  | element {α : Type} {p : Pattern α} {elements : List Constant} {i : Nat} {x : Constant}
      {route : List Layer} (found : elements[i]? = some x)
      (earlier : ∀ y ∈ elements.take i, p.Fits y) (rest : Leads q d p x route) :
      Leads q d p.array (.array elements) (.element i :: route)

section Elements

variable {ε α β : Type} {f : α → Except ε β} {xs : List α} {e : ε}

theorem mapM_cons_eq_error_iff {x : α} :
    (x :: xs).mapM f = .error e ↔
      f x = .error e ∨ (∃ y, f x = .ok y) ∧ xs.mapM f = .error e := by
  rw [List.mapM_cons]
  cases f x with
  | error e => simp [bind, Except.bind]
  | ok y => cases xs.mapM f <;> simp [bind, Except.bind, pure, Except.pure]

theorem mapM_eq_error_iff :
    xs.mapM f = .error e ↔
      ∃ i x, xs[i]? = some x ∧ (∀ y ∈ xs.take i, ∃ b, f y = .ok b) ∧ f x = .error e := by
  induction xs with
  | nil => exact iff_of_false nofun nofun
  | cons x xs ih =>
    rw [mapM_cons_eq_error_iff, ih]
    constructor
    · rintro (here | ⟨fine, i, y, hi, earlier, hy⟩)
      · exact ⟨0, x, rfl, nofun, here⟩
      · exact ⟨i + 1, y, hi, List.forall_mem_cons.mpr ⟨fine, earlier⟩, hy⟩
    · rintro ⟨i, y, hi, earlier, hy⟩
      cases i with
      | zero =>
        cases hi
        exact .inl hy
      | succ i =>
        obtain ⟨fine, earlier⟩ := List.forall_mem_cons.mp earlier
        exact .inr ⟨fine, i, y, hi, earlier, hy⟩

end Elements

section Fit

variable {α : Type} {c : Constant} {m : Mismatch}

theorem expect_eq_error_iff {expected : String} {x : Option α} :
    expect expected c x = .error m ↔ (∀ a, x ≠ some a) ∧ m = ⟨expected, c.kind⟩ := by
  cases x <;> simp [expect, eq_comm]

theorem fit_nullable_eq_error_iff {p : Pattern α} :
    p.nullable.fit c = .error m ↔ c ≠ .null ∧ p.fit c = .error m := by
  rw [fit, ne_eq, ← Constant.isNull_iff]
  split_ifs with hc
  · simp [hc]
  · cases p.fit c <;> simp [hc, Except.map]

theorem fit_array_eq_error_iff {p : Pattern α} :
    p.array.fit c = .error m ↔
      p.array.Rejects c ∧ m = ⟨"array", c.kind⟩ ∨
      ∃ elements, c = .array elements ∧ elements.mapM p.fit = .error m := by
  cases c <;> simp [fit, Rejects, eq_comm]

theorem fit_of_rejects {q : Pattern α} (h : q.Rejects c) : q.fit c = .error ⟨q.name, c.kind⟩ := by
  cases q with
  | primitive p =>
    exact expect_eq_error_iff.mpr ⟨fun a ha => h a (Primitive.eq_write_of_read? ha), rfl⟩
  | object =>
    cases h
    rfl
  | enumeration t =>
    refine expect_eq_error_iff.mpr ⟨fun e he => ?_, rfl⟩
    obtain ⟨n, hc, hn⟩ := EnumType.read?_eq_some_iff.mp he
    exact h n e hc hn
  | nullable p => exact h.elim
  | array p => exact fit_array_eq_error_iff.mpr (.inl ⟨h, rfl⟩)

end Fit

theorem exists_leads_of_fit {α : Type} {p : Pattern α} {c : Constant} {m : Mismatch}
    (h : p.fit c = .error m) :
    ∃ (β : Type) (q : Pattern β) (d : Constant) (route : List Layer),
      Leads q d p c route ∧ q.Rejects d ∧ m = ⟨q.name, d.kind⟩ := by
  induction p generalizing c with
  | primitive p =>
    obtain ⟨unread, rfl⟩ := expect_eq_error_iff.mp h
    refine ⟨_, primitive p, c, [], .here, ?_, rfl⟩
    rintro a rfl
    exact unread a (p.read?_write a)
  | object =>
    rw [fit] at h
    split_ifs at h with hc
    cases h
    exact ⟨_, object, c, [], .here, Constant.isNull_iff.mp hc, rfl⟩
  | enumeration t =>
    obtain ⟨unread, rfl⟩ := expect_eq_error_iff.mp h
    refine ⟨_, enumeration t, c, [], .here, ?_, rfl⟩
    intro n e hc hn
    exact unread e (EnumType.read?_eq_some_iff.mpr ⟨n, hc, hn⟩)
  | nullable p ih =>
    obtain ⟨given, h⟩ := fit_nullable_eq_error_iff.mp h
    -- the layer lengthens the route and leaves the mismatch as it is
    obtain ⟨β, q, d, route, leads, rejects, named⟩ := ih h
    exact ⟨β, q, d, _, .nullable given leads, rejects, named⟩
  | array p ih =>
    rcases fit_array_eq_error_iff.mp h with ⟨rejects, rfl⟩ | ⟨elements, rfl, h⟩
    · exact ⟨_, p.array, c, [], .here, rejects, rfl⟩
    · obtain ⟨i, x, found, earlier, hx⟩ := mapM_eq_error_iff.mp h
      obtain ⟨β, q, d, route, leads, rejects, named⟩ := ih hx
      have fits : ∀ y ∈ elements.take i, p.Fits y :=
        fun y hy => (p.exists_fit_iff y).mp (earlier y hy)
      exact ⟨β, q, d, _, .element found fits leads, rejects, named⟩

namespace Leads

variable {α β : Type} {p : Pattern α} {q : Pattern β} {c d : Constant} {route : List Layer}

theorem fit_eq_error (leads : Leads q d p c route) {m : Mismatch} (h : q.fit d = .error m) :
    p.fit c = .error m := by
  induction leads with
  | here => exact h
  | nullable given _ ih => exact fit_nullable_eq_error_iff.mpr ⟨given, ih⟩
  | element found earlier _ ih =>
    refine fit_array_eq_error_iff.mpr (.inr ⟨_, rfl, mapM_eq_error_iff.mpr ?_⟩)
    exact ⟨_, _, found, fun y hy => (exists_fit_iff _ y).mpr (earlier y hy), ih⟩

theorem ne_null (leads : Leads q d p c route) :
    (route = [] → d = c) ∧ (route.getLast? = some .nullable → d ≠ .null) := by
  induction leads with
  | here => exact ⟨fun _ => rfl, nofun⟩
  | @nullable _ _ _ route given _ ih =>
    refine ⟨nofun, fun last => ?_⟩
    cases route with
    | nil => exact ih.1 rfl ▸ given
    | cons layer route => exact ih.2 (List.getLast?_cons_cons ▸ last)
  | @element _ _ _ _ _ route _ _ _ ih =>
    refine ⟨nofun, fun last => ?_⟩
    cases route with
    | nil => cases last
    | cons layer route => exact ih.2 (List.getLast?_cons_cons ▸ last)

end Leads

/-- What does not fit is refused, and the mismatch names the first misfit: there is a route to a
pattern that rejects the constant which faces it, and these two are expected and found. A `null`
is found only where no nullable layer is right before that pattern. -/
theorem fit_names_first_misfit {α : Type} (p : Pattern α) (c : Constant) :
    (¬ p.Fits c ↔ ∃ m, p.fit c = .error m) ∧
    ∀ m, p.fit c = .error m ↔
      ∃ (β : Type) (q : Pattern β) (d : Constant) (route : List Layer),
        Leads q d p c route ∧ q.Rejects d ∧ m = ⟨q.name, d.kind⟩ ∧
        (m.found = "null" → route.getLast? ≠ some .nullable) := by
  constructor
  · rw [← p.exists_fit_iff c]
    cases p.fit c <;> simp
  · intro m
    constructor
    · intro h
      obtain ⟨β, q, d, route, leads, rejects, rfl⟩ := exists_leads_of_fit h
      refine ⟨β, q, d, route, leads, rejects, rfl, fun null last => ?_⟩
      exact leads.ne_null.2 last (Constant.kind_eq_null_iff.mp null)
    · rintro ⟨β, q, d, route, leads, rejects, rfl, -⟩
      exact leads.fit_eq_error (fit_of_rejects rejects)

example : (array (array (primitive .i32)).nullable).fit
      (.array [.null, .array [.i32 1, .null], .bool true]) = .error ⟨"i32", "null"⟩ := rfl

end Pattern

end AttributeArguments
