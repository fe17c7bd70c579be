import Mathlib

/-!
# Slot types: the flexibility lattice over value types

Model of the value-level half of `kailua_check/src/ty/slot.rs` (lines 16-143): the flexibility
`F`, a slot's contents `S { flex, ty }`, and `S::union`, `S::assert_sub`, `S::assert_eq`,
`S::with_nil`, `S::without_nil`. The shared, locked cells holding an `S` are in `SlotStore.lean`.

* The value types are not modelled: the slot code only calls them. `TyLayer Ty Ctx` is what it
  calls (`Ty::union`, `assert_sub`, `assert_eq`, `filter_by_flags`, `with_nil`, `without_nil`,
  `Dyn::union`, and the types it builds: `T::Dynamic(dyn)`, `T::None`, its `or_nil(Absent)`,
  `Ty::dummy()`). Each check threads the type context `Ctx` (`&mut TypeContext`, the unification
  engine), which keeps its changes when the check fails.
* `CheckResult<T>` is `Except (CheckError Ty) T`. A value-layer error is kept as its message
  (`ty`); the slot code's own errors keep the slots their messages print.
* `TyLayer.EqLaws`, `TyLayer.EqStable` and `TyLayer.UnionUpper` are the value-type laws the
  lattice results assume. The equality laws hold within each context, so a context that records
  type-variable bounds as it checks meets them; the union bound also needs a successful
  `assert_eq` to hold again in the context it leaves, and a value-type union to be above its
  operands in every context.

Results:
* `S.assertSub_self`, `S.assertEq_self`: under `EqLaws`, every slot is below and equal to itself.
* `S.union_cases`: what `S::union` can return, one case per arm; `S.union_upper_left` and
  `S.union_upper_right`: under the laws, the union is above each operand.
* `S.assertSub_any_const`: an `Any` slot on the left of a `Const` one is checked by its
  retained type, the only place that type is read (`S.any_ty_irrelevant`).
-/

namespace Kailua.Check

/-- `Dyn`: the intentional `WHATEVER`, or the error-recovery type. -/
inductive Dyn
  | user
  | oops
deriving DecidableEq, Repr

/-- `F`, a slot's flexibility. -/
inductive F
  /-- The invalid top type: the type is retained but never used. -/
  | any
  /-- All assignments are allowed and ignored. -/
  | dynamic (dyn : Dyn)
  /-- A temporary r-value slot; it becomes `Var` or `Const`. -/
  | just
  /-- A covariant immutable slot. -/
  | const
  /-- An invariant mutable slot. -/
  | var
deriving DecidableEq, Repr

/-- `M`, the modifier of a declaration. -/
inductive M
  | none
  | const
deriving DecidableEq, Repr

/-- `F::from(M)`. -/
def F.from : M → F
  | .none => .var
  | .const => .const

/-- `S`: a slot's contents. -/
structure S (Ty : Type) where
  flex : F
  ty : Ty
deriving DecidableEq, Repr

/-- The type flags (`flags::Flags`, a `u16` bit set); the slot code only passes them on. -/
structure Flags where
  bits : UInt16
deriving DecidableEq, Repr

/-- The error of a failed check, as the data its message is formatted from. -/
inductive CheckError (Ty : Type)
  /-- An error the value-type layer returned. -/
  | ty (msg : String)
  /-- `error_not_sub(self, other)`. -/
  | notSub (lhs rhs : S Ty)
  /-- `error_not_eq(self, other)`. -/
  | notEq (lhs rhs : S Ty)
  /-- `impossible to assign {rhs:?} to {lhs:?}`. -/
  | cannotAssign (rhs lhs : S Ty)
  /-- `impossible to update {s:?}`. -/
  | cannotUpdate (s : S Ty)
deriving DecidableEq, Repr

/-- The value-type layer the slot code calls, over the type context `Ctx`. A check returns its
answer and the context it leaves. -/
structure TyLayer (Ty Ctx : Type) where
  /-- `Ty::union(&self, other, explicit, ctx)`. -/
  union : Ty → Ty → Bool → Ctx → Except String Ty × Ctx
  /-- `Ty::assert_sub`. -/
  assertSub : Ty → Ty → Ctx → Except String Unit × Ctx
  /-- `Ty::assert_eq`. -/
  assertEq : Ty → Ty → Ctx → Except String Unit × Ctx
  /-- `Ty::filter_by_flags`. -/
  filterByFlags : Ty → Flags → Ctx → Except String Ty × Ctx
  /-- `Ty::with_nil`. -/
  withNil : Ty → Ty
  /-- `Ty::without_nil`. -/
  withoutNil : Ty → Ty
  /-- `Ty::new(T::Dynamic(dyn))`. -/
  dynamic : Dyn → Ty
  /-- `Ty::new(T::None)`. -/
  none : Ty
  /-- `Ty::new(T::None).or_nil(Nil::Absent)`. -/
  noneOrNil : Ty
  /-- `Ty::dummy()`. -/
  dummy : Ty
  /-- `Dyn::union`. -/
  dynUnion : Dyn → Dyn → Dyn

variable {Ty Ctx : Type} (L : TyLayer Ty Ctx)

/-- `assert_eq` is reflexive, symmetric and implies `assert_sub`, which is reflexive, each
within one type context. -/
structure TyLayer.EqLaws : Prop where
  eq_refl : ∀ x ctx, (L.assertEq x x ctx).1 = .ok ()
  eq_symm : ∀ x y ctx, (L.assertEq x y ctx).1 = .ok () → (L.assertEq y x ctx).1 = .ok ()
  eq_sub : ∀ x y ctx, (L.assertEq x y ctx).1 = .ok () → (L.assertSub x y ctx).1 = .ok ()
  sub_refl : ∀ x ctx, (L.assertSub x x ctx).1 = .ok ()

/-- A successful `assert_eq` succeeds again in the context it leaves: what it records there
keeps the two types equal. -/
def TyLayer.EqStable : Prop :=
  ∀ x y ctx, (L.assertEq x y ctx).1 = .ok () →
    (L.assertEq x y (L.assertEq x y ctx).2).1 = .ok ()

/-- A value-type union is above both operands. -/
def TyLayer.UnionUpper : Prop :=
  ∀ x y explicit ctx z, (L.union x y explicit ctx).1 = .ok z →
    ∀ ctx', (L.assertSub x z ctx').1 = .ok () ∧ (L.assertSub y z ctx').1 = .ok ()

/-- A value-layer answer as a `CheckResult`. -/
def lift {α : Type} (r : Except String α × Ctx) : Except (CheckError Ty) α × Ctx :=
  (r.1.mapError .ty, r.2)

@[simp] theorem lift_fst_ok_iff {r : Except String Unit × Ctx} :
    (lift r : Except (CheckError Ty) Unit × Ctx).1 = .ok () ↔ r.1 = .ok () := by
  obtain ⟨_ | ⟨⟩, _⟩ := r <;> simp [lift, Except.mapError]

/-- `S::with_nil`. -/
def S.withNil (s : S Ty) : S Ty := ⟨s.flex, L.withNil s.ty⟩

/-- `S::without_nil`. -/
def S.withoutNil (s : S Ty) : S Ty := ⟨s.flex, L.withoutNil s.ty⟩

/-- `S::union`: the contents of the slot merging two (possibly different) slots. -/
def S.union (a b : S Ty) (explicit : Bool) (ctx : Ctx) : Except (CheckError Ty) (S Ty) × Ctx :=
  match a.flex, b.flex with
  | .dynamic dyn1, .dynamic dyn2 =>
    (.ok ⟨.dynamic (L.dynUnion dyn1 dyn2), L.dynamic (L.dynUnion dyn1 dyn2)⟩, ctx)
  | .dynamic dyn, _ | _, .dynamic dyn => (.ok ⟨.dynamic dyn, L.dynamic dyn⟩, ctx)
  | .any, _ | _, .any => (.ok ⟨.any, L.none⟩, ctx)
  -- it's fine to merge r-values
  | .just, .just =>
    let r := L.union a.ty b.ty explicit ctx
    ((r.1.mapError .ty).map (⟨.just, ·⟩), r.2)
  -- merging `Var` requires `a` and `b` to be identical
  | .var, .var | .var, .just | .just, .var =>
    let r := L.assertEq a.ty b.ty ctx
    ((r.1.mapError .ty).map fun _ => ⟨.var, a.ty⟩, r.2)
  -- `Var` and `Just` are lifted to `Const` otherwise
  | .const, .just | .const, .const | .const, .var | .just, .const | .var, .const =>
    let r := L.union a.ty b.ty explicit ctx
    ((r.1.mapError .ty).map (⟨.const, ·⟩), r.2)

/-- `S::assert_sub`. -/
def S.assertSub (a b : S Ty) (ctx : Ctx) : Except (CheckError Ty) Unit × Ctx :=
  match a.flex, b.flex with
  | _, .any => (.ok (), ctx)
  | _, .dynamic _ | .dynamic _, _ => (.ok (), ctx)
  | .just, _ | _, .const => lift (L.assertSub a.ty b.ty ctx)
  | .var, .var => lift (L.assertEq a.ty b.ty ctx)
  | _, _ => (.error (.notSub a b), ctx)

/-- `S::assert_eq`. -/
def S.assertEq (a b : S Ty) (ctx : Ctx) : Except (CheckError Ty) Unit × Ctx :=
  match a.flex, b.flex with
  | .any, .any => (.ok (), ctx)
  | _, .dynamic _ | .dynamic _, _ => (.ok (), ctx)
  | .just, .just | .const, .const | .var, .var => lift (L.assertEq a.ty b.ty ctx)
  | _, _ => (.error (.notEq a b), ctx)

/-! ## The slot lattice -/

@[simp] theorem map_mapError_eq_ok {α β : Type} {f : α → β} {r : Except String α} {c : β} :
    (r.mapError (@CheckError.ty Ty)).map f = .ok c ↔ ∃ z, r = .ok z ∧ f z = c := by
  rcases r with _ | z <;> simp [Except.map, Except.mapError]

variable {L}

theorem S.assertSub_any_right (a : S Ty) (t : Ty) (ctx : Ctx) :
    (S.assertSub L a ⟨.any, t⟩ ctx).1 = .ok () := by
  obtain ⟨_ | _ | _ | _ | _, _⟩ := a <;> rfl

theorem S.assertSub_dynamic_right (a : S Ty) (dyn : Dyn) (t : Ty) (ctx : Ctx) :
    (S.assertSub L a ⟨.dynamic dyn, t⟩ ctx).1 = .ok () := by
  obtain ⟨_ | _ | _ | _ | _, _⟩ := a <;> rfl

/-- A slot is below a `Const` slot when its type is below that slot's type. -/
theorem S.assertSub_const_right {a : S Ty} {t : Ty} {ctx : Ctx}
    (h : (L.assertSub a.ty t ctx).1 = .ok ()) : (S.assertSub L a ⟨.const, t⟩ ctx).1 = .ok () := by
  obtain ⟨_ | _ | _ | _ | _, _⟩ := a <;> simp_all [S.assertSub]

/-- A `Just` slot is below any slot whose type is above its own. -/
theorem S.assertSub_just_left {a b : S Ty} {ctx : Ctx} (ha : a.flex = .just)
    (h : (L.assertSub a.ty b.ty ctx).1 = .ok ()) : (S.assertSub L a b ctx).1 = .ok () := by
  obtain ⟨_, _⟩ := a
  obtain ⟨_ | _ | _ | _ | _, _⟩ := b <;> simp_all [S.assertSub]

/-- Under the equality laws every slot is below itself. -/
theorem S.assertSub_self (hE : L.EqLaws) (a : S Ty) (ctx : Ctx) :
    (S.assertSub L a a ctx).1 = .ok () := by
  obtain ⟨_ | _ | _ | _ | _, _⟩ := a <;> simp [S.assertSub, hE.sub_refl, hE.eq_refl]

/-- Under the equality laws every slot is equal to itself. -/
theorem S.assertEq_self (hE : L.EqLaws) (a : S Ty) (ctx : Ctx) :
    (S.assertEq L a a ctx).1 = .ok () := by
  obtain ⟨_ | _ | _ | _ | _, _⟩ := a <;> simp [S.assertEq, hE.eq_refl]

/-- Under the equality laws `S::assert_eq` is symmetric. -/
theorem S.assertEq_symm (hE : L.EqLaws) {a b : S Ty} {ctx : Ctx}
    (h : (S.assertEq L a b ctx).1 = .ok ()) : (S.assertEq L b a ctx).1 = .ok () := by
  obtain ⟨fa, _⟩ := a
  obtain ⟨fb, _⟩ := b
  cases fa <;> cases fb <;> simp [S.assertEq] at h ⊢ <;> exact hE.eq_symm _ _ _ h

/-- Under the equality laws a slot equal to another is below it. -/
theorem S.assertEq_sub (hE : L.EqLaws) {a b : S Ty} {ctx : Ctx}
    (h : (S.assertEq L a b ctx).1 = .ok ()) : (S.assertSub L a b ctx).1 = .ok () := by
  obtain ⟨fa, _⟩ := a
  obtain ⟨fb, _⟩ := b
  cases fa <;> cases fb <;> simp [S.assertEq, S.assertSub] at h ⊢ <;>
    first | exact h | exact hE.eq_sub _ _ _ h

/-- What `S::union` can return: a dynamic or an `Any` slot, a `Just` union of two `Just`s, the
left operand's type as `Var` after an equality check of two `Var`/`Just` slots, or a `Const`
union. -/
theorem S.union_cases {a b c : S Ty} {explicit : Bool} {ctx ctx' : Ctx}
    (h : S.union L a b explicit ctx = (.ok c, ctx')) :
    (∃ dyn, c.flex = .dynamic dyn) ∨ c.flex = .any ∨
      (a.flex = .just ∧ b.flex = .just ∧ c.flex = .just ∧
        (L.union a.ty b.ty explicit ctx).1 = .ok c.ty) ∨
      ((a.flex = .var ∨ a.flex = .just) ∧ (b.flex = .var ∨ b.flex = .just) ∧ c = ⟨.var, a.ty⟩ ∧
        (L.assertEq a.ty b.ty ctx).1 = .ok () ∧ ctx' = (L.assertEq a.ty b.ty ctx).2) ∨
      (c.flex = .const ∧ (L.union a.ty b.ty explicit ctx).1 = .ok c.ty) := by
  obtain ⟨fa, ta⟩ := a
  obtain ⟨fb, tb⟩ := b
  have h1 := congrArg Prod.fst h
  have h2 := congrArg Prod.snd h
  cases fa <;> cases fb <;> simp only [S.union, Except.ok.injEq, map_mapError_eq_ok] at h1 h2 <;>
    first
    | (subst h1; simp)
    | (obtain ⟨z, hz, rfl⟩ := h1; simp [hz, h2])

/-- **The slot union is above its left operand.** -/
theorem S.union_upper_left (hE : L.EqLaws) (hU : L.UnionUpper) {a b c : S Ty} {explicit : Bool}
    {ctx ctx' : Ctx} (h : S.union L a b explicit ctx = (.ok c, ctx')) (ctx'' : Ctx) :
    (S.assertSub L a c ctx'').1 = .ok () := by
  obtain ⟨cf, ct⟩ := c
  rcases S.union_cases h with
    ⟨dyn, rfl⟩ | rfl | ⟨ha, -, rfl, hu⟩ | ⟨ha, -, hc, -, -⟩ | ⟨rfl, hu⟩
  · exact S.assertSub_dynamic_right _ _ _ _
  · exact S.assertSub_any_right _ _ _
  · exact S.assertSub_just_left ha (hU _ _ _ _ _ hu _).1
  · obtain ⟨rfl, rfl⟩ := S.mk.inj hc
    obtain ⟨fa, ta⟩ := a
    rcases ha with rfl | rfl <;> simp [S.assertSub, hE.sub_refl, hE.eq_refl]
  · exact S.assertSub_const_right (hU _ _ _ _ _ hu _).1

/-- **The slot union is above its right operand**, in the context the union leaves: a `Var`
union took the left operand's type after checking it equal to the right one's there. -/
theorem S.union_upper_right (hE : L.EqLaws) (hS : L.EqStable) (hU : L.UnionUpper)
    {a b c : S Ty} {explicit : Bool} {ctx ctx' : Ctx}
    (h : S.union L a b explicit ctx = (.ok c, ctx')) : (S.assertSub L b c ctx').1 = .ok () := by
  obtain ⟨cf, ct⟩ := c
  rcases S.union_cases h with
    ⟨dyn, rfl⟩ | rfl | ⟨-, hb, rfl, hu⟩ | ⟨-, hb, hc, he, rfl⟩ | ⟨rfl, hu⟩
  · exact S.assertSub_dynamic_right _ _ _ _
  · exact S.assertSub_any_right _ _ _
  · exact S.assertSub_just_left hb (hU _ _ _ _ _ hu _).2
  · obtain ⟨rfl, rfl⟩ := S.mk.inj hc
    obtain ⟨fb, tb⟩ := b
    have hs := hE.eq_symm _ _ _ (hS _ _ _ he)
    rcases hb with rfl | rfl <;> simp [S.assertSub, hs, hE.eq_sub _ _ _ hs]
  · exact S.assertSub_const_right (hU _ _ _ _ _ hu _).2

/-! ## What an `Any` slot's retained type decides -/

/-- An `Any` slot on the left of a `Const` slot takes the `(_, F::Const)` arm of
`S::assert_sub`: it is checked by its retained type. -/
theorem S.assertSub_any_const (t u : Ty) (ctx : Ctx) :
    S.assertSub L ⟨.any, t⟩ ⟨.const, u⟩ ctx = lift (L.assertSub t u ctx) := rfl

/-- Everywhere else an `Any` slot's retained type decides nothing: two `Any` slots differing only
in it succeed or fail alike in `S::assert_sub` against a slot that is not `Const` and under any
slot, and in `S::assert_eq` and `S::union` in either order. -/
theorem S.any_ty_irrelevant (t₁ t₂ : Ty) (b : S Ty) (explicit : Bool) (ctx : Ctx) :
    (b.flex ≠ .const →
      (S.assertSub L ⟨.any, t₁⟩ b ctx).1.isOk = (S.assertSub L ⟨.any, t₂⟩ b ctx).1.isOk) ∧
    (S.assertSub L b ⟨.any, t₁⟩ ctx).1.isOk = (S.assertSub L b ⟨.any, t₂⟩ ctx).1.isOk ∧
    (S.assertEq L ⟨.any, t₁⟩ b ctx).1.isOk = (S.assertEq L ⟨.any, t₂⟩ b ctx).1.isOk ∧
    (S.assertEq L b ⟨.any, t₁⟩ ctx).1.isOk = (S.assertEq L b ⟨.any, t₂⟩ ctx).1.isOk ∧
    (S.union L ⟨.any, t₁⟩ b explicit ctx).1.isOk = (S.union L ⟨.any, t₂⟩ b explicit ctx).1.isOk ∧
    (S.union L b ⟨.any, t₁⟩ explicit ctx).1.isOk = (S.union L b ⟨.any, t₂⟩ explicit ctx).1.isOk := by
  obtain ⟨_ | _ | _ | _ | _, _⟩ := b <;>
    simp [S.assertSub, S.assertEq, S.union, Except.isOk, Except.toBool]

/-! ## A value layer to run the slot code on -/

/-- Value types to evaluate the slot code on, after `slot.rs`'s `test_sub`: `integer` below
`number`, and the placeholder `none` below both. -/
inductive SampleTy
  | none
  | integer
  | number
deriving DecidableEq, Repr

/-- The order of `SampleTy`. -/
def SampleTy.rank : SampleTy → Nat
  | .none => 0
  | .integer => 1
  | .number => 2

/-- The value layer over `SampleTy` with a trivial context: subtyping is the order, the union of
two types the larger, equality is identity. -/
def sampleLayer : TyLayer SampleTy Unit where
  union x y _ _ := (.ok (if x.rank ≤ y.rank then y else x), ())
  assertSub x y _ := (if x.rank ≤ y.rank then .ok () else .error "not a subtype", ())
  assertEq x y _ := (if x = y then .ok () else .error "not equal", ())
  filterByFlags x _ _ := (.ok x, ())
  withNil x := x
  withoutNil x := x
  dynamic _ := .number
  none := .none
  noneOrNil := .none
  dummy := .none
  dynUnion dyn _ := dyn

theorem sampleLayer_eqLaws : sampleLayer.EqLaws where
  eq_refl x _ := by simp [sampleLayer]
  eq_symm x y _ := by simp [sampleLayer, eq_comm]
  eq_sub x y _ h := by
    obtain rfl : x = y := by simpa [sampleLayer] using h
    simp [sampleLayer]
  sub_refl x _ := by simp [sampleLayer]

theorem sampleLayer_eqStable : sampleLayer.EqStable := fun _ _ _ h => h

theorem sampleLayer_unionUpper : sampleLayer.UnionUpper := by
  intro x y _ _ z h _
  simp only [sampleLayer, Except.ok.injEq] at h
  subst h
  constructor <;> simp only [sampleLayer] <;> split_ifs <;> first | rfl | omega

/-- `S::assert_sub` reads an `Any` slot's retained type: against a `Const integer` slot, an
`Any` slot retaining `integer` passes and one retaining `number` fails. -/
theorem assertSub_any_reads_ty :
    (S.assertSub sampleLayer ⟨.any, .integer⟩ ⟨.const, .integer⟩ ()).1 = .ok () ∧
      (S.assertSub sampleLayer ⟨.any, .number⟩ ⟨.const, .integer⟩ ()).1 ≠ .ok () :=
  ⟨rfl, fun h => nomatch h⟩

end Kailua.Check
