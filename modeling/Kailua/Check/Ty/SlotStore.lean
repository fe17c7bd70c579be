import Kailua.Check.Ty.Slot

/-!
# Slot cells: shared, aliased, updated in place

Model of the cell half of `kailua_check/src/ty/slot.rs` (lines 158-309): `Slot`, a handle to a
reference-counted, locked `S`, with `Slot::new`, `from`, `just`, `var`, `dummy`, `adapt`, `accept`,
`accept_in_place`, `filter_by_flags`, `with_nil`, `without_nil`, and the `Union` and `Lattice`
impls for `Slot`.

* The cells are a store `World.cells : Nat → S Ty` whose first `size` addresses are allocated;
  `Slot::new` allocates the next one. A `Slot` is the address of its cell, so handles alias when
  their addresses agree, and the pointer comparisons of `accept` and `union` compare addresses.
  The type context is part of the world.
* Locks are not modelled: an operation takes its locks, runs and releases them with no other
  operation in between. The identity checks before a second lock are kept as the code has them.
* `Op` is one slot operation with its arguments, `Op.step` runs it (keeping of its result only
  success or failure) and `Op.run` runs a list of them. Each value-type check inside is the
  layer's, so quantifying over layers and contexts covers every outcome of those checks.

Results:
* `Op.step_cellStep`: one operation changes an allocated cell only by promoting a `Just` flex to
  `Var` or `Const` (type kept), or, in `filter_by_flags` on that cell, by a new type (flex kept).
  `Op.run_cellRun` carries this over runs.
* **`slot_cells_invariants`**: over every run and every aliasing, a flex changes at most once, from
  `Just` to `Var` or `Const`; a type changes only in `filter_by_flags` on its cell; a failed
  operation changes no cell, except that a failed `filter_by_flags` leaves its cell's type at the
  placeholder; `union`, the two assertions and `with_nil` / `without_nil` change no cell.
* **`slot_union_upper`**: under the value-type laws, `Slot::union` (same-cell path included) is
  above both operands.
* **`accept_rejects`**: `accept` into a `Const` slot (not initialising) or an `Any` slot fails for
  every other slot; accepting a cell into itself succeeds and changes nothing.
-/

namespace Kailua.Check

/-- `Slot`: a handle to a shared cell, named by its address. -/
structure Slot where
  ptr : Nat
deriving DecidableEq, Repr

/-- The slot cells, the number allocated, and the type context. -/
structure World (Ty Ctx : Type) where
  cells : Nat → S Ty
  size : Nat
  ctx : Ctx

variable {Ty Ctx : Type}

/-- A slot's contents. -/
def World.get (w : World Ty Ctx) (h : Slot) : S Ty := w.cells h.ptr

/-- Overwrite a slot's contents. -/
def World.set (w : World Ty Ctx) (h : Slot) (s : S Ty) : World Ty Ctx :=
  { w with cells := Function.update w.cells h.ptr s }

/-- A fresh cell holding `s` (`Arc::new(RwLock::new(s))`). -/
def World.alloc (w : World Ty Ctx) (s : S Ty) : Slot × World Ty Ctx :=
  (⟨w.size⟩, { w with cells := Function.update w.cells w.size s, size := w.size + 1 })

/-- Run a value-type check on the world's context. -/
def World.check {α : Type} (w : World Ty Ctx) (r : Except String α × Ctx) :
    Except (CheckError Ty) α × World Ty Ctx :=
  (r.1.mapError .ty, { w with ctx := r.2 })

variable (L : TyLayer Ty Ctx)

/-! ## The operations -/

/-- `Slot::new`. -/
def Slot.new (flex : F) (ty : Ty) (w : World Ty Ctx) : Slot × World Ty Ctx := w.alloc ⟨flex, ty⟩

/-- `Slot::from`. -/
def Slot.from (s : S Ty) (w : World Ty Ctx) : Slot × World Ty Ctx := w.alloc s

/-- `Slot::just`. -/
def Slot.just (t : Ty) (w : World Ty Ctx) : Slot × World Ty Ctx := Slot.new .just t w

/-- `Slot::var`. -/
def Slot.var (t : Ty) (w : World Ty Ctx) : Slot × World Ty Ctx := Slot.new .var t w

/-- `Slot::dummy`. -/
def Slot.dummy (w : World Ty Ctx) : Slot × World Ty Ctx := Slot.new (.dynamic .oops) L.dummy w

/-- `Slot::adapt`: assigning to `self` through a parent of flexibility `flex` makes a `Just` slot
`Const` or `Var`; any other slot is left alone. -/
def Slot.adapt (self : Slot) (flex : F) (w : World Ty Ctx) : World Ty Ctx :=
  let slot := w.get self
  if slot.flex = .just then
    w.set self { slot with
      flex := match flex with
        | .const | .var => flex
        | _ => .just }
  else w

/-- `Slot::accept`: assign `rhs` to `self`; `init` marks the first, lax assignment. -/
def Slot.accept (self rhs : Slot) (init : Bool) (w : World Ty Ctx) :
    Except (CheckError Ty) Unit × World Ty Ctx :=
  -- accepting itself is always fine and has no effect
  if self = rhs then (.ok (), w)
  else
    let lhs := w.get self
    let rhs := w.get rhs
    match lhs.flex, rhs.flex, init with
    | .dynamic _, _, _ => (.ok (), w)
    | _, .any, _ | .any, _, _ | .const, _, false => (.error (.cannotAssign rhs lhs), w)
    | _, .dynamic _, _ => (.ok (), w)
    -- as long as the type is in agreement, `Var` can be assigned
    | .var, _, _ => w.check (L.assertSub rhs.ty lhs.ty w.ctx)
    -- assignment to a `Const` slot is for initialization only
    | .const, _, true => w.check (L.assertSub rhs.ty lhs.ty w.ctx)
    -- `Just` becomes `Var` when assignment happens
    | .just, _, _ =>
      let r := w.check (L.assertSub rhs.ty lhs.ty w.ctx)
      match r.1 with
      | .error e => (.error e, r.2)
      | .ok () => (.ok (), r.2.set self { lhs with flex := .var })

/-- `Slot::accept_in_place`: modify `self` in place with a value of the same kind. -/
def Slot.acceptInPlace (self : Slot) (w : World Ty Ctx) :
    Except (CheckError Ty) Unit × World Ty Ctx :=
  let s := w.get self
  match s.flex with
  | .dynamic _ => (.ok (), w)
  | .any | .const => (.error (.cannotUpdate s), w)
  | .var => (.ok (), w)
  | .just => (.ok (), w.set self { s with flex := .var })

/-- `Slot::filter_by_flags`: the type is replaced by the `None`-or-nil placeholder while it is
filtered, and stays so when filtering fails. -/
def Slot.filterByFlags (self : Slot) (flags : Flags) (w : World Ty Ctx) :
    Except (CheckError Ty) Unit × World Ty Ctx :=
  let s := w.get self
  let w := w.set self { s with ty := L.noneOrNil }
  let r := w.check (L.filterByFlags s.ty flags w.ctx)
  match r.1 with
  | .error e => (.error e, r.2)
  | .ok t => (.ok (), r.2.set self { s with ty := t })

/-- `Union for Slot`: the same cell gives itself back before any lock is taken; otherwise the
union of the two contents in a fresh cell. -/
def Slot.union (self other : Slot) (explicit : Bool) (w : World Ty Ctx) :
    Except (CheckError Ty) Slot × World Ty Ctx :=
  if self = other then (.ok self, w)
  else
    let r := S.union L (w.get self) (w.get other) explicit w.ctx
    let w := { w with ctx := r.2 }
    match r.1 with
    | .error e => (.error e, w)
    | .ok s => (.ok (w.alloc s).1, (w.alloc s).2)

/-- `Lattice for Slot`: `assert_sub`. -/
def Slot.assertSub (self other : Slot) (w : World Ty Ctx) :
    Except (CheckError Ty) Unit × World Ty Ctx :=
  let r := S.assertSub L (w.get self) (w.get other) w.ctx
  (r.1, { w with ctx := r.2 })

/-- `Lattice for Slot`: `assert_eq`. -/
def Slot.assertEq (self other : Slot) (w : World Ty Ctx) :
    Except (CheckError Ty) Unit × World Ty Ctx :=
  let r := S.assertEq L (w.get self) (w.get other) w.ctx
  (r.1, { w with ctx := r.2 })

/-- `Slot::with_nil`: a fresh cell. -/
def Slot.withNil (self : Slot) (w : World Ty Ctx) : Slot × World Ty Ctx :=
  w.alloc ((w.get self).withNil L)

/-- `Slot::without_nil`: a fresh cell. -/
def Slot.withoutNil (self : Slot) (w : World Ty Ctx) : Slot × World Ty Ctx :=
  w.alloc ((w.get self).withoutNil L)

/-- One slot operation and its arguments. -/
inductive Op (Ty : Type)
  | new (flex : F) (ty : Ty)
  | «from» (s : S Ty)
  | just (ty : Ty)
  | var (ty : Ty)
  | dummy
  | adapt (self : Slot) (flex : F)
  | accept (self rhs : Slot) (init : Bool)
  | acceptInPlace (self : Slot)
  | filterByFlags (self : Slot) (flags : Flags)
  | union (self other : Slot) (explicit : Bool)
  | assertSub (self other : Slot)
  | assertEq (self other : Slot)
  | withNil (self : Slot)
  | withoutNil (self : Slot)

/-- Run one operation: its success or failure, and the world it leaves. -/
def Op.step : Op Ty → World Ty Ctx → Except (CheckError Ty) Unit × World Ty Ctx
  | .new flex ty, w => (.ok (), (Slot.new flex ty w).2)
  | .from s, w => (.ok (), (Slot.from s w).2)
  | .just ty, w => (.ok (), (Slot.just ty w).2)
  | .var ty, w => (.ok (), (Slot.var ty w).2)
  | .dummy, w => (.ok (), (Slot.dummy L w).2)
  | .adapt self flex, w => (.ok (), Slot.adapt self flex w)
  | .accept self rhs init, w => Slot.accept L self rhs init w
  | .acceptInPlace self, w => Slot.acceptInPlace self w
  | .filterByFlags self flags, w => Slot.filterByFlags L self flags w
  | .union self other explicit, w =>
    let r := Slot.union L self other explicit w
    (r.1.map fun _ => (), r.2)
  | .assertSub self other, w => Slot.assertSub L self other w
  | .assertEq self other, w => Slot.assertEq L self other w
  | .withNil self, w => (.ok (), (Slot.withNil L self w).2)
  | .withoutNil self, w => (.ok (), (Slot.withoutNil L self w).2)

/-- Run operations in order, each on the world the previous one left. -/
def Op.run : List (Op Ty) → World Ty Ctx → World Ty Ctx
  | [], w => w
  | op :: ops, w => Op.run ops (op.step L w).2

/-- Whether an operation is `filter_by_flags` on the cell at `h`. -/
def Op.filters : Op Ty → Nat → Bool
  | .filterByFlags self _, h => self.ptr == h
  | _, _ => false

/-- The operations that only read existing cells. -/
def Op.ReadOnly : Op Ty → Prop
  | .union .. | .assertSub .. | .assertEq .. | .withNil .. | .withoutNil .. => True
  | _ => False

/-! ## The store -/

variable {L}

@[simp] theorem World.set_cells (w : World Ty Ctx) (h : Slot) (s : S Ty) (i : Nat) :
    (w.set h s).cells i = if i = h.ptr then s else w.cells i :=
  Function.update_apply _ _ _ _

@[simp] theorem World.set_size (w : World Ty Ctx) (h : Slot) (s : S Ty) :
    (w.set h s).size = w.size := rfl

@[simp] theorem World.alloc_size (w : World Ty Ctx) (s : S Ty) :
    (w.alloc s).2.size = w.size + 1 := rfl

theorem World.alloc_cells_lt {w : World Ty Ctx} {s : S Ty} {i : Nat} (hi : i < w.size) :
    (w.alloc s).2.cells i = w.cells i :=
  Function.update_noteq (Nat.ne_of_lt hi) _ _

@[simp] theorem World.alloc_get (w : World Ty Ctx) (s : S Ty) :
    (w.alloc s).2.get (w.alloc s).1 = s :=
  Function.update_same _ _ _

theorem World.alloc_get_of_ne {w : World Ty Ctx} {s : S Ty} {h : Slot} (hh : h.ptr ≠ w.size) :
    (w.alloc s).2.get h = w.get h :=
  Function.update_noteq hh _ _

@[simp] theorem World.check_cells {α : Type} (w : World Ty Ctx) (r : Except String α × Ctx) :
    (w.check r).2.cells = w.cells := rfl

@[simp] theorem World.check_size {α : Type} (w : World Ty Ctx) (r : Except String α × Ctx) :
    (w.check r).2.size = w.size := rfl

/-! ## What each operation does to the cells -/

theorem S.with_flex_self {s : S Ty} {f : F} (h : s.flex = f) : { s with flex := f } = s := by
  cases s
  simp_all

/-- `adapt` changes at most the flex of `self`, from `Just` to `Var` or `Const`. -/
theorem Slot.adapt_cases (self : Slot) (flex : F) (w : World Ty Ctx) :
    (Slot.adapt self flex w).cells = w.cells ∨
      ((w.get self).flex = .just ∧ (flex = .var ∨ flex = .const) ∧
        (Slot.adapt self flex w).cells = Function.update w.cells self.ptr { w.get self with flex }) := by
  unfold Slot.adapt
  dsimp only
  split_ifs with hj
  · cases flex with
    | const => exact .inr ⟨hj, .inr rfl, rfl⟩
    | var => exact .inr ⟨hj, .inl rfl, rfl⟩
    | _ =>
      left
      simp only [World.set, S.with_flex_self hj]
      exact Function.update_eq_self _ _
  · exact .inl rfl

/-- `accept` changes at most the flex of `self`, from `Just` to `Var`, and only on success. -/
theorem Slot.accept_cases (self rhs : Slot) (init : Bool) (w : World Ty Ctx) :
    (Slot.accept L self rhs init w).2.cells = w.cells ∨
      ((Slot.accept L self rhs init w).1 = .ok () ∧ (w.get self).flex = .just ∧
        (Slot.accept L self rhs init w).2.cells =
          Function.update w.cells self.ptr { w.get self with flex := .var }) := by
  unfold Slot.accept
  split_ifs
  · exact .inl rfl
  · dsimp only
    split <;> try exact .inl rfl
    split
    · exact .inl rfl
    · exact .inr ⟨rfl, ‹_›, rfl⟩

/-- `accept_in_place` changes at most the flex of `self`, from `Just` to `Var`, on success. -/
theorem Slot.acceptInPlace_cases (self : Slot) (w : World Ty Ctx) :
    (Slot.acceptInPlace self w).2.cells = w.cells ∨
      ((Slot.acceptInPlace self w).1 = .ok () ∧ (w.get self).flex = .just ∧
        (Slot.acceptInPlace self w).2.cells =
          Function.update w.cells self.ptr { w.get self with flex := .var }) := by
  unfold Slot.acceptInPlace
  dsimp only
  split <;> simp_all [World.set]

/-- `filter_by_flags` changes at most the type of `self`; on failure it is the placeholder. -/
theorem Slot.filterByFlags_cases (self : Slot) (flags : Flags) (w : World Ty Ctx) :
    ∃ t, (Slot.filterByFlags L self flags w).2.cells =
        Function.update w.cells self.ptr { w.get self with ty := t } ∧
      ((Slot.filterByFlags L self flags w).1 ≠ .ok () → t = L.noneOrNil) := by
  unfold Slot.filterByFlags
  dsimp only
  split
  · exact ⟨_, rfl, fun _ => rfl⟩
  · rename_i t _
    exact ⟨t, by simp [World.set, World.check, Function.update_idem], fun h => absurd rfl h⟩

/-- `Slot::union` changes no cell; it may allocate one, and on failure it allocates none. -/
theorem Slot.union_cases (self other : Slot) (explicit : Bool) (w : World Ty Ctx) :
    ((Slot.union L self other explicit w).2.cells = w.cells ∧
        (Slot.union L self other explicit w).2.size = w.size) ∨
      (∃ s, (Slot.union L self other explicit w).1 = .ok ⟨w.size⟩ ∧
        (Slot.union L self other explicit w).2.size = w.size + 1 ∧
        (Slot.union L self other explicit w).2.cells = Function.update w.cells w.size s) := by
  unfold Slot.union
  split_ifs
  · exact .inl ⟨rfl, rfl⟩
  · dsimp only
    split
    · exact .inl ⟨rfl, rfl⟩
    · exact .inr ⟨_, rfl, rfl, rfl⟩

@[simp] theorem Slot.adapt_size (self : Slot) (flex : F) (w : World Ty Ctx) :
    (Slot.adapt self flex w).size = w.size := by
  unfold Slot.adapt
  dsimp only
  split_ifs <;> rfl

@[simp] theorem Slot.accept_size (self rhs : Slot) (init : Bool) (w : World Ty Ctx) :
    (Slot.accept L self rhs init w).2.size = w.size := by
  unfold Slot.accept
  split_ifs
  · rfl
  · dsimp only
    split <;> try rfl
    split <;> rfl

@[simp] theorem Slot.acceptInPlace_size (self : Slot) (w : World Ty Ctx) :
    (Slot.acceptInPlace self w).2.size = w.size := by
  unfold Slot.acceptInPlace
  dsimp only
  split <;> rfl

@[simp] theorem Slot.filterByFlags_size (self : Slot) (flags : Flags) (w : World Ty Ctx) :
    (Slot.filterByFlags L self flags w).2.size = w.size := by
  unfold Slot.filterByFlags
  dsimp only
  split <;> rfl

/-! ## One operation, and a run of them -/

/-- How one operation may change a cell: not at all; by promoting a `Just` flex to `Var` or
`Const`, type kept; or, when the operation filters this cell, by a new type, flex kept. -/
def CellStep (filters : Bool) (c c' : S Ty) : Prop :=
  c' = c ∨ (c.flex = .just ∧ (c'.flex = .var ∨ c'.flex = .const) ∧ c'.ty = c.ty) ∨
    (filters = true ∧ c'.flex = c.flex)

theorem cellStep_update_flex {cells : Nat → S Ty} {p : Nat} {f : F} (hj : (cells p).flex = .just)
    (hf : f = .var ∨ f = .const) (b : Bool) (i : Nat) :
    CellStep b (cells i) (Function.update cells p { cells p with flex := f } i) := by
  by_cases hi : i = p
  · subst hi
    exact .inr (.inl ⟨hj, by simpa using hf, by simp⟩)
  · exact .inl (Function.update_noteq hi _ _)

theorem cellStep_update_ty (cells : Nat → S Ty) {p : Nat} (t : Ty) (i : Nat) :
    CellStep (p == i) (cells i) (Function.update cells p { cells p with ty := t } i) := by
  by_cases hi : i = p
  · subst hi
    exact .inr (.inr ⟨by simp, by simp⟩)
  · exact .inl (Function.update_noteq hi _ _)

/-- **One operation**: the allocated cells stay allocated, and each changes only as `CellStep`
allows. -/
theorem Op.step_cellStep (op : Op Ty) (w : World Ty Ctx) :
    w.size ≤ (op.step L w).2.size ∧
      ∀ i < w.size, CellStep (op.filters i) (w.cells i) ((op.step L w).2.cells i) := by
  cases op with
  | adapt self flex =>
    refine ⟨by simp [Op.step], fun i _ => ?_⟩
    rcases Slot.adapt_cases self flex w with h | ⟨hj, hf, h⟩
    · exact .inl (congrFun h i)
    · simpa [Op.step, h] using cellStep_update_flex hj hf false i
  | accept self rhs init =>
    refine ⟨by simp [Op.step], fun i _ => ?_⟩
    rcases Slot.accept_cases (L := L) self rhs init w with h | ⟨-, hj, h⟩
    · exact .inl (congrFun h i)
    · simpa [Op.step, h] using cellStep_update_flex hj (.inl rfl) false i
  | acceptInPlace self =>
    refine ⟨by simp [Op.step], fun i _ => ?_⟩
    rcases Slot.acceptInPlace_cases self w with h | ⟨-, hj, h⟩
    · exact .inl (congrFun h i)
    · simpa [Op.step, h] using cellStep_update_flex hj (.inl rfl) false i
  | filterByFlags self flags =>
    refine ⟨by simp [Op.step], fun i _ => ?_⟩
    obtain ⟨t, h, -⟩ := Slot.filterByFlags_cases (L := L) self flags w
    simpa [Op.step, Op.filters, h] using cellStep_update_ty w.cells t i
  | union self other explicit =>
    rcases Slot.union_cases (L := L) self other explicit w with ⟨h, hs⟩ | ⟨s, -, hs, h⟩
    · exact ⟨by simp only [Op.step, hs]; exact le_rfl, fun i _ => .inl (by simp only [Op.step, h])⟩
    · exact ⟨by simp only [Op.step, hs]; exact Nat.le_succ _, fun i hi =>
        .inl (by simp only [Op.step, h, Function.update_noteq (Nat.ne_of_lt hi)])⟩
  | assertSub | assertEq => exact ⟨le_rfl, fun i _ => .inl rfl⟩
  | _ => exact ⟨by simp [Op.step, Slot.new, Slot.from, Slot.just, Slot.var, Slot.dummy,
      Slot.withNil, Slot.withoutNil], fun i hi => .inl (World.alloc_cells_lt hi)⟩

/-- How a run may change a cell: its flex stays or goes from `Just` to `Var` or `Const`, and
its type stays unless the run filters the cell. -/
def CellRun (filtered : Bool) (c c' : S Ty) : Prop :=
  (c'.flex = c.flex ∨ (c.flex = .just ∧ (c'.flex = .var ∨ c'.flex = .const))) ∧
    (filtered = false → c'.ty = c.ty)

theorem CellStep.cellRun {b : Bool} {c c' : S Ty} : CellStep b c c' → CellRun b c c'
  | .inl h => by subst h; exact ⟨.inl rfl, fun _ => rfl⟩
  | .inr (.inl ⟨hj, hf, ht⟩) => ⟨.inr ⟨hj, hf⟩, fun _ => ht⟩
  | .inr (.inr ⟨hb, hf⟩) => ⟨.inl hf, fun h => absurd hb (by simp [h])⟩

theorem CellRun.trans {b₁ b₂ : Bool} {c c' c'' : S Ty} (h₁ : CellRun b₁ c c')
    (h₂ : CellRun b₂ c' c'') : CellRun (b₁ || b₂) c c'' := by
  obtain ⟨f₁, t₁⟩ := h₁
  obtain ⟨f₂, t₂⟩ := h₂
  refine ⟨?_, fun h => ?_⟩
  · rcases f₁ with f₁ | ⟨hj, f₁⟩ <;> rcases f₂ with f₂ | ⟨hj', f₂⟩
    · exact .inl (f₂.trans f₁)
    · exact .inr ⟨f₁ ▸ hj', f₂⟩
    · exact .inr ⟨hj, f₂ ▸ f₁⟩
    · rcases f₁ with f₁ | f₁ <;> simp [f₁] at hj'
  · simp only [Bool.or_eq_false_iff] at h
    exact (t₂ h.2).trans (t₁ h.1)

/-- **A run**: the allocated cells stay allocated, and each changes only as `CellRun` allows. -/
theorem Op.run_cellRun : ∀ (ops : List (Op Ty)) (w : World Ty Ctx),
    w.size ≤ (Op.run L ops w).size ∧
      ∀ i < w.size, CellRun (ops.any (·.filters i)) (w.cells i) ((Op.run L ops w).cells i)
  | [], w => ⟨le_rfl, fun _ _ => ⟨.inl rfl, fun _ => rfl⟩⟩
  | op :: ops, w => by
    obtain ⟨hs, hc⟩ := op.step_cellStep (L := L) w
    obtain ⟨hs', hc'⟩ := Op.run_cellRun ops (op.step L w).2
    exact ⟨hs.trans hs', fun i hi => ((hc i hi).cellRun.trans (hc' i (by omega)))⟩

/-- A failed operation other than `filter_by_flags` changes no cell and allocates none. -/
theorem Op.step_error_frame {op : Op Ty} {w : World Ty Ctx} {e : CheckError Ty}
    (hf : ∀ self flags, op ≠ .filterByFlags self flags) (he : (op.step L w).1 = .error e) :
    (op.step L w).2.cells = w.cells ∧ (op.step L w).2.size = w.size := by
  cases op with
  | accept self rhs init =>
    refine ⟨?_, by simp [Op.step]⟩
    rcases Slot.accept_cases (L := L) self rhs init w with h | ⟨ho, -⟩
    · exact h
    · simp [Op.step, ho] at he
  | acceptInPlace self =>
    refine ⟨?_, by simp [Op.step]⟩
    rcases Slot.acceptInPlace_cases self w with h | ⟨ho, -⟩
    · exact h
    · simp [Op.step, ho] at he
  | filterByFlags self flags => exact absurd rfl (hf self flags)
  | union self other explicit =>
    rcases Slot.union_cases (L := L) self other explicit w with h | ⟨s, ho, -⟩
    · exact h
    · simp [Op.step, ho, Except.map] at he
  | assertSub | assertEq => exact ⟨rfl, rfl⟩
  | _ => simp [Op.step] at he

/-- A failed `filter_by_flags` leaves its cell's flex, with the placeholder type. -/
theorem Op.filterByFlags_error {self : Slot} {flags : Flags} {w : World Ty Ctx}
    {e : CheckError Ty} (he : ((Op.filterByFlags self flags).step L w).1 = .error e) :
    ((Op.filterByFlags self flags).step L w).2.size = w.size ∧
      ((Op.filterByFlags self flags).step L w).2.cells =
        Function.update w.cells self.ptr ⟨(w.get self).flex, L.noneOrNil⟩ := by
  obtain ⟨t, h, ht⟩ := Slot.filterByFlags_cases (L := L) self flags w
  have hne : (Slot.filterByFlags L self flags w).1 ≠ .ok () := by
    simp only [Op.step] at he
    simp [he]
  exact ⟨Slot.filterByFlags_size self flags w, by rw [Op.step, h, ht hne]⟩

/-- `union`, `assert_sub`, `assert_eq`, `with_nil` and `without_nil` change no existing cell. -/
theorem Op.readOnly_frame {op : Op Ty} (hr : op.ReadOnly) (w : World Ty Ctx) {i : Nat}
    (hi : i < w.size) : (op.step L w).2.cells i = w.cells i := by
  cases op with
  | union self other explicit =>
    rcases Slot.union_cases (L := L) self other explicit w with ⟨h, -⟩ | ⟨s, -, -, h⟩
    · simp only [Op.step, h]
    · simp only [Op.step, h, Function.update_noteq (Nat.ne_of_lt hi)]
  | assertSub | assertEq => rfl
  | withNil | withoutNil => exact World.alloc_cells_lt hi
  | _ => exact hr.elim

/-- **The slot cells over every run.** For every value-type layer (so every outcome of the
value-type checks), every list of slot operations with any aliasing among their handles, and
every allocated cell:
1. its flex stays, or goes from `Just` to `Var` or `Const`; a flex other than `Just` stays;
2. it changes at most once: a cell whose flex a run changed keeps it through any further run;
3. its type stays through a run that does not `filter_by_flags` it;
4. a failed operation other than `filter_by_flags` changes no cell and allocates none; a failed
   `filter_by_flags` only sets its cell's type to the `None`-or-nil placeholder;
5. `union`, `assert_sub`, `assert_eq`, `with_nil` and `without_nil` change no existing cell. -/
theorem slot_cells_invariants (L : TyLayer Ty Ctx) :
    (∀ (ops : List (Op Ty)) (w : World Ty Ctx) (i : Nat), i < w.size →
      (((Op.run L ops w).cells i).flex = (w.cells i).flex ∨
        ((w.cells i).flex = .just ∧
          (((Op.run L ops w).cells i).flex = .var ∨ ((Op.run L ops w).cells i).flex = .const))) ∧
      ((w.cells i).flex ≠ .just → ((Op.run L ops w).cells i).flex = (w.cells i).flex)) ∧
    (∀ (ops₁ ops₂ : List (Op Ty)) (w : World Ty Ctx) (i : Nat), i < w.size →
      ((Op.run L ops₁ w).cells i).flex ≠ (w.cells i).flex →
      ((Op.run L ops₂ (Op.run L ops₁ w)).cells i).flex = ((Op.run L ops₁ w).cells i).flex) ∧
    (∀ (ops : List (Op Ty)) (w : World Ty Ctx) (i : Nat), i < w.size →
      (∀ op ∈ ops, op.filters i = false) → ((Op.run L ops w).cells i).ty = (w.cells i).ty) ∧
    (∀ (op : Op Ty) (w : World Ty Ctx) (e : CheckError Ty),
      (∀ self flags, op ≠ .filterByFlags self flags) → (op.step L w).1 = .error e →
      (op.step L w).2.cells = w.cells ∧ (op.step L w).2.size = w.size) ∧
    (∀ (self : Slot) (flags : Flags) (w : World Ty Ctx) (e : CheckError Ty),
      ((Op.filterByFlags self flags).step L w).1 = .error e →
      ((Op.filterByFlags self flags).step L w).2.size = w.size ∧
      ((Op.filterByFlags self flags).step L w).2.cells =
        Function.update w.cells self.ptr ⟨(w.get self).flex, L.noneOrNil⟩) ∧
    (∀ (op : Op Ty) (w : World Ty Ctx), op.ReadOnly → ∀ i < w.size,
      (op.step L w).2.cells i = w.cells i) := by
  have flex_run := fun (ops : List (Op Ty)) (w : World Ty Ctx) (i : Nat) (hi : i < w.size) =>
    ((Op.run_cellRun (L := L) ops w).2 i hi).1
  have keep : ∀ (ops : List (Op Ty)) (w : World Ty Ctx) (i : Nat), i < w.size →
      (w.cells i).flex ≠ .just → ((Op.run L ops w).cells i).flex = (w.cells i).flex :=
    fun ops w i hi hj => (flex_run ops w i hi).resolve_right fun h => hj h.1
  refine ⟨fun ops w i hi => ⟨flex_run ops w i hi, keep ops w i hi⟩, ?_, ?_,
    fun _ _ _ hf he => Op.step_error_frame hf he, fun _ _ _ _ he => Op.filterByFlags_error he,
    fun _ w hr _ hi => Op.readOnly_frame hr w hi⟩
  · intro ops₁ ops₂ w i hi hc
    have hj : ((Op.run L ops₁ w).cells i).flex ≠ .just := by
      rcases (flex_run ops₁ w i hi).resolve_left hc with ⟨-, h | h⟩ <;> simp [h]
    exact keep ops₂ _ i (lt_of_lt_of_le hi (Op.run_cellRun ops₁ w).1) hj
  · intro ops w i hi hf
    exact ((Op.run_cellRun ops w).2 i hi).2 (List.any_eq_false.mpr fun op h => by simp [hf op h])

/-- Two cells to run the slot operations on: `Const integer` at `0`, `Just integer` at `1`. -/
def sampleWorld : World SampleTy Unit :=
  ⟨fun i => if i = 0 then ⟨.const, .integer⟩ else ⟨.just, .integer⟩, 2, ()⟩

/-- Accepting cell `0` into the `Just` cell `1` promotes it to `Var`; its type stays. -/
theorem slot_cells_invariants_accept :
    let w' := Op.run sampleLayer [.accept ⟨1⟩ ⟨0⟩ false] sampleWorld
    ((w'.cells 1).flex = (sampleWorld.cells 1).flex ∨
      ((sampleWorld.cells 1).flex = .just ∧ ((w'.cells 1).flex = .var ∨ (w'.cells 1).flex = .const))) ∧
      (w'.cells 1).ty = (sampleWorld.cells 1).ty :=
  ⟨((slot_cells_invariants sampleLayer).1 _ _ 1 (by decide)).1,
    (slot_cells_invariants sampleLayer).2.2.1 _ _ 1 (by decide) (by decide)⟩

/-! ## The slot lattice on cells -/

/-- A slot is below a fresh cell holding `s` when its contents are below `s`. -/
theorem Slot.assertSub_alloc (hE : L.EqLaws) {v : World Ty Ctx} {s : S Ty} {x : Slot}
    (hx : (S.assertSub L (v.get x) s v.ctx).1 = .ok ()) :
    (Slot.assertSub L x (v.alloc s).1 (v.alloc s).2).1 = .ok () := by
  simp only [Slot.assertSub, World.alloc_get]
  by_cases hp : x.ptr = v.size
  · rw [show (v.alloc s).2.get x = s by simp [World.get, World.alloc, hp]]
    exact S.assertSub_self hE _ _
  · rw [World.alloc_get_of_ne hp]
    exact hx

/-- **The slot union is an upper bound of its operands.** Under the value-type laws (the
equality laws within each context, a successful `assert_eq` holding again in the context it
leaves, a value-type union above its operands), when `Slot::union(a, b)` returns `c` (also
through its same-cell path), both `a.assert_sub(c)` and `b.assert_sub(c)` succeed right after,
whatever the aliasing of `a` and `b`. -/
theorem slot_union_upper (hE : L.EqLaws) (hS : L.EqStable) (hU : L.UnionUpper) {a b c : Slot}
    {explicit : Bool} {w w' : World Ty Ctx} (h : Slot.union L a b explicit w = (.ok c, w')) :
    (Slot.assertSub L a c w').1 = .ok () ∧ (Slot.assertSub L b c w').1 = .ok () := by
  unfold Slot.union at h
  split_ifs at h with hab
  · obtain ⟨hc, rfl⟩ := Prod.mk.inj h
    cases hc
    subst hab
    exact ⟨S.assertSub_self hE _ _, S.assertSub_self hE _ _⟩
  · dsimp only at h
    split at h
    · cases (Prod.mk.inj h).1
    · rename_i s hs
      obtain ⟨hc, rfl⟩ := Prod.mk.inj h
      cases hc
      have hu : S.union L (w.get a) (w.get b) explicit w.ctx = (.ok s, _) := Prod.ext hs rfl
      exact ⟨Slot.assertSub_alloc hE (S.union_upper_left hE hU hu _),
        Slot.assertSub_alloc hE (S.union_upper_right hE hS hU hu)⟩

/-- The union of the `Const integer` and `Just integer` cells is above both. -/
theorem slot_union_upper_sample :
    let r := Slot.union sampleLayer ⟨0⟩ ⟨1⟩ false sampleWorld
    (Slot.assertSub sampleLayer ⟨0⟩ ⟨2⟩ r.2).1 = .ok () ∧
      (Slot.assertSub sampleLayer ⟨1⟩ ⟨2⟩ r.2).1 = .ok () :=
  slot_union_upper sampleLayer_eqLaws sampleLayer_eqStable sampleLayer_unionUpper
    (Prod.ext rfl rfl : Slot.union sampleLayer ⟨0⟩ ⟨1⟩ false sampleWorld = (.ok ⟨2⟩, _))

/-- **Slot equality laws.** Under the value-type equality laws, which need hold only within each
context, for all slots `a` and `b` of any world, aliased or not, each checked in the world's
context: `a.assert_eq(b)` succeeds iff `b.assert_eq(a)` does; when it does, `a.assert_sub(b)`
and `b.assert_sub(a)` both succeed; and `a.assert_sub(a)` and `a.assert_eq(a)` always
succeed. -/
theorem slot_eq_laws (hE : L.EqLaws) (w : World Ty Ctx) (a b : Slot) :
    ((Slot.assertEq L a b w).1 = .ok () ↔ (Slot.assertEq L b a w).1 = .ok ()) ∧
      ((Slot.assertEq L a b w).1 = .ok () →
        (Slot.assertSub L a b w).1 = .ok () ∧ (Slot.assertSub L b a w).1 = .ok ()) ∧
      (Slot.assertSub L a a w).1 = .ok () ∧ (Slot.assertEq L a a w).1 = .ok () :=
  ⟨⟨S.assertEq_symm hE, S.assertEq_symm hE⟩,
    fun h => ⟨S.assertEq_sub hE h, S.assertEq_sub hE
      (S.assertEq_symm hE h : (S.assertEq L (w.get b) (w.get a) w.ctx).1 = .ok ())⟩,
    S.assertSub_self hE _ _, S.assertEq_self hE _ _⟩

/-- The `Const integer` and `Just integer` cells are equal neither way, and each is equal to
itself. -/
theorem slot_eq_laws_sample :
    ((Slot.assertEq sampleLayer ⟨0⟩ ⟨1⟩ sampleWorld).1 = .ok () ↔
        (Slot.assertEq sampleLayer ⟨1⟩ ⟨0⟩ sampleWorld).1 = .ok ()) ∧
      ((Slot.assertEq sampleLayer ⟨0⟩ ⟨1⟩ sampleWorld).1 = .ok () →
        (Slot.assertSub sampleLayer ⟨0⟩ ⟨1⟩ sampleWorld).1 = .ok () ∧
          (Slot.assertSub sampleLayer ⟨1⟩ ⟨0⟩ sampleWorld).1 = .ok ()) ∧
      (Slot.assertSub sampleLayer ⟨0⟩ ⟨0⟩ sampleWorld).1 = .ok () ∧
      (Slot.assertEq sampleLayer ⟨0⟩ ⟨0⟩ sampleWorld).1 = .ok () :=
  slot_eq_laws sampleLayer_eqLaws sampleWorld ⟨0⟩ ⟨1⟩

/-! ## `accept` into `Const` and `Any` slots -/

/-- **`accept` into a `Const` or an `Any` slot.** Accepting any other slot into a `Const` slot
without `init`, or into an `Any` slot, fails with `impossible to assign` and changes nothing;
accepting a cell into itself succeeds and changes nothing, whatever its flex. -/
theorem accept_rejects (w : World Ty Ctx) (c r : Slot) (init : Bool) :
    (c ≠ r → (w.get c).flex = .const → init = false →
      Slot.accept L c r init w = (.error (.cannotAssign (w.get r) (w.get c)), w)) ∧
    (c ≠ r → (w.get c).flex = .any →
      Slot.accept L c r init w = (.error (.cannotAssign (w.get r) (w.get c)), w)) ∧
    Slot.accept L c c init w = (.ok (), w) := by
  refine ⟨fun hne hc hi => ?_, fun hne hc => ?_, by simp [Slot.accept]⟩ <;>
    cases hr : (w.get r).flex <;> simp [Slot.accept, hne, hc, hr, *]

/-- Accepting the `Just` cell `1` into the `Const` cell `0` without `init` fails. -/
theorem accept_rejects_sample :
    Slot.accept sampleLayer ⟨0⟩ ⟨1⟩ false sampleWorld =
      (.error (.cannotAssign ⟨.just, .integer⟩ ⟨.const, .integer⟩), sampleWorld) :=
  (accept_rejects sampleWorld ⟨0⟩ ⟨1⟩ false).1 (by decide) rfl rfl

/-- Accepting the `Const` cell `0` into itself without `init` succeeds. -/
theorem accept_const_self :
    (sampleWorld.get ⟨0⟩).flex = .const ∧
      (Slot.accept sampleLayer ⟨0⟩ ⟨0⟩ false sampleWorld).1 = .ok () :=
  ⟨rfl, rfl⟩

end Kailua.Check
