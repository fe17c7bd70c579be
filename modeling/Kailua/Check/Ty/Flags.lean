import Kailua.Check.Ty.Slot

/-!
# Type flags: the compact classification of a type

Model of `flags::Flags` in `kailua_types/src/ty/mod.rs` (lines 419-544): the `u16` bit set
`bitflags!` generates, its constants, and the classifiers `is_dynamic`, `is_integral`,
`is_numeric`, `is_stringy`, `is_tabular`, `is_callable`, `is_truthy`, `is_falsy` and
`get_dynamic` (the ones `Slot` forwards to, `slot.rs:264-274`).

* The bit set is `Flags` of `Slot.lean` (`bits : UInt16`). `&`, `|`, `!`, `is_empty`,
  `intersects` and `contains` are those `bitflags!` generates: `!` complements the bits and masks
  them with `all()`, the union of the declared constants (`0xfff`), so no undeclared bit is set.
* The five "kind" classifiers share one body, `is_dynamic() || (intersects(T) && !intersects(!T))`;
  the shared half is `Flags.isOnly` (some bit of `T`, none outside it). `is_truthy` and
  `is_falsy` are that half alone, without the dynamic disjunct.

Results:
* **`flags_union_closed`**: each of the seven classifiers holds of `f | g` when it holds of `f`
  and of `g`: classifying a union by its flags agrees with classifying its members.
* **`flags_classification`**: integral flags are numeric and numeric flags stringy; no flags are
  both truthy and falsy; dynamic flags are of every kind yet neither truthy nor falsy (the
  difference of the last two classifiers); `get_dynamic` answers only for dynamic flags.
* **`Flags.getDynamic_or`**: when no flag set has the oops bit without `T_WHATEVER`,
  `get_dynamic` of `f | g` is the join of the two answers (`None` < `User` < `Oops`).
-/

namespace Kailua.Check

namespace Flags

instance : AndOp Flags := ⟨fun a b => ⟨a.bits &&& b.bits⟩⟩

instance : OrOp Flags := ⟨fun a b => ⟨a.bits ||| b.bits⟩⟩

/-- `T_NONE`. -/
def tNone : Flags := ⟨0b000000000000⟩
/-- `T_WHATEVER`: an explicit dynamic type. -/
def tWhatever : Flags := ⟨0b000000000001⟩
/-- `T_DYNAMIC`: `WHATEVER` or the "oops" error type. -/
def tDynamic : Flags := ⟨0b000000000011⟩
/-- `T_NOISY_NIL`. -/
def tNoisyNil : Flags := ⟨0b000000000100⟩
/-- `T_TRUE`. -/
def tTrue : Flags := ⟨0b000000001000⟩
/-- `T_FALSE`. -/
def tFalse : Flags := ⟨0b000000010000⟩
/-- `T_BOOLEAN`. -/
def tBoolean : Flags := ⟨0b000000011000⟩
/-- `T_NONINTEGER`. -/
def tNoninteger : Flags := ⟨0b000000100000⟩
/-- `T_INTEGER`. -/
def tInteger : Flags := ⟨0b000001000000⟩
/-- `T_NUMBER`. -/
def tNumber : Flags := ⟨0b000001100000⟩
/-- `T_STRING`. -/
def tString : Flags := ⟨0b000010000000⟩
/-- `T_TABLE`. -/
def tTable : Flags := ⟨0b000100000000⟩
/-- `T_FUNCTION`. -/
def tFunction : Flags := ⟨0b001000000000⟩
/-- `T_THREAD`. -/
def tThread : Flags := ⟨0b010000000000⟩
/-- `T_USERDATA`. -/
def tUserdata : Flags := ⟨0b100000000000⟩
/-- `T_ALL`: every non-dynamic type. -/
def tAll : Flags := ⟨0b111111111100⟩
/-- `T_INTEGRAL`: usable as an array index. -/
def tIntegral : Flags := ⟨tDynamic.bits ||| tInteger.bits⟩
/-- `T_NUMERIC`: allows arithmetic. -/
def tNumeric : Flags := ⟨tDynamic.bits ||| tNumber.bits⟩
/-- `T_STRINGY`: can be concatenated. -/
def tStringy : Flags := ⟨tDynamic.bits ||| tNumber.bits ||| tString.bits⟩
/-- `T_TABULAR`: can be indexed. -/
def tTabular : Flags := ⟨tDynamic.bits ||| tString.bits ||| tTable.bits⟩
/-- `T_CALLABLE`: can be called. -/
def tCallable : Flags := ⟨tDynamic.bits ||| tFunction.bits⟩
/-- `T_FALSY`: `false` in a condition. -/
def tFalsy : Flags := ⟨tNoisyNil.bits ||| tFalse.bits⟩
/-- `T_TRUTHY`: `true` in a condition. -/
def tTruthy : Flags := ⟨tAll.bits ^^^ tFalsy.bits⟩

/-- `Flags::all()`: the union of the declared constants. -/
def all : Flags :=
  ⟨tNone.bits ||| tWhatever.bits ||| tDynamic.bits ||| tNoisyNil.bits ||| tTrue.bits |||
    tFalse.bits ||| tBoolean.bits ||| tNoninteger.bits ||| tInteger.bits ||| tNumber.bits |||
    tString.bits ||| tTable.bits ||| tFunction.bits ||| tThread.bits ||| tUserdata.bits |||
    tAll.bits ||| tIntegral.bits ||| tNumeric.bits ||| tStringy.bits ||| tTabular.bits |||
    tCallable.bits ||| tFalsy.bits ||| tTruthy.bits⟩

/-- `!flags`: the complement within `all()`. -/
def not (self : Flags) : Flags := ⟨~~~self.bits &&& all.bits⟩

/-- `is_empty`. -/
def isEmpty (self : Flags) : Bool := self.bits == 0

/-- `intersects`: some bit in common. -/
def intersects (self other : Flags) : Bool := !(self &&& other).isEmpty

/-- `contains`: every bit of `other`. -/
def contains (self other : Flags) : Bool := (self &&& other) == other

/-- `is_dynamic`. -/
def isDynamic (self : Flags) : Bool := self.intersects tDynamic

/-- The half the classifiers share: some bit of `mask` and none outside it. -/
def isOnly (self mask : Flags) : Bool := self.intersects mask && !self.intersects mask.not

/-- `is_integral`. -/
def isIntegral (self : Flags) : Bool := self.isDynamic || self.isOnly tIntegral

/-- `is_numeric`. -/
def isNumeric (self : Flags) : Bool := self.isDynamic || self.isOnly tNumeric

/-- `is_stringy`. -/
def isStringy (self : Flags) : Bool := self.isDynamic || self.isOnly tStringy

/-- `is_tabular`. -/
def isTabular (self : Flags) : Bool := self.isDynamic || self.isOnly tTabular

/-- `is_callable`. -/
def isCallable (self : Flags) : Bool := self.isDynamic || self.isOnly tCallable

/-- `is_truthy`: no dynamic disjunct. -/
def isTruthy (self : Flags) : Bool := self.isOnly tTruthy

/-- `is_falsy`: no dynamic disjunct. -/
def isFalsy (self : Flags) : Bool := self.isOnly tFalsy

/-- `get_dynamic`. -/
def getDynamic (self : Flags) : Option Dyn :=
  if self.contains tDynamic then some .oops
  else if self.contains tWhatever then some .user
  else none

end Flags

/-! ## Bits as numbers -/

namespace Flags

theorem lor_eq_zero_iff {x y : Nat} : x ||| y = 0 ↔ x = 0 ∧ y = 0 := by
  refine ⟨fun h => ⟨Nat.eq_of_testBit_eq fun i => ?_, Nat.eq_of_testBit_eq fun i => ?_⟩,
    fun ⟨hx, hy⟩ => by rw [hx, hy]; rfl⟩ <;>
  · have := congrArg (Nat.testBit · i) h
    simp only [Nat.testBit_or, Nat.zero_testBit, Bool.or_eq_false_iff] at this
    simp [this]

theorem and_toNat (a b : Flags) : (a &&& b).bits.toNat = a.bits.toNat &&& b.bits.toNat :=
  UInt16.and_toNat a.bits b.bits

theorem or_toNat (a b : Flags) : (a ||| b).bits.toNat = a.bits.toNat ||| b.bits.toNat :=
  BitVec.toNat_or a.bits.toBitVec b.bits.toBitVec

theorem intersects_iff {f m : Flags} :
    f.intersects m = true ↔ f.bits.toNat &&& m.bits.toNat ≠ 0 := by
  rw [intersects, isEmpty, ← and_toNat, Bool.not_eq_true', beq_eq_false_iff_ne]
  exact not_congr ⟨fun h => h ▸ rfl, fun h => UInt16.toNat.inj h⟩

/-- Mask inclusion: every bit of `m` is in `m'`. -/
def Included (m m' : Flags) : Prop := m.bits.toNat &&& m'.bits.toNat = m.bits.toNat

instance (m m' : Flags) : Decidable (m.Included m') := inferInstanceAs (Decidable (_ = _))

/-- A flag set meeting `m` meets every mask containing `m`. -/
theorem intersects_mono {f m m' : Flags} (h : m.Included m') (hf : f.intersects m = true) :
    f.intersects m' = true := by
  rw [intersects_iff] at hf ⊢
  intro h'
  apply hf
  rw [← h, Nat.and_comm m.bits.toNat, ← Nat.and_assoc, h', Nat.zero_and]

theorem intersects_or (f g m : Flags) :
    (f ||| g).intersects m = (f.intersects m || g.intersects m) := by
  rw [Bool.eq_iff_iff, Bool.or_eq_true, intersects_iff, intersects_iff, intersects_iff, or_toNat,
    Nat.and_distrib_right, ne_eq, lor_eq_zero_iff, not_and_or]

theorem isOnly_or {f g m : Flags} (hf : f.isOnly m = true) (hg : g.isOnly m = true) :
    (f ||| g).isOnly m = true := by
  simp only [isOnly, Bool.and_eq_true, Bool.not_eq_true', intersects_or, Bool.or_eq_true,
    Bool.or_eq_false_iff] at hf hg ⊢
  exact ⟨.inl hf.1, hf.2, hg.2⟩

/-- A narrower classifier half implies a wider one: more bits allowed, fewer outside. -/
theorem isOnly_mono {f m m' : Flags} (h : m.Included m') (h' : m'.not.Included m.not)
    (hf : f.isOnly m = true) : f.isOnly m' = true := by
  simp only [isOnly, Bool.and_eq_true, Bool.not_eq_true'] at hf ⊢
  refine ⟨intersects_mono h hf.1, ?_⟩
  cases hn : f.intersects m'.not
  · rfl
  · rw [intersects_mono h' hn] at hf
    exact hf.2

theorem intersects_of_contains {f m : Flags} (h : f.contains m = true) (hm : m.bits ≠ 0) :
    f.intersects m = true := by
  rw [contains, beq_iff_eq] at h
  rw [intersects, isEmpty, h]
  simpa using hm

theorem isDynamic_or (f g : Flags) : (f ||| g).isDynamic = (f.isDynamic || g.isDynamic) :=
  intersects_or f g tDynamic

/-- The shared body of the five kind classifiers is closed under `|`. -/
theorem kind_or {f g m : Flags} (hf : (f.isDynamic || f.isOnly m) = true)
    (hg : (g.isDynamic || g.isOnly m) = true) :
    ((f ||| g).isDynamic || (f ||| g).isOnly m) = true := by
  rw [isDynamic_or]
  cases hfd : f.isDynamic <;> cases hgd : g.isDynamic <;>
    simp only [hfd, hgd, Bool.false_or, Bool.true_or] at hf hg ⊢
  exact isOnly_or hf hg

/-- **Classifying a union.** For all flags `f` and `g`, each of the seven classifiers that holds
of `f` and of `g` holds of `f | g`. -/
theorem flags_union_closed (f g : Flags) :
    ∀ P ∈ [isIntegral, isNumeric, isStringy, isTabular, isCallable, isTruthy, isFalsy],
      P f = true → P g = true → P (f ||| g) = true := by
  simp only [List.mem_cons, List.mem_singleton, List.not_mem_nil, or_false]
  rintro P (rfl | rfl | rfl | rfl | rfl | rfl | rfl) hf hg
  all_goals first | exact kind_or hf hg | exact isOnly_or hf hg

/-- A dynamic flag set fails `isOnly` of a mask whose complement holds the dynamic bits. -/
theorem isOnly_false_of_isDynamic {f m : Flags} (hm : tDynamic.Included m.not)
    (hd : f.isDynamic = true) : f.isOnly m = false := by
  simp only [isOnly, intersects_mono hm hd, Bool.not_true, Bool.and_false]

/-- **The classifiers against each other.** For every flag set: integral implies numeric and
numeric implies stringy; truthy and falsy exclude each other; a dynamic flag set is of all five
kinds but neither truthy nor falsy; and `get_dynamic` answers only for a dynamic one. -/
theorem flags_classification (f : Flags) :
    (f.isIntegral → f.isNumeric) ∧ (f.isNumeric → f.isStringy) ∧ ¬(f.isTruthy ∧ f.isFalsy) ∧
      (f.isDynamic → f.isIntegral ∧ f.isNumeric ∧ f.isStringy ∧ f.isTabular ∧ f.isCallable ∧
        ¬f.isTruthy ∧ ¬f.isFalsy) ∧
      (f.getDynamic.isSome → f.isDynamic) := by
  have kind_mono : ∀ {m m' : Flags}, m.Included m' → m'.not.Included m.not →
      (f.isDynamic || f.isOnly m) = true → (f.isDynamic || f.isOnly m') = true := by
    intro m m' h h' hf
    rw [Bool.or_eq_true] at hf ⊢
    exact hf.imp_right (isOnly_mono h h')
  refine ⟨kind_mono (by decide) (by decide), kind_mono (by decide) (by decide), ?_, ?_, ?_⟩
  · rintro ⟨ht, hf⟩
    have := (Bool.and_eq_true _ _).mp ht
    rw [isFalsy, isOnly, Bool.and_eq_true] at hf
    rw [intersects_mono (by decide : tFalsy.Included tTruthy.not) hf.1] at this
    exact absurd this.2 (by decide)
  · intro hd
    simp only [isIntegral, isNumeric, isStringy, isTabular, isCallable, isTruthy, isFalsy, hd,
      Bool.true_or, isOnly_false_of_isDynamic (m := tTruthy) (by decide) hd,
      isOnly_false_of_isDynamic (m := tFalsy) (by decide) hd]
    decide
  · unfold getDynamic
    split_ifs with h₁ h₂
    · exact fun _ => intersects_of_contains h₁ (by decide)
    · exact fun _ =>
        intersects_mono (m := tWhatever) (by decide) (intersects_of_contains h₂ (by decide))
    · exact fun h => absurd h (by decide)

/-! ## `get_dynamic` on a union -/

/-- The two dynamic bits are `T_WHATEVER` alone or both: no flag set has the oops bit alone. -/
def DynBits (f : Flags) : Prop := f.bits.toNat &&& 3 ≠ 2

instance (f : Flags) : Decidable f.DynBits := inferInstanceAs (Decidable (_ ≠ _))

/-- The join of two `get_dynamic` answers: `None` below `User` below `Oops`. -/
def dynJoin : Option Dyn → Option Dyn → Option Dyn
  | some .oops, _ | _, some .oops => some .oops
  | some .user, _ | _, some .user => some .user
  | none, none => none

/-- `get_dynamic` as a function of the two dynamic bits. -/
def lowDyn (n : Nat) : Option Dyn :=
  if n = 3 then some .oops else if n &&& 1 = 1 then some .user else none

theorem contains_iff {f m : Flags} :
    f.contains m = true ↔ f.bits.toNat &&& m.bits.toNat = m.bits.toNat := by
  rw [contains, beq_iff_eq, ← and_toNat]
  exact ⟨fun h => by rw [h], fun h => congrArg Flags.mk (UInt16.toNat.inj h)⟩

theorem getDynamic_eq (f : Flags) : f.getDynamic = lowDyn (f.bits.toNat &&& 3) := by
  have h1 : f.bits.toNat &&& 3 &&& 1 = f.bits.toNat &&& 1 := by rw [Nat.and_assoc]; rfl
  simp only [getDynamic, contains_iff, lowDyn, h1]
  rfl

/-- **`get_dynamic` of a union is the join.** For flag sets whose dynamic bits are `T_WHATEVER`
or `T_DYNAMIC`, `get_dynamic` of `f | g` is `Oops` if either is, else `User` if either is. -/
theorem getDynamic_or {f g : Flags} (hf : f.DynBits) (hg : g.DynBits) :
    (f ||| g).getDynamic = dynJoin f.getDynamic g.getDynamic := by
  rw [getDynamic_eq, getDynamic_eq, getDynamic_eq, or_toNat, Nat.and_distrib_right]
  have ha : f.bits.toNat &&& 3 < 4 := Nat.lt_succ_of_le Nat.and_le_right
  have hb : g.bits.toNat &&& 3 < 4 := Nat.lt_succ_of_le Nat.and_le_right
  unfold DynBits at hf hg
  generalize f.bits.toNat &&& 3 = a at *
  generalize g.bits.toNat &&& 3 = b at *
  interval_cases a <;> interval_cases b <;> first | rfl | omega

/-- Without the hypothesis the join fails: the oops bit alone gives `None`, yet with
`T_WHATEVER` it makes `Oops`. -/
example : (tWhatever ||| ⟨2⟩).getDynamic = some .oops ∧
    dynJoin tWhatever.getDynamic (⟨2⟩ : Flags).getDynamic = some .user := by
  decide

end Flags

end Kailua.Check
