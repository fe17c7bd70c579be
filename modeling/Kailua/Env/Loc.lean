import Mathlib

/-!
# Locations: `Pos`, `Span` and the span iterator

Model of `kailua_env/src/loc.rs`: `Pos`, `Span`, `Span::new`, `dummy`, `builtin`, the
`From<Pos>` and `From<Range<Pos>>` conversions, `to_pos`, `&` and `|` (`BitAnd`, `BitOr`), `len`,
`contains`, `contains_or_end`, and `Span` as a double-ended iterator over its positions
(`next`, `next_back`, `nth`, `last`, `size_hint`, `count`; `loc.rs:273-326`), and `Spanned<T>`
with the `WithLoc` constructors.

* A unit is its `u32` id: `0` is `Unit::dummy()`, `0xffffffff` (`BUILTIN_UNIT`) is
  `Unit::builtin()`, every other id is a source unit (`is_source_dependent`).
* Offsets are `u32`s, kept as `Nat`. The two additions (`begin += 1` in `next`, `begin + n`
  in `nth`) are guarded to stay at or below `end`, so they are exact. Every `u32` subtraction
  is `u32Sub`, which is `none` where the debug build panics on underflow; `len`, `nth`, `last`
  and `next_back` subtract, so they return an `Option` for it.
* `Span::new` asserts that its positions share a unit; the failed assertion is `none`.

Results:
* `Built`: the spans obtained from well-formed positions through `Span::new`, `dummy`,
  `builtin`, the two `From` conversions, `&` and `|`, and any iterator steps after them.
* **`built_wellFormed`**: every such span is `WellFormed` (`(0,0,0)`, `(builtin,0,0)`, or a
  source span with `begin ≤ end`); one lemma per way of building a span.
* **`built_noUnderflow`**: hence the subtractions of `len`, `nth` and `last` never underflow.
* **`span_union_monoid`**: `|` is commutative with the dummy span as its unit, and associative
  within one unit.
* **`Span.contains_bitand`**: `a & b` contains a position exactly when `a` and `b` both do.
* **`Span.bitand_greatest`**, **`Span.bitor_least`**: under range inclusion `Span.Within`, `&` is
  the greatest span within both operands and `|` the least covering both.
* **`Span.new_hull`**: `Span::new` ignores the order of its positions and is the union of their
  point spans.
-/

namespace Kailua.Env

/-- `BUILTIN_UNIT`. -/
def builtinUnit : Nat := 0xffffffff

/-- `Unit::is_source_dependent`: neither the dummy nor the builtin unit. -/
def sourceDependent (unit : Nat) : Bool := 0 < unit && unit < builtinUnit

/-- `a - b` on `u32`: `none` where the debug build panics on underflow. -/
def u32Sub (a b : Nat) : Option Nat := if b ≤ a then some (a - b) else none

theorem u32Sub_isSome {a b : Nat} (h : b ≤ a) : (u32Sub a b).isSome := by
  simp [u32Sub, h]

/-- `Pos`: a unit and an offset in it. -/
structure Pos where
  unit : Nat
  pos : Nat
deriving DecidableEq, Repr

/-- `Pos::dummy()`. -/
def Pos.dummy : Pos := ⟨0, 0⟩

/-- `Pos::builtin()`. -/
def Pos.builtin : Pos := ⟨builtinUnit, 0⟩

/-- `Pos::is_dummy`. -/
def Pos.isDummy (p : Pos) : Bool := p.unit == 0

/-- `Span`: a unit and the offsets `[begin, end)` in it. -/
structure Span where
  unit : Nat
  begin : Nat
  «end» : Nat
deriving DecidableEq, Repr

/-- `Span::dummy()`. -/
def Span.dummy : Span := ⟨0, 0, 0⟩

/-- `Span::builtin()`. -/
def Span.builtin : Span := ⟨builtinUnit, 0, 0⟩

/-- `Span::is_dummy`: only the unit is read. -/
def Span.isDummy (s : Span) : Bool := s.unit == 0

/-- `Span::is_source_dependent`. -/
def Span.isSourceDependent (s : Span) : Bool := sourceDependent s.unit

/-- `Span::begin()`. -/
def Span.beginPos (s : Span) : Pos := ⟨s.unit, s.begin⟩

/-- `Span::end()`. -/
def Span.endPos (s : Span) : Pos := ⟨s.unit, s.end⟩

/-- `Span::new`: dummy when either position is; otherwise the positions in order. The
swapped case is the empty span of an empty token range (the comment at `loc.rs:161-174`). -/
def Span.new (begin «end» : Pos) : Option Span :=
  if begin.isDummy || «end».isDummy then some .dummy
  else if begin.unit = «end».unit then
    if begin.pos ≤ «end».pos then some ⟨begin.unit, begin.pos, «end».pos⟩
    else some ⟨begin.unit, «end».pos, begin.pos⟩
  else none

/-- `From<Pos> for Span`: the point span. -/
def Span.ofPos (p : Pos) : Span := ⟨p.unit, p.pos, p.pos⟩

/-- `From<Range<Pos>> for Span`. -/
def Span.ofRange (start «end» : Pos) : Option Span := Span.new start «end»

/-- `Span::to_pos`: the position of a point span, dummy for any other. -/
def Span.toPos (s : Span) : Pos := if s.begin = s.end then ⟨s.unit, s.begin⟩ else .dummy

/-- `Span::len`: `0` off the source units. -/
def Span.len (s : Span) : Option Nat :=
  if s.isSourceDependent then u32Sub s.end s.begin else some 0

/-- `Span::contains`. -/
def Span.contains (s : Span) (p : Pos) : Bool :=
  0 < s.unit && s.unit == p.unit && s.begin ≤ p.pos && p.pos < s.end

/-- `Span::contains_or_end`. -/
def Span.containsOrEnd (s : Span) (p : Pos) : Bool :=
  0 < s.unit && s.unit == p.unit && s.begin ≤ p.pos && p.pos ≤ s.end

/-- `BitAnd for Span`: the common range, dummy when empty or across units. -/
def Span.bitand (a b : Span) : Span :=
  if a.isDummy || b.isDummy then .dummy
  else if a.unit = b.unit then
    if max a.begin b.begin > min a.end b.end then .dummy
    else ⟨a.unit, max a.begin b.begin, min a.end b.end⟩
  else .dummy

/-- `BitOr for Span`: the covering range; a dummy operand gives the other one. -/
def Span.bitor (a b : Span) : Span :=
  if a.isDummy then b
  else if b.isDummy then a
  else if a.unit = b.unit then ⟨a.unit, min a.begin b.begin, max a.end b.end⟩
  else .dummy

instance : AndOp Span := ⟨Span.bitand⟩

instance : OrOp Span := ⟨Span.bitor⟩

/-! ## The span as an iterator -/

/-- `Iterator::next`: the first position, and the span without it. -/
def Span.next (s : Span) : Option Pos × Span :=
  if s.isSourceDependent && s.begin < s.end then (some ⟨s.unit, s.begin⟩, { s with begin := s.begin + 1 })
  else (none, s)

/-- `DoubleEndedIterator::next_back`: the last position, and the span without it. -/
def Span.nextBack (s : Span) : Option (Option Pos × Span) :=
  if s.isSourceDependent && s.begin < s.end then
    (u32Sub s.end 1).map fun e => (some ⟨s.unit, e⟩, { s with «end» := e })
  else some (none, s)

/-- `Iterator::nth`: the position `n` steps in; the span then starts there (`begin += n`). -/
def Span.nth (s : Span) (n : Nat) : Option (Option Pos × Span) :=
  if s.isSourceDependent then
    (u32Sub s.end s.begin).map fun d =>
      if n < d then (some ⟨s.unit, s.begin + n⟩, { s with begin := s.begin + n }) else (none, s)
  else some (none, s)

/-- `Iterator::last`. -/
def Span.last (s : Span) : Option (Option Pos) :=
  if s.isSourceDependent && s.begin < s.end then (u32Sub s.end 1).map fun e => some ⟨s.unit, e⟩
  else some none

/-- `Iterator::size_hint`: `(len, Some(len))`. -/
def Span.sizeHint (s : Span) : Option (Nat × Option Nat) := s.len.map fun l => (l, some l)

/-- `Iterator::count`. -/
def Span.count (s : Span) : Option Nat := s.len

/-! ## Well-formed spans -/

/-- A position as the sources make them: a `u32` unit, and offset `0` on the dummy and the
builtin unit. -/
def Pos.WellFormed (p : Pos) : Prop :=
  p.unit ≤ builtinUnit ∧ (p.unit = 0 ∨ p.unit = builtinUnit → p.pos = 0)

/-- The dummy span, the builtin span, or a source span with `begin ≤ end`. -/
def Span.WellFormed (s : Span) : Prop :=
  s = .dummy ∨ s = .builtin ∨ (sourceDependent s.unit = true ∧ s.begin ≤ s.end)

instance : DecidablePred Span.WellFormed := fun _ =>
  inferInstanceAs (Decidable (_ ∨ _ ∨ _))

theorem wellFormed_iff {s : Span} : s.WellFormed ↔
    (s.unit = 0 ∧ s.begin = 0 ∧ s.end = 0) ∨ (s.unit = 4294967295 ∧ s.begin = 0 ∧ s.end = 0) ∨
      (0 < s.unit ∧ s.unit < 4294967295 ∧ s.begin ≤ s.end) := by
  obtain ⟨u, b, e⟩ := s
  simp [Span.WellFormed, Span.dummy, Span.builtin, sourceDependent, builtinUnit, and_assoc]

/-- Positions `Span::new` accepts: one of them dummy, or both of one unit. -/
def Compatible (p q : Pos) : Prop := p.isDummy = true ∨ q.isDummy = true ∨ p.unit = q.unit

/-- The spans built from well-formed positions by the constructors, `&`, `|` and the
iterator steps (a panicking step builds nothing). -/
inductive Built : Span → Prop
  | new {p q : Pos} {s : Span} : p.WellFormed → q.WellFormed → Compatible p q →
      Span.new p q = some s → Built s
  | dummy : Built .dummy
  | builtin : Built .builtin
  | ofPos {p : Pos} : p.WellFormed → Built (.ofPos p)
  | ofRange {p q : Pos} {s : Span} : p.WellFormed → q.WellFormed → Compatible p q →
      Span.ofRange p q = some s → Built s
  | bitand {a b : Span} : Built a → Built b → Built (a &&& b)
  | bitor {a b : Span} : Built a → Built b → Built (a ||| b)
  | next {s : Span} : Built s → Built s.next.2
  | nextBack {s s' : Span} {r : Option Pos} : Built s → s.nextBack = some (r, s') → Built s'
  | nth {s s' : Span} {n : Nat} {r : Option Pos} : Built s → s.nth n = some (r, s') → Built s'

theorem Span.new_isSome {p q : Pos} (h : Compatible p q) : (Span.new p q).isSome := by
  unfold Span.new
  rcases h with h | h | h <;> split_ifs <;> simp_all

theorem wellFormed_new {p q : Pos} {s : Span} (hp : p.WellFormed) (hq : q.WellFormed)
    (h : Span.new p q = some s) : s.WellFormed := by
  obtain ⟨pu, pp⟩ := p
  obtain ⟨qu, qp⟩ := q
  simp only [Pos.WellFormed, builtinUnit] at hp hq
  simp only [Span.new, Pos.isDummy, Bool.or_eq_true, beq_iff_eq] at h
  rw [wellFormed_iff]
  split_ifs at h <;> cases h <;> dsimp only [Span.dummy] <;> omega

theorem wellFormed_ofPos {p : Pos} (hp : p.WellFormed) : (Span.ofPos p).WellFormed := by
  obtain ⟨u, x⟩ := p
  simp only [Pos.WellFormed, builtinUnit] at hp
  simp only [wellFormed_iff, Span.ofPos]
  omega

/-- `&` stays inside its right operand's range, so only that one needs to be well formed. -/
theorem wellFormed_bitand (a : Span) {b : Span} (hb : b.WellFormed) : (a &&& b).WellFormed := by
  show (Span.bitand a b).WellFormed
  rw [wellFormed_iff] at hb ⊢
  unfold Span.bitand Span.isDummy Span.dummy
  split_ifs <;> simp_all
  omega

theorem wellFormed_bitor {a b : Span} (ha : a.WellFormed) (hb : b.WellFormed) :
    (a ||| b).WellFormed := by
  show (Span.bitor a b).WellFormed
  rw [wellFormed_iff] at ha hb ⊢
  unfold Span.bitor Span.isDummy Span.dummy
  split_ifs <;> simp_all
  omega

theorem wellFormed_next {s : Span} (hs : s.WellFormed) : s.next.2.WellFormed := by
  rw [wellFormed_iff] at hs ⊢
  unfold Span.next Span.isSourceDependent sourceDependent builtinUnit
  split_ifs <;> simp_all
  omega

theorem wellFormed_nextBack {s s' : Span} {r : Option Pos} (hs : s.WellFormed)
    (h : s.nextBack = some (r, s')) : s'.WellFormed := by
  rw [wellFormed_iff] at hs ⊢
  unfold Span.nextBack Span.isSourceDependent sourceDependent builtinUnit u32Sub at h
  split_ifs at h <;> simp_all
  obtain ⟨-, rfl⟩ := h
  simp
  omega

theorem wellFormed_nth {s s' : Span} {n : Nat} {r : Option Pos} (hs : s.WellFormed)
    (h : s.nth n = some (r, s')) : s'.WellFormed := by
  rw [wellFormed_iff] at hs ⊢
  unfold Span.nth Span.isSourceDependent sourceDependent builtinUnit u32Sub at h
  split_ifs at h with h1 h2
  · simp only [Option.map_some', Option.some.injEq] at h
    split_ifs at h <;> obtain ⟨-, rfl⟩ := h <;> simp at h1 ⊢ <;> omega
  · simp at h
  · obtain ⟨-, rfl⟩ := Option.some.inj h
    exact hs

/-- **Every built span is well formed.** -/
theorem built_wellFormed {s : Span} (h : Built s) : s.WellFormed := by
  induction h with
  | new hp hq _ h => exact wellFormed_new hp hq h
  | dummy => exact .inl rfl
  | builtin => exact .inr (.inl rfl)
  | ofPos hp => exact wellFormed_ofPos hp
  | ofRange hp hq _ h => exact wellFormed_new hp hq h
  | bitand _ _ _ ihb => exact wellFormed_bitand _ ihb
  | bitor _ _ iha ihb => exact wellFormed_bitor iha ihb
  | next _ ih => exact wellFormed_next ih
  | nextBack _ h ih => exact wellFormed_nextBack ih h
  | nth _ h ih => exact wellFormed_nth ih h

theorem Span.WellFormed.len_isSome {s : Span} (hs : s.WellFormed) : s.len.isSome := by
  rw [wellFormed_iff] at hs
  unfold Span.len
  split_ifs
  · exact u32Sub_isSome (by omega)
  · rfl

theorem Span.WellFormed.nth_isSome {s : Span} (hs : s.WellFormed) (n : Nat) : (s.nth n).isSome := by
  rw [wellFormed_iff] at hs
  unfold Span.nth
  split_ifs
  · simpa using u32Sub_isSome (by omega)
  · rfl

theorem last_isSome (s : Span) : s.last.isSome := by
  unfold Span.last
  split_ifs with h
  · simpa using u32Sub_isSome (by simp at h; omega)
  · rfl

/-- **No underflow**: on a built span, `len`, `nth` and `last` never panic. -/
theorem built_noUnderflow {s : Span} (h : Built s) :
    s.WellFormed ∧ s.len.isSome ∧ (∀ n, (s.nth n).isSome) ∧ s.last.isSome :=
  have hs := built_wellFormed h
  ⟨hs, hs.len_isSome, hs.nth_isSome, last_isSome s⟩

/-- The span from offset `7` back to `3` of unit `1`, after one `next`. -/
theorem built_noUnderflow_next :
    let s := (Span.next ⟨1, 3, 7⟩).2
    s.WellFormed ∧ s.len.isSome ∧ (∀ n, (s.nth n).isSome) ∧ s.last.isSome :=
  built_noUnderflow (.next (.new (p := ⟨1, 7⟩) (q := ⟨1, 3⟩)
    (by simp [Pos.WellFormed, builtinUnit]) (by simp [Pos.WellFormed, builtinUnit])
    (by simp [Compatible]) rfl))

/-! ## Span union -/

theorem Span.WellFormed.isDummy_iff {s : Span} (hs : s.WellFormed) :
    s.isDummy = true ↔ s = .dummy := by
  obtain ⟨u, b, e⟩ := s
  rw [wellFormed_iff] at hs
  dsimp only at hs
  simp only [Span.isDummy, Span.dummy, beq_iff_eq, Span.mk.injEq]
  omega

@[simp] theorem Span.dummy_bitor (s : Span) : Span.dummy ||| s = s := rfl

theorem Span.bitor_dummy {s : Span} (hs : s.WellFormed) : s ||| Span.dummy = s := by
  by_cases h : s.isDummy = true
  · rw [hs.isDummy_iff.mp h]
    rfl
  · simp only [Span.isDummy, beq_iff_eq] at h
    show Span.bitor s .dummy = s
    simp [Span.bitor, h, Span.isDummy, Span.dummy]

/-- Two spans of one unit, neither dummy, are united into their covering range. -/
theorem Span.bitor_of_unit {a b : Span} (ha : a.isDummy = false) (hb : b.isDummy = false)
    (hu : a.unit = b.unit) : a ||| b = ⟨a.unit, min a.begin b.begin, max a.end b.end⟩ := by
  show Span.bitor a b = _
  simp [Span.bitor, ha, hb, hu]

theorem Span.bitor_comm {a b : Span} (ha : a.WellFormed) (hb : b.WellFormed) :
    a ||| b = b ||| a := by
  cases hda : a.isDummy
  · cases hdb : b.isDummy
    · by_cases hu : a.unit = b.unit
      · rw [Span.bitor_of_unit hda hdb hu, Span.bitor_of_unit hdb hda hu.symm, hu,
          Nat.min_comm, Nat.max_comm]
      · show Span.bitor a b = Span.bitor b a
        simp [Span.bitor, hda, hdb, hu, Ne.symm hu]
    · rw [hb.isDummy_iff.mp hdb, Span.bitor_dummy ha, Span.dummy_bitor]
  · rw [ha.isDummy_iff.mp hda, Span.bitor_dummy hb, Span.dummy_bitor]

/-- Union is associative when the operands that are not dummy share one unit. -/
theorem Span.bitor_assoc {a b c : Span} (ha : a.WellFormed) (hb : b.WellFormed)
    (hc : c.WellFormed)
    (hu : ∀ x ∈ [a, b, c], ∀ y ∈ [a, b, c], x.isDummy = false → y.isDummy = false →
      x.unit = y.unit) :
    (a ||| b) ||| c = a ||| (b ||| c) := by
  cases hda : a.isDummy
  · cases hdb : b.isDummy
    · cases hdc : c.isDummy
      · have hab := hu a (by simp) b (by simp) hda hdb
        have hbc := hu b (by simp) c (by simp) hdb hdc
        rw [Span.bitor_of_unit hda hdb hab, Span.bitor_of_unit hdb hdc hbc,
          Span.bitor_of_unit (a := ⟨a.unit, min a.begin b.begin, max a.end b.end⟩) hda hdc
            (hab.trans hbc),
          Span.bitor_of_unit (b := ⟨b.unit, min b.begin c.begin, max b.end c.end⟩) hda hdb hab,
          Nat.min_assoc, Nat.max_assoc]
      · rw [hc.isDummy_iff.mp hdc, Span.bitor_dummy (wellFormed_bitor ha hb),
          Span.bitor_dummy hb]
    · rw [hb.isDummy_iff.mp hdb, Span.bitor_dummy ha, Span.dummy_bitor]
  · rw [ha.isDummy_iff.mp hda, Span.dummy_bitor, Span.dummy_bitor]

/-- **Span union on well-formed spans.** `|` is commutative with the dummy span as its identity
on both sides, and associative when the operands that are not dummy share one unit. Across
units it is not associative: a cross-unit union collapses to dummy, which the next union then
ignores. -/
theorem span_union_monoid {a b c : Span} (ha : a.WellFormed) (hb : b.WellFormed)
    (hc : c.WellFormed) :
    a ||| b = b ||| a ∧ a ||| Span.dummy = a ∧ Span.dummy ||| a = a ∧
      ((∀ x ∈ [a, b, c], ∀ y ∈ [a, b, c], x.isDummy = false → y.isDummy = false →
        x.unit = y.unit) → (a ||| b) ||| c = a ||| (b ||| c)) :=
  ⟨Span.bitor_comm ha hb, Span.bitor_dummy ha, rfl, Span.bitor_assoc ha hb hc⟩

/-- Spans `[0, 4)` and `[2, 6)` of unit `1` and the dummy span. -/
theorem span_union_monoid_unit :
    (⟨1, 0, 4⟩ ||| ⟨1, 2, 6⟩ : Span) = ⟨1, 2, 6⟩ ||| ⟨1, 0, 4⟩ ∧
      (⟨1, 0, 4⟩ ||| Span.dummy : Span) = ⟨1, 0, 4⟩ ∧ (Span.dummy ||| ⟨1, 0, 4⟩ : Span) = ⟨1, 0, 4⟩ ∧
      ((∀ x ∈ [(⟨1, 0, 4⟩ : Span), ⟨1, 2, 6⟩, Span.dummy],
        ∀ y ∈ [(⟨1, 0, 4⟩ : Span), ⟨1, 2, 6⟩, Span.dummy], x.isDummy = false →
          y.isDummy = false → x.unit = y.unit) →
        ((⟨1, 0, 4⟩ : Span) ||| ⟨1, 2, 6⟩) ||| Span.dummy =
          (⟨1, 0, 4⟩ : Span) ||| (⟨1, 2, 6⟩ ||| Span.dummy)) :=
  span_union_monoid (by decide) (by decide) (by decide)

/-- Across units union is not associative: with `a` and `c` in unit `1` and `b` in unit `2`,
`(a | b) | c` is `c` and `a | (b | c)` is `a`. -/
theorem span_union_cross_unit :
    let a : Span := ⟨1, 0, 1⟩
    let b : Span := ⟨2, 0, 1⟩
    let c : Span := ⟨1, 2, 3⟩
    a.WellFormed ∧ b.WellFormed ∧ c.WellFormed ∧ (a ||| b) ||| c = c ∧ a ||| (b ||| c) = a ∧
      (a ||| b) ||| c ≠ a ||| (b ||| c) := by
  decide

/-! ## Span intersection and hull

`&` and `|` read through the positions a span holds, and through range inclusion `Within`:
within one unit, `&` is the greatest span inside both operands and `|` the least span covering
both. -/

/-- The two ways `&` ends: dummy, for one of the four reasons of `loc.rs:236-241`, or the
common range, which is then not inverted. -/
theorem Span.bitand_cases (a b : Span) :
    (a &&& b = .dummy ∧
        (a.unit = 0 ∨ b.unit = 0 ∨ a.unit ≠ b.unit ∨ min a.end b.end < max a.begin b.begin)) ∨
      (0 < a.unit ∧ a.unit = b.unit ∧ max a.begin b.begin ≤ min a.end b.end ∧
        a &&& b = ⟨a.unit, max a.begin b.begin, min a.end b.end⟩) := by
  show (Span.bitand a b = _ ∧ _) ∨ (_ ∧ _ ∧ _ ∧ Span.bitand a b = _)
  unfold Span.bitand Span.isDummy
  split_ifs with h₁ h₂ h₃
  · simp only [Bool.or_eq_true, beq_iff_eq] at h₁
    exact .inl ⟨rfl, by omega⟩
  · exact .inl ⟨rfl, by omega⟩
  · simp only [Bool.or_eq_true, beq_iff_eq, not_or] at h₁
    exact .inr ⟨by omega, h₂, by omega, rfl⟩
  · exact .inl ⟨rfl, by omega⟩

@[simp] theorem Span.contains_eq_true {s : Span} {p : Pos} :
    s.contains p = true ↔ 0 < s.unit ∧ s.unit = p.unit ∧ s.begin ≤ p.pos ∧ p.pos < s.end := by
  simp only [Span.contains, Bool.and_eq_true, decide_eq_true_eq, beq_iff_eq, and_assoc]

@[simp] theorem Span.containsOrEnd_eq_true {s : Span} {p : Pos} :
    s.containsOrEnd p = true ↔
      0 < s.unit ∧ s.unit = p.unit ∧ s.begin ≤ p.pos ∧ p.pos ≤ s.end := by
  simp only [Span.containsOrEnd, Bool.and_eq_true, decide_eq_true_eq, beq_iff_eq, and_assoc]

/-- **`&` is exact on positions.** For any two spans, `a & b` contains (or ends at) a position
exactly when both `a` and `b` do: nothing is lost when the common range collapses to dummy. -/
theorem Span.contains_bitand (a b : Span) (p : Pos) :
    (a &&& b).contains p = (a.contains p && b.contains p) ∧
      (a &&& b).containsOrEnd p = (a.containsOrEnd p && b.containsOrEnd p) := by
  rcases Span.bitand_cases a b with ⟨h, hr⟩ | ⟨hu, hab, hle, h⟩ <;> rw [h] <;>
    constructor <;> rw [Bool.eq_iff_iff] <;>
    simp only [Span.contains_eq_true, Span.containsOrEnd_eq_true, Bool.and_eq_true, Span.dummy,
      max_le_iff, lt_min_iff, le_min_iff] <;>
    omega

/-- Range inclusion: `s` is dummy, or lies in the unit of `c` within its range. -/
def Span.Within (s c : Span) : Prop :=
  s.isDummy = true ∨ (c.unit = s.unit ∧ c.begin ≤ s.begin ∧ s.end ≤ c.end)

instance (s c : Span) : Decidable (s.Within c) := inferInstanceAs (Decidable (_ ∨ _))

theorem Span.within_iff {s c : Span} :
    s.Within c ↔ s.unit = 0 ∨ (c.unit = s.unit ∧ c.begin ≤ s.begin ∧ s.end ≤ c.end) := by
  simp only [Span.Within, Span.isDummy, beq_iff_eq]

theorem Span.dummy_within (c : Span) : Span.dummy.Within c := .inl rfl

theorem Span.within_refl (s : Span) : s.Within s := .inr ⟨rfl, le_rfl, le_rfl⟩

/-- A dummy left operand of `|` gives the right one. -/
theorem Span.bitor_of_isDummy_left {a b : Span} (ha : a.isDummy = true) : a ||| b = b := by
  show Span.bitor a b = b
  rw [Span.bitor, if_pos ha]

/-- A dummy right operand of `|` gives the left one. -/
theorem Span.bitor_of_isDummy_right {a b : Span} (ha : a.isDummy = false)
    (hb : b.isDummy = true) : a ||| b = a := by
  show Span.bitor a b = a
  rw [Span.bitor, if_neg (by simp [ha]), if_pos hb]

theorem Span.WellFormed.begin_le {c : Span} (hc : c.WellFormed) : c.begin ≤ c.end := by
  rw [wellFormed_iff] at hc
  omega

/-- **`&` is the greatest lower bound.** `a & b` lies within both operands, and every
well-formed span within both lies within `a & b`. -/
theorem Span.bitand_greatest (a b : Span) :
    (a &&& b).Within a ∧ (a &&& b).Within b ∧
      ∀ c : Span, c.WellFormed → c.Within a → c.Within b → c.Within (a &&& b) := by
  rcases Span.bitand_cases a b with ⟨h, hr⟩ | ⟨hu, hab, hle, h⟩ <;> rw [h]
  · refine ⟨Span.dummy_within a, Span.dummy_within b, fun c hc ha hb => ?_⟩
    have := hc.begin_le
    simp only [Span.within_iff, Span.dummy] at ha hb ⊢
    omega
  · refine ⟨.inr ⟨rfl, le_max_left .., min_le_left ..⟩,
      .inr ⟨hab.symm, le_max_right .., min_le_right ..⟩, fun c _ ha hb => ?_⟩
    simp only [Span.within_iff] at ha hb ⊢
    omega

/-- Unit `1`: `[0, 4) & [2, 6)` is `[2, 4)`, and `[2, 3)`, within both, is within it. -/
theorem Span.bitand_greatest_unit :
    (⟨1, 0, 4⟩ &&& ⟨1, 2, 6⟩ : Span) = ⟨1, 2, 4⟩ ∧
      (⟨1, 2, 3⟩ : Span).Within (⟨1, 0, 4⟩ &&& ⟨1, 2, 6⟩) :=
  ⟨rfl, (Span.bitand_greatest _ _).2.2 _ (by decide) (by decide) (by decide)⟩

/-- **`|` is the least upper bound** of two spans whose units agree where neither is dummy:
`a | b` covers both, and every span covering both covers `a | b`. -/
theorem Span.bitor_least {a b : Span}
    (hab : a.isDummy = false → b.isDummy = false → a.unit = b.unit) :
    a.Within (a ||| b) ∧ b.Within (a ||| b) ∧
      ∀ c : Span, a.Within c → b.Within c → (a ||| b).Within c := by
  cases hda : a.isDummy
  · cases hdb : b.isDummy
    · have hu := hab hda hdb
      rw [Span.bitor_of_unit hda hdb hu]
      refine ⟨.inr ⟨rfl, min_le_left .., le_max_left ..⟩,
        .inr ⟨hu, min_le_right .., le_max_right ..⟩, fun c ha hb => ?_⟩
      simp only [Span.isDummy, beq_eq_false_iff_ne] at hda hdb
      simp only [Span.within_iff] at ha hb ⊢
      omega
    · rw [Span.bitor_of_isDummy_right hda hdb]
      exact ⟨Span.within_refl a, .inl hdb, fun c ha _ => ha⟩
  · rw [Span.bitor_of_isDummy_left hda]
    exact ⟨.inl hda, Span.within_refl b, fun c _ hb => hb⟩

/-- Unit `1`: `[0, 4) | [2, 6)` is `[0, 6)`, and `[0, 6)` itself covers it. -/
theorem Span.bitor_least_unit :
    (⟨1, 0, 4⟩ ||| ⟨1, 2, 6⟩ : Span) = ⟨1, 0, 6⟩ ∧
      (⟨1, 0, 4⟩ ||| ⟨1, 2, 6⟩ : Span).Within ⟨1, 0, 6⟩ :=
  ⟨rfl, (Span.bitor_least (a := ⟨1, 0, 4⟩) (b := ⟨1, 2, 6⟩) fun _ _ => rfl).2.2 _
    (by decide) (by decide)⟩

theorem Span.new_symm (p q : Pos) : Span.new p q = Span.new q p := by
  unfold Span.new
  cases p.isDummy <;> cases q.isDummy <;>
    simp only [Bool.or_true, Bool.true_or, Bool.or_self, if_true, Bool.false_eq_true, if_false]
  by_cases hu : p.unit = q.unit
  · simp only [hu, if_true]
    split_ifs <;> simp only [Option.some.injEq, Span.mk.injEq, true_and] <;> omega
  · simp only [hu, Ne.symm hu, if_false]

/-- **`Span::new` is the hull of its two positions.** The order of the positions does not
matter (the swapped case of `loc.rs:161-174` gives the same span), and for two positions of one
source unit the span is the union of their point spans. -/
theorem Span.new_hull (p q : Pos) :
    Span.new p q = Span.new q p ∧
      (p.isDummy = false → q.isDummy = false → p.unit = q.unit →
        Span.new p q = some (Span.ofPos p ||| Span.ofPos q)) := by
  refine ⟨Span.new_symm p q, fun hp hq hu => ?_⟩
  rw [Span.bitor_of_unit (a := Span.ofPos p) (b := Span.ofPos q) hp hq hu]
  simp only [Span.new, hp, hq, hu, Bool.or_self, Bool.false_eq_true, if_false, if_true,
    Span.ofPos]
  split_ifs <;> simp only [Option.some.injEq, Span.mk.injEq, true_and] <;> omega

/-- The positions `5` and `2` of unit `1`, in either order, span `[2, 5)`. -/
theorem Span.new_hull_swapped :
    Span.new ⟨1, 5⟩ ⟨1, 2⟩ = Span.new ⟨1, 2⟩ ⟨1, 5⟩ ∧
      Span.new ⟨1, 5⟩ ⟨1, 2⟩ = some (Span.ofPos ⟨1, 5⟩ ||| Span.ofPos ⟨1, 2⟩) :=
  ⟨(Span.new_hull _ _).1, (Span.new_hull ⟨1, 5⟩ ⟨1, 2⟩).2 rfl rfl rfl⟩

/-- `to_pos` undoes `From<Pos>`, and a span it does not send to dummy is a point span. -/
theorem Span.toPos_ofPos (p : Pos) : (Span.ofPos p).toPos = p := by
  simp [Span.toPos, Span.ofPos]

theorem Span.ofPos_toPos {s : Span} (h : s.toPos.isDummy = false) : Span.ofPos s.toPos = s := by
  obtain ⟨u, b, e⟩ := s
  unfold Span.toPos at h ⊢
  split_ifs at h ⊢ with he
  · exact congrArg (Span.mk u b) he
  · exact absurd h (by decide)

/-! ## Spanned values -/

/-- `Spanned<T>`: a value with a span, dummy when it has none. -/
structure Spanned (α : Type) where
  span : Span
  base : α
deriving DecidableEq, Repr

/-- `WithLoc::with_loc`. -/
def withLoc {α : Type} (base : α) (loc : Span) : Spanned α := ⟨loc, base⟩

/-- `WithLoc::without_loc`. -/
def withoutLoc {α : Type} (base : α) : Spanned α := ⟨.dummy, base⟩

end Kailua.Env
