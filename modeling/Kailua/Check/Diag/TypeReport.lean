import Kailua.Env.Loc

/-!
# Type reports: the builder

Model of the `TypeReport` half of `kailua_check/src/diag.rs` (lines 106-375): `Origin` and its
classes, `BinaryReportKind`, `ReportItem`, and the builder methods that append to a report; and
of the `Union` and `Lattice` impls for `Spanned<A>` (`kailua_types/src/ty/mod.rs:296-319`), which
attach spans to a failed check's report.

* The operands arrive rendered: each method displays its types in the report's locale before it
  stores them, so a rendered type is a `String` here and the type context is not modelled.
  A record key (`Key`) is the parameter `K`.
* `messages` is a `Vec` pushed at its end. The model keeps it newest first in `items`
  (`TypeReport.messages` is the `Vec` itself, `items.reverse`), so that the `pop` of `binary`
  and every `push` act on the head.
* `binary_attach_span` and `binary_attach_index` `panic!` when the tail is not the item they
  expect; that panic is `none`.

Results:
* `TypeReport.Call.apply_step`: one builder call pushes one item, or replaces a `Binary` tail by
  a `Binary` item that keeps its index (`TypeReport.Step`).
* **`typeReport_keeps`**: over every run of builder calls that does not panic, the report never
  shrinks, grows by at most one item a call, changes no item below its tail, and keeps every
  non-`Binary` item and every index once attached.
* `TypeReport.binary_tail`, `TypeReport.binary_push_of_spanned`: after `binary` the tail has dummy
  spans, unless the previous tail was an `RVar` item, whose spans it inherits; a spanned item of
  another origin is pushed over, not overwritten.
* **`binary_overwrites_spanned_rVar`**: so a spanned `RVar` item is overwritten by the next binary
  append, and the `*_attach_span` that follows it panics.
* `TypeReport.binary_layers_collapse`: the `binary` calls of the layers of one failed check,
  of increasing origin class, leave a single item, the outermost layer's;
  **`spanned_check_one_message`**: so the `Spanned<A>` wrappers of `ty/mod.rs` attach their
  operands' spans to it without a panic.
-/

namespace Kailua.Check

open Kailua.Env

/-- `Origin`: the layer of the type operation that failed. -/
inductive Origin
  | rVar
  | tVar
  | tables
  | numbers
  | strings
  | functions
  | union
  /-- A binary operation between `T` and `Union`. -/
  | tUnion
  | t
  /-- A binary operation between `T` and `Ty`. -/
  | tTy
  | ty
  | slot
deriving DecidableEq, Repr

/-- The discriminant of `Origin`. -/
def Origin.code : Origin → Nat
  | .rVar => 0x00
  | .tVar => 0x01
  | .tables => 0x10
  | .numbers => 0x11
  | .strings => 0x12
  | .functions => 0x13
  | .union => 0x20
  | .tUnion => 0x30
  | .t => 0x40
  | .tTy => 0x50
  | .ty => 0x60
  | .slot => 0x70

/-- `Origin::origin_class`: `*self as u8 >> 4`. -/
def Origin.originClass (o : Origin) : Nat := o.code / 16

/-- `Origin::can_overwrite`: a strictly higher class. -/
def Origin.canOverwrite (self prev : Origin) : Bool := prev.originClass < self.originClass

/-- `BinaryReportKind`. -/
inductive BinaryReportKind
  | notSubtype
  | notEqual
  | cannotUnion (explicit : Bool)
deriving DecidableEq, Repr

/-- `ReportItem`, over the record keys `K`. -/
inductive ReportItem (K : Type)
  | binary (kind : BinaryReportKind) (org : Origin) (lhs rhs : Spanned String) (idx : Option Nat)
  | lessArity (lhs : Span) (rhs : Spanned String) (idx : Nat)
  | moreArity (lhs : Spanned String) (rhs : Span) (idx : Nat)
  | cannotUnionSingle (ty : Spanned String)
  | cannotAssign (org : Origin) (lhs rhs : Spanned String)
  | cannotUpdate (org : Origin) (tab : Spanned String)
  | cannotFilter (org : Origin) (ty : Spanned String)
  | inextensibleRec (recspan : Span)
  | recursiveRec (recspan : Span)
  | recDuplicateKey (recspan : Span) (key : Spanned K)
  | recCannotHaveKey (recspan : Span) (key : Spanned K)
  | recShouldHaveKeys (recspan : Span) (keys : Spanned (List K))
  | recExtendedWithNonNil (recspan : Span) (key : Spanned K) (value : Spanned String)
deriving DecidableEq, Repr

variable {K : Type}

/-- Whether an item is a `Binary` one. -/
def ReportItem.isBinary : ReportItem K → Bool
  | .binary .. => true
  | _ => false

/-- The index of a `Binary` item. -/
def ReportItem.binaryIdx : ReportItem K → Option Nat
  | .binary _ _ _ _ idx => idx
  | _ => none

/-- What a later report keeps of an item at the same place of `messages`: a non-`Binary` item
as it is, and the index of a `Binary` item once attached. -/
structure ReportItem.Kept (x x' : ReportItem K) : Prop where
  /-- A non-`Binary` item is never altered. -/
  nonBinary : x.isBinary = false → x' = x
  /-- An attached index survives. -/
  index : ∀ n, x.binaryIdx = some n → x'.binaryIdx = some n

theorem ReportItem.Kept.refl (x : ReportItem K) : x.Kept x := ⟨fun _ => rfl, fun _ h => h⟩

theorem ReportItem.Kept.trans {x x' x'' : ReportItem K} (h : x.Kept x') (h' : x'.Kept x'') :
    x.Kept x'' where
  nonBinary hb := by rw [h'.nonBinary (by rwa [h.nonBinary hb]), h.nonBinary hb]
  index n hn := h'.index n (h.index n hn)

/-- `TypeReport`. -/
structure TypeReport (K : Type) where
  locale : String
  /-- `messages`, most recent first. -/
  items : List (ReportItem K)
deriving DecidableEq, Repr

namespace TypeReport

/-- The `messages` vector, in the order it was pushed. -/
def messages (r : TypeReport K) : List (ReportItem K) := r.items.reverse

/-- `TypeReport::new`. -/
def new (locale : String) : TypeReport K := ⟨locale, []⟩

/-- `self.messages.push(item)`. -/
def push (self : TypeReport K) (item : ReportItem K) : TypeReport K :=
  { self with items := item :: self.items }

/-- `TypeReport::binary`: pop the tail; overwrite it when it is a `Binary` item of the same kind
that `org` can overwrite and has no span yet, or when its origin is `RVar` (keeping its spans
and index either way); otherwise push it back and push a new item without spans. -/
def binary (self : TypeReport K) (kind : BinaryReportKind) (org : Origin) (lhs rhs : String) :
    TypeReport K :=
  match self.items with
  | .binary kind' org' lhs' rhs' idx :: rest =>
    if (kind == kind' && org.canOverwrite org' && lhs'.span.isDummy && rhs'.span.isDummy) ||
        org' == .rVar then
      { self with items := .binary kind org (withLoc lhs lhs'.span) (withLoc rhs rhs'.span) idx :: rest }
    else self.push (.binary kind org (withoutLoc lhs) (withoutLoc rhs) none)
  | _ => self.push (.binary kind org (withoutLoc lhs) (withoutLoc rhs) none)

/-- `TypeReport::binary_attach_span`: set both spans of a `Binary` tail of that kind whose spans
are dummy; panic otherwise. -/
def binaryAttachSpan (self : TypeReport K) (kind : BinaryReportKind) (lhsspan rhsspan : Span) :
    Option (TypeReport K) :=
  match self.items with
  | .binary kind' org lhs rhs idx :: rest =>
    if kind == kind' && lhs.span.isDummy && rhs.span.isDummy then
      some { self with
        items := .binary kind' org { lhs with span := lhsspan } { rhs with span := rhsspan } idx :: rest }
    else none
  | _ => none

/-- `TypeReport::binary_attach_index`: set the index of a `Binary` tail of that kind and origin
which has none; panic otherwise. -/
def binaryAttachIndex (self : TypeReport K) (kind : BinaryReportKind) (org : Origin) (index : Nat) :
    Option (TypeReport K) :=
  match self.items with
  | .binary kind' org' lhs rhs idx :: rest =>
    if kind == kind' && org == org' && idx.isNone then
      some { self with items := .binary kind' org' lhs rhs (some index) :: rest }
    else none
  | _ => none

/-- `TypeReport::not_sub`. -/
def notSub (self : TypeReport K) (org : Origin) (lhs rhs : String) : TypeReport K :=
  self.binary .notSubtype org lhs rhs

/-- `TypeReport::not_sub_attach_span`. -/
def notSubAttachSpan (self : TypeReport K) (lhsspan rhsspan : Span) : Option (TypeReport K) :=
  self.binaryAttachSpan .notSubtype lhsspan rhsspan

/-- `TypeReport::not_sub_attach_index`. -/
def notSubAttachIndex (self : TypeReport K) (org : Origin) (index : Nat) : Option (TypeReport K) :=
  self.binaryAttachIndex .notSubtype org index

/-- `TypeReport::not_eq`. -/
def notEq (self : TypeReport K) (org : Origin) (lhs rhs : String) : TypeReport K :=
  self.binary .notEqual org lhs rhs

/-- `TypeReport::not_eq_attach_span`. -/
def notEqAttachSpan (self : TypeReport K) (lhsspan rhsspan : Span) : Option (TypeReport K) :=
  self.binaryAttachSpan .notEqual lhsspan rhsspan

/-- `TypeReport::not_eq_attach_index`. -/
def notEqAttachIndex (self : TypeReport K) (org : Origin) (index : Nat) : Option (TypeReport K) :=
  self.binaryAttachIndex .notEqual org index

/-- `TypeReport::cannot_union`. -/
def cannotUnion (self : TypeReport K) (org : Origin) (lhs rhs : String) (explicit : Bool) :
    TypeReport K :=
  self.binary (.cannotUnion explicit) org lhs rhs

/-- `TypeReport::cannot_union_attach_span`. -/
def cannotUnionAttachSpan (self : TypeReport K) (lhsspan rhsspan : Span) (explicit : Bool) :
    Option (TypeReport K) :=
  self.binaryAttachSpan (.cannotUnion explicit) lhsspan rhsspan

/-- `TypeReport::cannot_union_attach_index`. -/
def cannotUnionAttachIndex (self : TypeReport K) (org : Origin) (index : Nat) (explicit : Bool) :
    Option (TypeReport K) :=
  self.binaryAttachIndex (.cannotUnion explicit) org index

/-- `TypeReport::cannot_union_single`. -/
def cannotUnionSingle (self : TypeReport K) (t : String) : TypeReport K :=
  self.push (.cannotUnionSingle (withoutLoc t))

/-- `TypeReport::less_arity`. -/
def lessArity (self : TypeReport K) (lhs : Span) (rhs : Spanned String) (index : Nat) :
    TypeReport K :=
  self.push (.lessArity lhs rhs index)

/-- `TypeReport::more_arity`. -/
def moreArity (self : TypeReport K) (lhs : Spanned String) (rhs : Span) (index : Nat) :
    TypeReport K :=
  self.push (.moreArity lhs rhs index)

/-- `TypeReport::cannot_assign`. -/
def cannotAssign (self : TypeReport K) (org : Origin) (t u : String) : TypeReport K :=
  self.push (.cannotAssign org (withoutLoc t) (withoutLoc u))

/-- `TypeReport::cannot_assign_in_place`. -/
def cannotAssignInPlace (self : TypeReport K) (org : Origin) (t : String) : TypeReport K :=
  self.push (.cannotUpdate org (withoutLoc t))

/-- `TypeReport::cannot_filter_by_flags`. -/
def cannotFilterByFlags (self : TypeReport K) (org : Origin) (t : String) : TypeReport K :=
  self.push (.cannotFilter org (withoutLoc t))

/-- `TypeReport::inextensible_record`. -/
def inextensibleRecord (self : TypeReport K) : TypeReport K :=
  self.push (.inextensibleRec .dummy)

/-- `TypeReport::recursive_record`. -/
def recursiveRecord (self : TypeReport K) : TypeReport K :=
  self.push (.recursiveRec .dummy)

/-- `TypeReport::record_duplicate_key`. -/
def recordDuplicateKey (self : TypeReport K) (k : K) : TypeReport K :=
  self.push (.recDuplicateKey .dummy (withoutLoc k))

/-- `TypeReport::record_cannot_have_key`. -/
def recordCannotHaveKey (self : TypeReport K) (k : K) : TypeReport K :=
  self.push (.recCannotHaveKey .dummy (withoutLoc k))

/-- `TypeReport::record_should_have_keys`. -/
def recordShouldHaveKeys (self : TypeReport K) (keys : List K) : TypeReport K :=
  self.push (.recShouldHaveKeys .dummy (withoutLoc keys))

/-- `TypeReport::record_extended_with_non_nil`. -/
def recordExtendedWithNonNil (self : TypeReport K) (k : K) (v : String) : TypeReport K :=
  self.push (.recExtendedWithNonNil .dummy (withoutLoc k) (withoutLoc v))

/-- A builder call. Each binary family (`not_sub`, `not_eq`, `cannot_union`) is one constructor
with its kind, for the append and for its `*_attach_span` and `*_attach_index`. -/
inductive Call (K : Type)
  | binary (kind : BinaryReportKind) (org : Origin) (lhs rhs : String)
  | attachSpan (kind : BinaryReportKind) (lhsspan rhsspan : Span)
  | attachIndex (kind : BinaryReportKind) (org : Origin) (index : Nat)
  | cannotUnionSingle (t : String)
  | lessArity (lhs : Span) (rhs : Spanned String) (index : Nat)
  | moreArity (lhs : Spanned String) (rhs : Span) (index : Nat)
  | cannotAssign (org : Origin) (t u : String)
  | cannotAssignInPlace (org : Origin) (t : String)
  | cannotFilterByFlags (org : Origin) (t : String)
  | inextensibleRecord
  | recursiveRecord
  | recordDuplicateKey (k : K)
  | recordCannotHaveKey (k : K)
  | recordShouldHaveKeys (keys : List K)
  | recordExtendedWithNonNil (k : K) (v : String)
deriving DecidableEq, Repr

/-- One builder call; `none` is a panic. -/
def Call.apply : Call K → TypeReport K → Option (TypeReport K)
  | .binary kind org lhs rhs, r => some (r.binary kind org lhs rhs)
  | .attachSpan kind lhsspan rhsspan, r => r.binaryAttachSpan kind lhsspan rhsspan
  | .attachIndex kind org index, r => r.binaryAttachIndex kind org index
  | .cannotUnionSingle t, r => some (r.cannotUnionSingle t)
  | .lessArity lhs rhs index, r => some (r.lessArity lhs rhs index)
  | .moreArity lhs rhs index, r => some (r.moreArity lhs rhs index)
  | .cannotAssign org t u, r => some (r.cannotAssign org t u)
  | .cannotAssignInPlace org t, r => some (r.cannotAssignInPlace org t)
  | .cannotFilterByFlags org t, r => some (r.cannotFilterByFlags org t)
  | .inextensibleRecord, r => some r.inextensibleRecord
  | .recursiveRecord, r => some r.recursiveRecord
  | .recordDuplicateKey k, r => some (r.recordDuplicateKey k)
  | .recordCannotHaveKey k, r => some (r.recordCannotHaveKey k)
  | .recordShouldHaveKeys keys, r => some (r.recordShouldHaveKeys keys)
  | .recordExtendedWithNonNil k v, r => some (r.recordExtendedWithNonNil k v)

/-- A run of builder calls, stopped by the first panic. -/
def run : List (Call K) → TypeReport K → Option (TypeReport K)
  | [], r => some r
  | c :: cs, r => (c.apply r).bind (run cs)

/-! ## What one call does -/

/-- One builder call: the locale stays, and one item is pushed, or a `Binary` tail is replaced by
an item that keeps what `ReportItem.Kept` asks. -/
def Step (r r' : TypeReport K) : Prop :=
  r'.locale = r.locale ∧ ((∃ x, r'.items = x :: r.items) ∨
    ∃ y x rest, r.items = y :: rest ∧ r'.items = x :: rest ∧ y.isBinary = true ∧ y.Kept x)

theorem push_step (r : TypeReport K) (x : ReportItem K) : r.Step (r.push x) :=
  ⟨rfl, .inl ⟨x, rfl⟩⟩

theorem binary_step (r : TypeReport K) (kind : BinaryReportKind) (org : Origin) (lhs rhs : String) :
    r.Step (r.binary kind org lhs rhs) := by
  unfold binary
  split
  next kind' org' lhs' rhs' idx rest hr =>
    split_ifs
    · exact ⟨rfl, .inr ⟨_, _, rest, hr, rfl, rfl, ⟨by simp [ReportItem.isBinary], fun _ h => h⟩⟩⟩
    · exact push_step r _
  · exact push_step r _

theorem binaryAttachSpan_step {r r' : TypeReport K} {kind : BinaryReportKind}
    {lhsspan rhsspan : Span} (h : r.binaryAttachSpan kind lhsspan rhsspan = some r') : r.Step r' := by
  unfold binaryAttachSpan at h
  split at h
  next kind' org lhs rhs idx rest hr =>
    split_ifs at h
    cases h
    exact ⟨rfl, .inr ⟨_, _, rest, hr, rfl, rfl, ⟨by simp [ReportItem.isBinary], fun _ h => h⟩⟩⟩
  · cases h

theorem binaryAttachIndex_step {r r' : TypeReport K} {kind : BinaryReportKind} {org : Origin}
    {index : Nat} (h : r.binaryAttachIndex kind org index = some r') : r.Step r' := by
  unfold binaryAttachIndex at h
  split at h
  next kind' org' lhs rhs idx rest hr =>
    split_ifs at h with hc
    cases h
    have hi : idx = none := by simp at hc; exact hc.2
    subst hi
    exact ⟨rfl, .inr ⟨_, _, rest, hr, rfl, rfl, ⟨by simp [ReportItem.isBinary],
      fun _ h => Option.noConfusion h⟩⟩⟩
  · cases h

/-- **What one builder call does.** -/
theorem Call.apply_step {c : Call K} {r r' : TypeReport K} (h : c.apply r = some r') :
    r.Step r' := by
  cases c with
  | binary kind org lhs rhs => cases h; exact binary_step r kind org lhs rhs
  | attachSpan => exact binaryAttachSpan_step h
  | attachIndex => exact binaryAttachIndex_step h
  | _ => cases h; exact push_step r _

/-! ## What a run keeps -/

/-- What a run of `n` calls from `r` to `r'` keeps, in the positions of the `Vec`. -/
structure Keeps (n : Nat) (r r' : TypeReport K) : Prop where
  /-- `messages` never shrinks. -/
  grows : r.messages.length ≤ r'.messages.length
  /-- It grows by at most one item a call. -/
  atMost : r'.messages.length ≤ r.messages.length + n
  /-- The items below the tail stay. -/
  below : ∀ i : Nat, i + 1 < r.messages.length → r'.messages[i]? = r.messages[i]?
  /-- Every item, the tail included, is kept as `ReportItem.Kept` asks. -/
  kept : ∀ (i : Nat) (x : ReportItem K), r.messages[i]? = some x →
    ∃ x', r'.messages[i]? = some x' ∧ x.Kept x'

theorem Keeps.refl (r : TypeReport K) : Keeps 0 r r :=
  ⟨Nat.le_refl _, Nat.le_refl _, fun _ _ => rfl, fun _ x hx => ⟨x, hx, .refl x⟩⟩

theorem Keeps.trans {m n : Nat} {r r' r'' : TypeReport K} (h : Keeps m r r') (h' : Keeps n r' r'') :
    Keeps (m + n) r r'' where
  grows := Nat.le_trans h.grows h'.grows
  atMost := by have := h.atMost; have := h'.atMost; omega
  below i hi := by rw [h'.below i (by have := h.grows; omega), h.below i hi]
  kept i x hx := by
    obtain ⟨x', hx', hk⟩ := h.kept i x hx
    obtain ⟨x'', hx'', hk'⟩ := h'.kept i x' hx'
    exact ⟨x'', hx'', hk.trans hk'⟩

/-- A pushed item lands above every item, which stay where they were. -/
theorem keeps_of_push {r r' : TypeReport K} {x : ReportItem K} (h : r'.items = x :: r.items) :
    Keeps 1 r r' := by
  have hm : r'.messages = r.messages ++ [x] := by simp [messages, h]
  have hl : ∀ {i}, i < r.messages.length → r'.messages[i]? = r.messages[i]? := fun hi => by
    rw [hm, List.getElem?_append_left hi]
  refine ⟨by simp [hm], by simp [hm], fun i hi => hl (by omega), fun i y hy => ?_⟩
  exact ⟨y, by rw [hl (List.getElem?_eq_some_iff.mp hy).1, hy], .refl y⟩

/-- A replaced tail keeps what `Kept` asks; the items below it stay. -/
theorem keeps_of_replace {r r' : TypeReport K} {y x : ReportItem K} {rest : List (ReportItem K)}
    (hr : r.items = y :: rest) (hr' : r'.items = x :: rest) (hk : y.Kept x) : Keeps 1 r r' := by
  have hm : r.messages = rest.reverse ++ [y] := by simp [messages, hr]
  have hm' : r'.messages = rest.reverse ++ [x] := by simp [messages, hr']
  refine ⟨by simp [hm, hm'], by simp [hm, hm'], fun i hi => ?_, fun i z hz => ?_⟩
  · simp only [hm, hm', List.length_append, List.length_reverse, List.length_singleton] at hi ⊢
    rw [List.getElem?_append_left (by simpa using hi), List.getElem?_append_left (by simpa using hi)]
  · rw [hm] at hz
    rw [hm']
    rcases Nat.lt_or_ge i rest.length with hi | hi
    · rw [List.getElem?_append_left (by simpa using hi)] at hz ⊢
      exact ⟨z, hz, .refl z⟩
    · rw [List.getElem?_append_right (by simpa using hi)] at hz ⊢
      cases hj : i - rest.reverse.length with
      | zero => simp only [hj] at hz ⊢; cases hz; exact ⟨x, rfl, hk⟩
      | succ j => rw [hj] at hz; simp at hz

theorem Step.keeps {r r' : TypeReport K} (h : r.Step r') : Keeps 1 r r' := by
  obtain ⟨-, ⟨_, h⟩ | ⟨_, _, _, hr, hr', -, hk⟩⟩ := h
  exacts [keeps_of_push h, keeps_of_replace hr hr' hk]

/-- The run lemma: a run of `n` calls that does not panic keeps what `Keeps n` asks. -/
theorem run_keeps : ∀ {cs : List (Call K)} {r r' : TypeReport K}, run cs r = some r' →
    Keeps cs.length r r'
  | [], r, _, h => by cases h; exact .refl r
  | c :: cs, _, _, h => by
    obtain ⟨_, h₁, h₂⟩ := Option.bind_eq_some.mp h
    rw [List.length_cons, Nat.add_comm]
    exact (Call.apply_step h₁).keeps.trans (run_keeps h₂)

/-! ## Spans attached to the tail -/

/-- After `binary`, the tail is a `Binary` item of that kind, origin and texts; its spans are
dummy, or the previous tail was an `RVar` item and they are that item's spans. -/
theorem binary_tail (r : TypeReport K) (kind : BinaryReportKind) (org : Origin)
    (lhs rhs : String) :
    ∃ lspan rspan idx rest, (r.binary kind org lhs rhs).items =
        .binary kind org ⟨lspan, lhs⟩ ⟨rspan, rhs⟩ idx :: rest ∧
      ((lspan.isDummy = true ∧ rspan.isDummy = true) ∨
        ∃ kind' lhs' rhs' idx' rest', r.items = .binary kind' .rVar lhs' rhs' idx' :: rest' ∧
          lspan = lhs'.span ∧ rspan = rhs'.span) := by
  unfold binary
  split
  next kind' org' lhs' rhs' idx rest hr =>
    split_ifs with hc
    · simp only [Bool.or_eq_true, Bool.and_eq_true, beq_iff_eq] at hc
      rcases hc with ⟨⟨_, hl⟩, hr'⟩ | rfl
      · exact ⟨_, _, idx, rest, rfl, .inl ⟨hl, hr'⟩⟩
      · exact ⟨_, _, idx, rest, rfl, .inr ⟨kind', lhs', rhs', idx, rest, hr, rfl, rfl⟩⟩
    · exact ⟨_, _, none, _, rfl, .inl ⟨rfl, rfl⟩⟩
  · exact ⟨_, _, none, _, rfl, .inl ⟨rfl, rfl⟩⟩

/-- A spanned `Binary` tail of an origin other than `RVar` is never overwritten: `binary` pushes
its item above it. -/
theorem binary_push_of_spanned {r : TypeReport K} {kind' : BinaryReportKind} {org' : Origin}
    {lhs' rhs' : Spanned String} {idx : Option Nat} {rest : List (ReportItem K)}
    (hr : r.items = .binary kind' org' lhs' rhs' idx :: rest) (ho : org' ≠ .rVar)
    (hs : lhs'.span.isDummy = false ∨ rhs'.span.isDummy = false) (kind : BinaryReportKind)
    (org : Origin) (lhs rhs : String) :
    r.binary kind org lhs rhs = r.push (.binary kind org (withoutLoc lhs) (withoutLoc rhs) none) := by
  unfold binary
  rw [hr]
  rcases hs with hs | hs <;> simp [hs, ho]

/-- The `*_attach_span` right after a `binary` append succeeds, unless the tail before the
append was a spanned `RVar` item. -/
theorem binary_attachSpan_isSome {r : TypeReport K}
    (hr : ∀ kind' lhs' rhs' idx' rest', r.items = .binary kind' .rVar lhs' rhs' idx' :: rest' →
      lhs'.span.isDummy = true ∧ rhs'.span.isDummy = true)
    (kind : BinaryReportKind) (org : Origin) (lhs rhs : String) (lhsspan rhsspan : Span) :
    ((r.binary kind org lhs rhs).binaryAttachSpan kind lhsspan rhsspan).isSome := by
  obtain ⟨lspan, rspan, idx, rest, h, hd⟩ := binary_tail r kind org lhs rhs
  have hd : lspan.isDummy = true ∧ rspan.isDummy = true := by
    rcases hd with hd | ⟨_, _, _, _, _, hr', rfl, rfl⟩
    exacts [hd, hr _ _ _ _ _ hr']
  simp [binaryAttachSpan, h, hd]

/-! ## The layers of one failed check -/

/-- The `binary` calls of the layers of one failed check, innermost first, each an origin and
the two rendered operands. -/
def binaryLayers (kind : BinaryReportKind) (layers : List (Origin × String × String))
    (r : TypeReport K) : TypeReport K :=
  layers.foldl (fun r x => r.binary kind x.1 x.2.1 x.2.2) r

/-- The step lemma: an outer layer overwrites a spanless tail of its kind from a lower class,
keeping its spans and index. -/
theorem binary_overwrite {r : TypeReport K} {kind : BinaryReportKind} {o o' : Origin}
    {lspan rspan : Span} {l r₀ : String} {idx : Option Nat} {rest : List (ReportItem K)}
    (hr : r.items = .binary kind o ⟨lspan, l⟩ ⟨rspan, r₀⟩ idx :: rest)
    (hl : lspan.isDummy = true) (hs : rspan.isDummy = true) (ho : o.originClass < o'.originClass)
    (l' r' : String) :
    (r.binary kind o' l' r').items = .binary kind o' ⟨lspan, l'⟩ ⟨rspan, r'⟩ idx :: rest := by
  unfold binary
  rw [hr]
  simp [Origin.canOverwrite, ho, hl, hs, withLoc]

/-- The run lemma: layers of strictly increasing classes above the tail's each overwrite it. -/
theorem binaryLayers_overwrite {kind : BinaryReportKind} {lspan rspan : Span}
    (hl : lspan.isDummy = true) (hs : rspan.isDummy = true) {idx : Option Nat}
    {rest : List (ReportItem K)} :
    ∀ (layers : List (Origin × String × String)) (x : Origin × String × String)
      (r : TypeReport K), r.items = .binary kind x.1 ⟨lspan, x.2.1⟩ ⟨rspan, x.2.2⟩ idx :: rest →
      (x :: layers).Chain' (fun a b => a.1.originClass < b.1.originClass) →
      (binaryLayers kind layers r).items =
        let y := (x :: layers).getLast (List.cons_ne_nil _ _)
        .binary kind y.1 ⟨lspan, y.2.1⟩ ⟨rspan, y.2.2⟩ idx :: rest
  | [], _, _, hr, _ => hr
  | y :: layers, x, r, hr, hc => by
    rw [List.chain'_cons] at hc
    exact binaryLayers_overwrite hl hs layers y _ (binary_overwrite hr hl hs hc.1 _ _) hc.2

/-- A failed nested check leaves one message. From any report whose tail is not a spanned
`RVar` item, the `binary` calls of the layers of one failure, innermost first and of strictly
increasing origin class, add at most one item: the first call appends (or overwrites) a
spanless tail and every later one overwrites it, so the report ends with the outermost layer's
item, with the first one's spans and index. -/
theorem binary_layers_collapse (r : TypeReport K) (kind : BinaryReportKind)
    (hr : ∀ kind' lhs' rhs' idx' rest', r.items = .binary kind' .rVar lhs' rhs' idx' :: rest' →
      lhs'.span.isDummy = true ∧ rhs'.span.isDummy = true)
    (x : Origin × String × String) (layers : List (Origin × String × String))
    (hc : (x :: layers).Chain' fun a b => a.1.originClass < b.1.originClass) :
    ∃ lspan rspan idx rest, (r.binary kind x.1 x.2.1 x.2.2).items =
        .binary kind x.1 ⟨lspan, x.2.1⟩ ⟨rspan, x.2.2⟩ idx :: rest ∧
      lspan.isDummy = true ∧ rspan.isDummy = true ∧
      (binaryLayers kind (x :: layers) r).items =
        let y := (x :: layers).getLast (List.cons_ne_nil _ _)
        .binary kind y.1 ⟨lspan, y.2.1⟩ ⟨rspan, y.2.2⟩ idx :: rest := by
  obtain ⟨lspan, rspan, idx, rest, h, hd⟩ := binary_tail r kind x.1 x.2.1 x.2.2
  have hd : lspan.isDummy = true ∧ rspan.isDummy = true := by
    rcases hd with hd | ⟨_, _, _, _, _, hr', rfl, rfl⟩
    exacts [hd, hr _ _ _ _ _ hr']
  exact ⟨lspan, rspan, idx, rest, h, hd.1, hd.2,
    binaryLayers_overwrite hd.1 hd.2 layers x _ h hc⟩

/-- `binary_attach_span` on a spanless `Binary` tail of its kind sets both spans. -/
theorem binaryAttachSpan_items {r : TypeReport K} {kind : BinaryReportKind} {o : Origin}
    {lspan rspan : Span} {l r₀ : String} {idx : Option Nat} {rest : List (ReportItem K)}
    (hr : r.items = .binary kind o ⟨lspan, l⟩ ⟨rspan, r₀⟩ idx :: rest)
    (hl : lspan.isDummy = true) (hs : rspan.isDummy = true) (lhsspan rhsspan : Span) :
    ∃ r', r.binaryAttachSpan kind lhsspan rhsspan = some r' ∧
      r'.items = .binary kind o ⟨lhsspan, l⟩ ⟨rhsspan, r₀⟩ idx :: rest := by
  unfold binaryAttachSpan
  rw [hr]
  simp [hl, hs]

end TypeReport

/-! ## Checks on spanned operands -/

section Spanned

variable {α β γ Ctx : Type}

/-- The `Union` and `Lattice` impls for `Spanned<A>` (`kailua_types/src/ty/mod.rs:296-319`): run
the check on the values and, when it fails, attach both operands' spans to its report with the
`*_attach_span` of its kind (`binary_attach_span`; `none` where it panics). -/
def spannedCheck (kind : BinaryReportKind) (base : α → β → Ctx → Except (TypeReport K) γ × Ctx)
    (a : Spanned α) (b : Spanned β) (ctx : Ctx) : Option (Except (TypeReport K) γ × Ctx) :=
  match base a.base b.base ctx with
  | (.ok c, ctx') => some (.ok c, ctx')
  | (.error r, ctx') => (r.binaryAttachSpan kind a.span b.span).map fun r' => (.error r', ctx')

/-- `Union for Spanned<A>`: `cannot_union_attach_span`. -/
def spannedUnion (base : α → β → Bool → Ctx → Except (TypeReport K) γ × Ctx) (a : Spanned α)
    (b : Spanned β) (explicit : Bool) (ctx : Ctx) : Option (Except (TypeReport K) γ × Ctx) :=
  spannedCheck (.cannotUnion explicit) (fun x y => base x y explicit) a b ctx

/-- `Lattice for Spanned<A>::assert_sub`: `not_sub_attach_span`. -/
def spannedAssertSub (base : α → β → Ctx → Except (TypeReport K) Unit × Ctx) (a : Spanned α)
    (b : Spanned β) (ctx : Ctx) : Option (Except (TypeReport K) Unit × Ctx) :=
  spannedCheck .notSubtype base a b ctx

/-- `Lattice for Spanned<A>::assert_eq`: `not_eq_attach_span`. -/
def spannedAssertEq (base : α → β → Ctx → Except (TypeReport K) Unit × Ctx) (a : Spanned α)
    (b : Spanned β) (ctx : Ctx) : Option (Except (TypeReport K) Unit × Ctx) :=
  spannedCheck .notEqual base a b ctx

/-- **A failed check on spanned operands gives one message, with their spans.** When the
check on the values fails with a report built layer by layer (`binary` calls of its kind,
innermost first, of strictly increasing origin class) from a report whose tail is not a
spanned `RVar` item, the `Spanned` wrapper does not panic: its report ends with a single item
for all the layers, the outermost one's, carrying both operands' spans, above what the first
layer left below it. -/
theorem spanned_check_one_message (kind : BinaryReportKind)
    (base : α → β → Ctx → Except (TypeReport K) γ × Ctx) (a : Spanned α) (b : Spanned β)
    {ctx ctx' : Ctx} {r : TypeReport K}
    (hr : ∀ kind' lhs' rhs' idx' rest', r.items = .binary kind' .rVar lhs' rhs' idx' :: rest' →
      lhs'.span.isDummy = true ∧ rhs'.span.isDummy = true)
    (x : Origin × String × String) (layers : List (Origin × String × String))
    (hc : (x :: layers).Chain' fun a b => a.1.originClass < b.1.originClass)
    (hbase : base a.base b.base ctx = (.error (TypeReport.binaryLayers kind (x :: layers) r), ctx')) :
    ∃ r' idx, spannedCheck kind base a b ctx = some (.error r', ctx') ∧
      r'.items = (let y := (x :: layers).getLast (List.cons_ne_nil _ _)
        .binary kind y.1 ⟨a.span, y.2.1⟩ ⟨b.span, y.2.2⟩ idx) ::
          (r.binary kind x.1 x.2.1 x.2.2).items.tail := by
  obtain ⟨lspan, rspan, idx, rest, h₁, hl, hs, h₂⟩ :=
    TypeReport.binary_layers_collapse r kind hr x layers hc
  obtain ⟨r', ha, hi⟩ := TypeReport.binaryAttachSpan_items h₂ hl hs a.span b.span
  refine ⟨r', idx, ?_, by rw [hi, h₁]; rfl⟩
  simp only [spannedCheck, hbase, ha, Option.map_some']

/-- A record mismatch reported by the `Tables` layer and then by the `Slot` layer, on a fresh
report, under spanned operands: one message, the slot layer's, with both spans. -/
theorem spanned_check_one_message_slot :
    let base : Unit → Unit → Unit → Except (TypeReport Unit) Unit × Unit := fun _ _ _ =>
      (.error (TypeReport.binaryLayers .notSubtype
        [(.tables, "{}", "integer"), (.slot, "{}", "integer")] (TypeReport.new "en")), ())
    ∃ r' idx, spannedCheck .notSubtype base ⟨⟨1, 0, 2⟩, ()⟩ ⟨⟨1, 5, 12⟩, ()⟩ () =
        some (.error r', ()) ∧
      r'.items = .binary .notSubtype .slot ⟨⟨1, 0, 2⟩, "{}"⟩ ⟨⟨1, 5, 12⟩, "integer"⟩ idx ::
        ((TypeReport.new "en" : TypeReport Unit).binary .notSubtype .tables "{}" "integer").items.tail :=
  spanned_check_one_message .notSubtype _ ⟨⟨1, 0, 2⟩, ()⟩ ⟨⟨1, 5, 12⟩, ()⟩
    (fun _ _ _ _ _ h => (List.cons_ne_nil _ _ h.symm).elim) (.tables, "{}", "integer")
    [(.slot, "{}", "integer")] (List.chain'_pair.mpr (by decide)) rfl

end Spanned

/-- **Builder runs keep what they built.** For every run of builder calls that does not panic,
from any report: `messages` never shrinks and grows by at most one item a call; no item below
the tail it started with is altered; a non-`Binary` item stays as it is; and a `Binary` item
with an index keeps it, through every overwrite of the tail. -/
theorem typeReport_keeps {calls : List (TypeReport.Call K)} {r r' : TypeReport K}
    (h : TypeReport.run calls r = some r') :
    r.messages.length ≤ r'.messages.length ∧
      r'.messages.length ≤ r.messages.length + calls.length ∧
      (∀ i : Nat, i + 1 < r.messages.length → r'.messages[i]? = r.messages[i]?) ∧
      (∀ (i : Nat) (x : ReportItem K), r.messages[i]? = some x → x.isBinary = false →
        r'.messages[i]? = some x) ∧
      (∀ (i : Nat) (x : ReportItem K) (n : Nat), r.messages[i]? = some x → x.binaryIdx = some n →
        ∃ x' : ReportItem K, r'.messages[i]? = some x' ∧ x'.binaryIdx = some n) := by
  have hk := TypeReport.run_keeps h
  refine ⟨hk.grows, hk.atMost, hk.below, fun i x hx hb => ?_, fun i x n hx hn => ?_⟩
  · obtain ⟨x', hx', hkx⟩ := hk.kept i x hx
    rwa [← hkx.nonBinary hb]
  · obtain ⟨x', hx', hkx⟩ := hk.kept i x hx
    exact ⟨x', hx', hkx.index n hn⟩

/-- A report holding a `not_sub` failure of the `T` layer with its argument index. -/
def indexedReport : TypeReport Unit :=
  ⟨"en", [.binary .notSubtype .t (withoutLoc "integer") (withoutLoc "string") (some 0)]⟩

/-- The slot layer overwrites it and attaches spans, then a record failure is pushed. -/
def slotCalls : List (TypeReport.Call Unit) :=
  [.binary .notSubtype .slot "integer" "string", .attachSpan .notSubtype ⟨1, 0, 3⟩ ⟨1, 6, 9⟩,
    .inextensibleRecord]

/-- The index survives the overwrite and the push. -/
theorem typeReport_keeps_slot :
    ∃ r', TypeReport.run slotCalls indexedReport = some r' ∧
      ∃ x' : ReportItem Unit, r'.messages[0]? = some x' ∧ x'.binaryIdx = some 0 :=
  ⟨_, rfl, (@typeReport_keeps Unit slotCalls indexedReport _ rfl).2.2.2.2 0 _ 0 rfl rfl⟩

/-- A report holding one `RVar` mismatch whose spans were attached. -/
def spannedRVar : Option (TypeReport Unit) :=
  ((TypeReport.new "en").notSub .rVar "string" "integer").notSubAttachSpan ⟨1, 0, 6⟩ ⟨1, 10, 17⟩

/-- **A spanned `RVar` item is overwritten.** The next `not_sub` replaces it and inherits its
spans, so the `not_sub_attach_span` of the enclosing `Spanned` comparison panics. -/
theorem binary_overwrites_spanned_rVar :
    spannedRVar.map (fun r => (r.notSub .tables "table" "integer").items) =
        some [.binary .notSubtype .tables ⟨⟨1, 0, 6⟩, "table"⟩ ⟨⟨1, 10, 17⟩, "integer"⟩ none] ∧
      spannedRVar.bind (fun r =>
        (r.notSub .tables "table" "integer").notSubAttachSpan ⟨1, 20, 25⟩ ⟨1, 10, 17⟩) = none :=
  ⟨rfl, rfl⟩

end Kailua.Check
