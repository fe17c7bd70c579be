import Kailua.Check.Diag.Format
import Kailua.Check.Diag.TypeReport

/-!
# Type reports: the renderer

Model of `TypeReportMore::report_types` (`kailua_check/src/diag.rs:393-595`): the drain of a
report's items, newest first, into diagnostics, with the hint that turns the first positional
failure into a message about a function argument, a method argument or a return value.

* A message (`m::NotSubtype`, `m::LessArityInFuncArgs`, ...) is kept as its constructor and its
  arguments: the message texts are not rendered. A binary message carries its `Template`, the
  closure of `report_binary` it was made with.
* `cause(span, msg)` and `note_if(span, m::OtherTypeOrigin)` are not in the source: a
  `Diagnostic` is what they emit together, the primary span and message, and the span of the
  note; following the specification, `note_if` notes only a span that is not dummy.
* `QuotedList` (`Format.lean`) renders the keys of `RecShouldHaveKeys`; a key is rendered by
  `showKey`. `report_types` formats each list once, so its `expect` never fires.

Results:
* `reportItem_hint`: an item that takes a positional form (`Binary` with an index, `LessArity`,
  `MoreArity`) consumes the hint; every other item leaves it and ignores it.
* **`reportTypes_hint_once`**: one diagnostic per item in reverse storage order, the hint applied
  to the first positional item only; each `Binary` item anchored at its `rhs` span exactly when
  its `lhs` span is dummy and its `rhs` span is not.
* `reportItem_methodArgs_index`, **`methodArgs_lessArity_unshifted`**: under `MethodArgs` only
  `report_binary` subtracts one for `self`; a `LessArity` item passes its position through, so
  the same position gets two ordinals and `self` is numbered as the first argument.
-/

namespace Kailua.Check

open Kailua.Env

variable {K : Type}

/-- `TypeReportHint`. -/
inductive TypeReportHint
  | none
  | funcArgs
  | methodArgs
  | returns
deriving DecidableEq, Repr

/-- The closure a binary message is made with in `report_binary`. -/
inductive Template
  /-- `make_msg` -/
  | generic
  /-- `make_msg_in_self` -/
  | inSelf
  /-- `make_msg_in_func_args` -/
  | inFuncArgs (index : Ordinal)
  /-- `make_msg_in_method_args` -/
  | inMethodArgs (index : Ordinal)
  /-- `make_msg_in_returns` -/
  | inReturns (index : Ordinal)
deriving DecidableEq, Repr

/-- The messages of `report_types`. -/
inductive Msg (K : Type)
  | notSubtype (t : Template) (sub sup : String)
  | notEqual (t : Template) (lhs rhs : String)
  | invalidUnionType (t : Template) (lhs rhs : String)
  | lessArityInFuncArgs (other : String) (index : Ordinal)
  | moreArityInFuncArgs (index : Nat)
  | lessArityInMethodArgs (other : String) (index : Ordinal)
  | moreArityInMethodArgs (index : Nat)
  | lessArityInReturns (other : String) (index : Ordinal)
  | moreArityInReturns (index : Nat)
  | arityMismatch (other : String) (index : Ordinal)
  | cannotUnionType (ty : String)
  | cannotAssignInner (lhs rhs : String)
  | cannotUpdateInner (tab : String)
  | cannotFilterInner (ty : String)
  | inextensibleRec
  | recursiveRec
  | recDuplicateKey (key : K)
  | recCannotHaveKey (key : K)
  | recShouldHaveKeys (keys : String)
  | recExtendedWithNonNil (key : K) (slot : String)
deriving DecidableEq, Repr

/-- A diagnostic of `report_types`: `cause(span, msg)`, and the span of its `OtherTypeOrigin` note
when it has one. -/
structure Diagnostic (K : Type) where
  span : Span
  msg : Msg K
  note : Option Span
deriving DecidableEq, Repr

/-- `note_if`: a span that is not dummy. -/
def noteIf (s : Span) : Option Span := if s.isDummy then none else some s

/-! ## The drain loop -/

/-- `report_binary`: the positional closure for an index when the hint asks for one, which
consumes the hint; the diagnostic is anchored at `rhs` when only `rhs` has a span. The `0` arm
comes first, so `idx - 1` never underflows. -/
def reportBinary (lhs rhs : Spanned String) (idx : Option Nat) (hint : TypeReportHint)
    (make : Template → Msg K) : Diagnostic K × TypeReportHint :=
  let emit (t : Template) : Diagnostic K :=
    if lhs.span.isDummy && !rhs.span.isDummy then ⟨rhs.span, make t, none⟩
    else ⟨lhs.span, make t, noteIf rhs.span⟩
  match idx, hint with
  | some idx, .funcArgs => (emit (.inFuncArgs ⟨idx⟩), .none)
  | some 0, .methodArgs => (emit .inSelf, .none)
  | some idx, .methodArgs => (emit (.inMethodArgs ⟨idx - 1⟩), .none)
  | some idx, .returns => (emit (.inReturns ⟨idx⟩), .none)
  | _, hint => (emit .generic, hint)

/-- One turn of the drain loop of `report_types`: the item's diagnostic and the hint left. -/
def reportItem (locale : String) (showKey : K → String) (hint : TypeReportHint) :
    ReportItem K → Diagnostic K × TypeReportHint
  | .binary .notSubtype _ sub sup idx =>
    reportBinary sub sup idx hint fun t => .notSubtype t sub.base sup.base
  | .binary .notEqual _ lhs rhs idx =>
    reportBinary lhs rhs idx hint fun t => .notEqual t lhs.base rhs.base
  | .binary (.cannotUnion _) _ lhs rhs idx =>
    reportBinary lhs rhs idx hint fun t => .invalidUnionType t lhs.base rhs.base
  | .lessArity lhs rhs idx =>
    match hint with
    | .funcArgs => (⟨lhs, .lessArityInFuncArgs rhs.base ⟨idx⟩, noteIf rhs.span⟩, .none)
    | .methodArgs => (⟨lhs, .lessArityInMethodArgs rhs.base ⟨idx⟩, noteIf rhs.span⟩, .none)
    | .returns => (⟨rhs.span, .lessArityInReturns rhs.base ⟨idx⟩, noteIf lhs⟩, .none)
    | .none => (⟨lhs, .arityMismatch rhs.base ⟨idx⟩, noteIf rhs.span⟩, .none)
  | .moreArity lhs rhs idx =>
    match hint with
    | .funcArgs => (⟨rhs, .moreArityInFuncArgs idx, noteIf lhs.span⟩, .none)
    | .methodArgs => (⟨rhs, .moreArityInMethodArgs idx, noteIf lhs.span⟩, .none)
    | .returns => (⟨rhs, .moreArityInReturns idx, noteIf lhs.span⟩, .none)
    | .none => (⟨rhs, .arityMismatch lhs.base ⟨idx⟩, noteIf lhs.span⟩, .none)
  | .cannotUnionSingle ty => (⟨ty.span, .cannotUnionType ty.base, none⟩, hint)
  | .cannotAssign _ lhs rhs => (⟨lhs.span, .cannotAssignInner lhs.base rhs.base, noteIf rhs.span⟩, hint)
  | .cannotUpdate _ tab => (⟨tab.span, .cannotUpdateInner tab.base, none⟩, hint)
  | .cannotFilter _ ty => (⟨ty.span, .cannotFilterInner ty.base, none⟩, hint)
  | .inextensibleRec recspan => (⟨recspan, .inextensibleRec, none⟩, hint)
  | .recursiveRec recspan => (⟨recspan, .recursiveRec, none⟩, hint)
  | .recDuplicateKey recspan key => (⟨recspan, .recDuplicateKey key.base, none⟩, hint)
  | .recCannotHaveKey recspan key => (⟨recspan, .recCannotHaveKey key.base, none⟩, hint)
  | .recShouldHaveKeys recspan keys =>
    (⟨recspan, .recShouldHaveKeys (quotedList locale (keys.base.map showKey)), none⟩, hint)
  | .recExtendedWithNonNil recspan key value =>
    (⟨recspan, .recExtendedWithNonNil key.base value.base, none⟩, hint)

/-- The drain loop, over the items newest first (`messages.into_iter().rev()`). -/
def drain (locale : String) (showKey : K → String) : TypeReportHint → List (ReportItem K) →
    List (Diagnostic K)
  | _, [] => []
  | hint, item :: rest =>
    let (d, hint) := reportItem locale showKey hint item
    d :: drain locale showKey hint rest

/-- `TypeReportMore::report_types`: the diagnostics it emits, in order. -/
def reportTypes (showKey : K → String) (r : TypeReport K) (hint : TypeReportHint) :
    List (Diagnostic K) :=
  drain r.locale showKey hint r.items

/-! ## The hint is consumed once -/

/-- The items that take a positional form under a hint: a `Binary` item with an index, and the
arity items. -/
def ReportItem.consumes : ReportItem K → Bool
  | .binary _ _ _ _ idx => idx.isSome
  | .lessArity .. | .moreArity .. => true
  | _ => false

/-- The hint a template is for. -/
def Template.hint : Template → TypeReportHint
  | .generic => .none
  | .inSelf | .inMethodArgs _ => .methodArgs
  | .inFuncArgs _ => .funcArgs
  | .inReturns _ => .returns

/-- The hint a message is the positional form for; `none` for a generic message. -/
def Msg.hint : Msg K → TypeReportHint
  | .notSubtype t _ _ | .notEqual t _ _ | .invalidUnionType t _ _ => t.hint
  | .lessArityInFuncArgs .. | .moreArityInFuncArgs .. => .funcArgs
  | .lessArityInMethodArgs .. | .moreArityInMethodArgs .. => .methodArgs
  | .lessArityInReturns .. | .moreArityInReturns .. => .returns
  | _ => .none

/-- The template of a binary message. -/
def Msg.template : Msg K → Option Template
  | .notSubtype t _ _ | .notEqual t _ _ | .invalidUnionType t _ _ => some t
  | _ => none

section ReportBinary

variable (lhs rhs : Spanned String) (idx : Option Nat) (hint : TypeReportHint)
  (make : Template → Msg K)

theorem reportBinary_snd : (reportBinary lhs rhs idx hint make).2 = if idx.isSome then .none else hint := by
  rcases idx with _ | _ | idx <;> cases hint <;> rfl

theorem reportBinary_hint (hm : ∀ t, (make t).hint = t.hint) :
    (reportBinary lhs rhs idx hint make).1.msg.hint = if idx.isSome then hint else .none := by
  rcases idx with _ | _ | idx <;> cases hint <;> simp [reportBinary, apply_ite, hm, Template.hint]

theorem reportBinary_span :
    (reportBinary lhs rhs idx hint make).1.span =
      if lhs.span.isDummy && !rhs.span.isDummy then rhs.span else lhs.span := by
  rcases idx with _ | _ | idx <;> cases hint <;> simp [reportBinary] <;> split <;> rfl

end ReportBinary

section ReportItem

variable (locale : String) (showKey : K → String)

/-- A positional item consumes the hint; every other item leaves it. -/
theorem reportItem_snd (hint : TypeReportHint) (item : ReportItem K) :
    (reportItem locale showKey hint item).2 = if item.consumes then .none else hint := by
  cases item with
  | binary kind => cases kind <;> exact reportBinary_snd ..
  | lessArity | moreArity => cases hint <;> rfl
  | _ => rfl

/-- **An item takes the hint's form exactly when it is positional.** -/
theorem reportItem_hint (hint : TypeReportHint) (item : ReportItem K) :
    (reportItem locale showKey hint item).1.msg.hint = if item.consumes then hint else .none := by
  cases item with
  | binary kind => cases kind <;> exact reportBinary_hint _ _ _ _ _ fun _ => rfl
  | lessArity | moreArity => cases hint <;> rfl
  | _ => rfl

/-- An item that is not positional ignores the hint. -/
theorem reportItem_of_consumes_false {item : ReportItem K} (h : item.consumes = false)
    (hint : TypeReportHint) :
    (reportItem locale showKey hint item).1 = (reportItem locale showKey .none item).1 := by
  cases item with
  | binary kind _ _ _ idx =>
    cases idx
    · cases kind <;> cases hint <;> rfl
    · cases h
  | lessArity | moreArity => cases h
  | _ => rfl

/-- The loop lemma: the drain renders the `i`-th item with the hint if it is the first positional
item, and without it otherwise. -/
theorem drain_eq_mapIdx (hint : TypeReportHint) (items : List (ReportItem K)) :
    drain locale showKey hint items = items.mapIdx fun i item =>
      (reportItem locale showKey (if i = items.findIdx ReportItem.consumes then hint else .none) item).1 := by
  induction items generalizing hint with
  | nil => rfl
  | cons x rest ih =>
    simp only [drain, List.mapIdx_cons, List.findIdx_cons, reportItem_snd]
    cases hx : x.consumes
    · simp [ih, reportItem_of_consumes_false locale showKey hx]
    · simp [ih]

end ReportItem

/-- **The hint is consumed once.** `report_types(r, hint)` emits one diagnostic per item of
`messages`, newest first; the first positional item (a `Binary` item with an index, or an
arity item) is rendered with the hint and every other item without it; an item rendered with a
hint takes that hint's form exactly when it is positional, `in self` for a method's index `0`;
and a `Binary` item is anchored at its `rhs` span exactly when only that span is known. -/
theorem reportTypes_hint_once (showKey : K → String) (r : TypeReport K) (hint : TypeReportHint) :
    reportTypes showKey r hint = r.messages.reverse.mapIdx (fun i item =>
        (reportItem r.locale showKey
          (if i = r.messages.reverse.findIdx ReportItem.consumes then hint else .none) item).1) ∧
      (∀ h item, (reportItem r.locale showKey h item).1.msg.hint =
        if item.consumes then h else .none) ∧
      (∀ kind org lhs rhs, (reportItem r.locale showKey .methodArgs
        (.binary kind org lhs rhs (some 0))).1.msg.template = some .inSelf) ∧
      (∀ h kind org lhs rhs idx, (reportItem r.locale showKey h (.binary kind org lhs rhs idx)).1.span =
        if lhs.span.isDummy && !rhs.span.isDummy then rhs.span else lhs.span) := by
  refine ⟨by simp [reportTypes, TypeReport.messages, drain_eq_mapIdx], reportItem_hint _ _,
    fun kind _ _ _ => ?_, fun _ kind _ _ _ _ => ?_⟩
  · cases kind <;> simp [reportItem, reportBinary] <;> split <;> rfl
  · cases kind <;> exact reportBinary_span ..

/-! ## Method arguments -/

/-- The index conventions under `MethodArgs`: a `Binary` item at position `0` is `self` and one
at `k + 1` the `k`-th explicit argument, while a `LessArity` item at position `k` is numbered
`k`, `self` included. -/
theorem reportItem_methodArgs_index (locale : String) (showKey : K → String)
    (kind : BinaryReportKind) (org : Origin) (lhs rhs : Spanned String) (l : Span) (k : Nat) :
    (reportItem locale showKey .methodArgs (.binary kind org lhs rhs (some 0))).1.msg.template =
        some .inSelf ∧
      (reportItem locale showKey .methodArgs
        (.binary kind org lhs rhs (some (k + 1)))).1.msg.template = some (.inMethodArgs ⟨k⟩) ∧
      (reportItem locale showKey .methodArgs (.lessArity l rhs k)).1.msg =
        .lessArityInMethodArgs rhs.base ⟨k⟩ := by
  refine ⟨?_, ?_, rfl⟩ <;> cases kind <;> simp [reportItem, reportBinary] <;> split <;> rfl

/-- Under `MethodArgs`, position `2` is rendered as the second explicit argument in a `Binary`
message but as the third in a `LessArity` one, and a `LessArity` item at position `0`, `self`,
as the first argument. -/
theorem methodArgs_lessArity_unshifted :
    (reportTypes (fun _ : Unit => "") ⟨"en", [.binary .notSubtype .slot (withoutLoc "integer")
        (withoutLoc "string") (some 2)]⟩ .methodArgs).map Diagnostic.msg =
        [.notSubtype (.inMethodArgs ⟨1⟩) "integer" "string"] ∧
      (reportTypes (fun _ : Unit => "") ⟨"en", [.lessArity .dummy (withoutLoc "string") 2]⟩
        .methodArgs).map Diagnostic.msg = [.lessArityInMethodArgs "string" ⟨2⟩] ∧
      (reportTypes (fun _ : Unit => "") ⟨"en", [.lessArity .dummy (withoutLoc "string") 0]⟩
        .methodArgs).map Diagnostic.msg = [.lessArityInMethodArgs "string" ⟨0⟩] :=
  ⟨rfl, rfl, rfl⟩

end Kailua.Check
