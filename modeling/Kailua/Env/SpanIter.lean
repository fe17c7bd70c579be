import Kailua.Env.Loc

/-!
# The span as an iterator: a double-ended queue of its positions

`Span` implements `Iterator` and `DoubleEndedIterator` over `Pos` (`loc.rs:273-326`). This file
says what that iteration is. The positions a span has still to yield are `Span.positions`:
every offset of `[begin, end)` of a source unit, in order, and none on the dummy and the builtin
unit. `next` pops the front of that list and `next_back` its back (`Deque.pop`), so a run of
calls, in any interleaving, is a run of the deque (`Deque.run`).

* An interleaving is a list of directions, `true` for `next` and `false` for `next_back`;
  `Span.run` makes the calls in order, and a `none` is the underflow panic of `next_back`.
* `Deque.taken` reads back, from the directions and the answers, the positions one end gave.

Results:
* `Span.step_refines`, `Span.run_refines`: on a well-formed span each call, and so every run,
  is the deque's, and never panics.
* `Deque.run_spec`: a run of the deque answers while positions are left and `None` after, and
  the list is what the front gave, then what is left, then what the back gave, reversed.
* **`span_iter_positions`**: the positions are those `contains` accepts, in increasing order;
  `size_hint`, `count` and `last` describe what is left at every point.
* **`Span.positions_bitand`**: iterating `a & b` yields the positions of `a` that `b` contains.
* `Span.nth_vs_next`, **`nth_then_next_repeats`**: `nth(n)` returns the position that `n + 1`
  calls of `next` return, but leaves the span as `n` calls do (`begin += n`, `loc.rs:304-312`),
  so the `next()` after it returns that position again.
-/

namespace Kailua.Env

/-! ## The abstract deque -/

namespace Deque

variable {α : Type}

/-- One call: the front when `front`, the back otherwise. -/
def pop (front : Bool) (l : List α) : Option α × List α :=
  if front then (l.head?, l.tail) else (l.getLast?, l.dropLast)

/-- A run of calls: the answers, and what is left. -/
def run : List Bool → List α → List (Option α) × List α
  | [], l => ([], l)
  | d :: ds, l =>
    let r := run ds (pop d l).2
    ((pop d l).1 :: r.1, r.2)

/-- What the `front` end (or the back one) gave over a run, in the order given. -/
def taken (front : Bool) (ds : List Bool) (outs : List (Option α)) : List α :=
  (ds.zip outs).filterMap fun p => if p.1 = front then p.2 else none

end Deque

/-! ## The span's positions -/

/-- The positions a span has still to yield, in order. -/
def Span.positions (s : Span) : List Pos :=
  if s.isSourceDependent then (List.range' s.begin (s.end - s.begin)).map (Pos.mk s.unit) else []

/-- One call of the iterator: `next` when `front`, `next_back` otherwise. -/
def Span.step (front : Bool) (s : Span) : Option (Option Pos × Span) :=
  if front then some s.next else s.nextBack

/-- A run of iterator calls: the answers and the span left; `none` if a call panics. -/
def Span.run : List Bool → Span → Option (List (Option Pos) × Span)
  | [], s => some ([], s)
  | d :: ds, s =>
    (s.step d).bind fun r => (Span.run ds r.2).map fun r' => (r.1 :: r'.1, r'.2)

/-! ## Each call pops the deque -/

section Positions

variable {s : Span}

theorem Span.positions_cons (hsd : s.isSourceDependent = true) (hlt : s.begin < s.end) :
    s.positions = ⟨s.unit, s.begin⟩ :: { s with begin := s.begin + 1 }.positions := by
  have hn : s.end - s.begin = (s.end - (s.begin + 1)) + 1 := by omega
  simp only [Span.positions, Span.isSourceDependent] at hsd ⊢
  simp [hsd, hn, List.range'_succ]

theorem Span.positions_concat (hsd : s.isSourceDependent = true) (hlt : s.begin < s.end) :
    s.positions = { s with «end» := s.end - 1 }.positions ++ [⟨s.unit, s.end - 1⟩] := by
  have hn : s.end - s.begin = (s.end - 1 - s.begin) + 1 := by omega
  have he : s.begin + (s.end - 1 - s.begin) = s.end - 1 := by omega
  simp only [Span.positions, Span.isSourceDependent] at hsd ⊢
  simp [hsd, hn, List.range'_concat, he]

/-- A span with nothing between `begin` and `end`, or off the source units, yields nothing. -/
theorem Span.positions_eq_nil (h : (s.isSourceDependent && s.begin < s.end) = false) :
    s.positions = [] := by
  by_cases hsd : s.isSourceDependent = true
  · have : s.end - s.begin = 0 := by simp [hsd] at h; omega
    simp [Span.positions, hsd, this]
  · simp [Span.positions, hsd]

/-- `next` pops the front. -/
theorem Span.next_pop (s : Span) :
    (s.next.1, s.next.2.positions) = Deque.pop true s.positions := by
  by_cases h : (s.isSourceDependent && s.begin < s.end) = true
  · simp only [Bool.and_eq_true, decide_eq_true_eq] at h
    rw [Span.positions_cons h.1 h.2]
    simp [Span.next, Deque.pop, h]
  · simp only [Bool.not_eq_true] at h
    simp [Span.next, Deque.pop, h, Span.positions_eq_nil h]

/-- `next_back` pops the back, and never underflows on a well-formed span. -/
theorem Span.nextBack_pop (s : Span) :
    ∃ r, s.nextBack = some r ∧ (r.1, r.2.positions) = Deque.pop false s.positions := by
  by_cases h : (s.isSourceDependent && s.begin < s.end) = true
  · simp only [Bool.and_eq_true, decide_eq_true_eq] at h
    rw [Span.positions_concat h.1 h.2]
    refine ⟨_, by simp [Span.nextBack, h, u32Sub, show 1 ≤ s.end by omega]; rfl, ?_⟩
    simp [Deque.pop]
  · simp only [Bool.not_eq_true] at h
    exact ⟨_, by simp [Span.nextBack, h]; rfl, by simp [Deque.pop, Span.positions_eq_nil h]⟩

theorem Span.len_positions (hs : s.WellFormed) : s.len = some s.positions.length := by
  rw [wellFormed_iff] at hs
  unfold Span.len Span.positions
  split_ifs with hsd
  · simp [u32Sub, show s.begin ≤ s.end by simp [Span.isSourceDependent, sourceDependent, builtinUnit] at hsd; omega]
  · rfl

theorem Span.last_positions (s : Span) : s.last = some s.positions.getLast? := by
  by_cases h : (s.isSourceDependent && s.begin < s.end) = true
  · simp only [Bool.and_eq_true, decide_eq_true_eq] at h
    rw [Span.positions_concat h.1 h.2]
    simp [Span.last, h, u32Sub, show 1 ≤ s.end by omega]
  · simp only [Bool.not_eq_true] at h
    simp [Span.last, h, Span.positions_eq_nil h]

end Positions

/-! ## Runs -/

/-- The step lemma: every call is the deque's, never panics, and keeps a span well formed. -/
theorem Span.step_refines (d : Bool) (s : Span) :
    ∃ r, s.step d = some r ∧ (r.1, r.2.positions) = Deque.pop d s.positions ∧
      (s.WellFormed → r.2.WellFormed) := by
  cases d with
  | false =>
    obtain ⟨r, h, hp⟩ := Span.nextBack_pop s
    exact ⟨r, h, hp, fun hs => wellFormed_nextBack hs h⟩
  | true => exact ⟨_, rfl, Span.next_pop s, wellFormed_next⟩

/-- The run lemma: a run of the iterator is the deque's run on its positions. -/
theorem Span.run_refines (ds : List Bool) (s : Span) :
    ∃ s', Span.run ds s = some ((Deque.run ds s.positions).1, s') ∧
      s'.positions = (Deque.run ds s.positions).2 ∧ (s.WellFormed → s'.WellFormed) := by
  induction ds generalizing s with
  | nil => exact ⟨s, rfl, rfl, id⟩
  | cons d ds ih =>
    obtain ⟨r, hr, hp, hw⟩ := Span.step_refines d s
    obtain ⟨s', hs', hp', hw'⟩ := ih r.2
    refine ⟨s', ?_, by rw [Deque.run, ← hp, hp'], hw' ∘ hw⟩
    rw [Deque.run, ← hp]
    simp [Span.run, hr, hs']

namespace Deque

variable {α : Type}

/-- What one call does: nothing is left and it answers `None`, or it takes one end. -/
theorem pop_cases (d : Bool) (l : List α) :
    (l = [] ∧ pop d l = (none, [])) ∨
      ∃ a l', pop d l = (some a, l') ∧ l = (if d then a :: l' else l' ++ [a]) := by
  rcases List.eq_nil_or_concat l with rfl | ⟨l', a, rfl⟩
  · cases d <;> exact .inl ⟨rfl, rfl⟩
  · right
    cases d with
    | false => exact ⟨a, l', by simp [pop], by simp⟩
    | true =>
      obtain ⟨b, l'', hb⟩ : ∃ b l'', l' ++ [a] = b :: l'' := by
        cases l' <;> simp
      exact ⟨b, l'', by simp [pop, hb], by simpa using hb⟩

theorem taken_cons (front d : Bool) (ds : List Bool) (o : Option α) (os : List (Option α)) :
    taken front (d :: ds) (o :: os) = (if d = front then o.toList else []) ++ taken front ds os := by
  cases o <;> by_cases h : d = front <;> simp [taken, h]

/-- **A run of the deque.** The `i`-th call answers exactly when `i` is below the length; the
list is what the front gave, then what is left, then what the back gave, reversed. -/
theorem run_spec (ds : List Bool) (l : List α) :
    (run ds l).1.map Option.isSome = (List.range ds.length).map (fun i => decide (i < l.length)) ∧
      l = taken true ds (run ds l).1 ++ (run ds l).2 ++ (taken false ds (run ds l).1).reverse := by
  induction ds generalizing l with
  | nil => simp [run, taken]
  | cons d ds ih =>
    obtain ⟨ih₁, ih₂⟩ := ih (pop d l).2
    simp only [run, List.map_cons, List.length_cons, List.range_succ_eq_map, List.map_map,
      taken_cons]
    rcases pop_cases d l with ⟨rfl, hp⟩ | ⟨a, l', hp, hl⟩
    · rw [hp] at ih₁ ih₂ ⊢
      refine ⟨by simpa using ih₁, by simpa using ih₂⟩
    · rw [hp] at ih₁ ih₂ ⊢
      dsimp only at ih₁ ih₂ ⊢
      subst hl
      refine ⟨?_, ?_⟩
      · rw [ih₁]
        cases d <;> simp [Function.comp_def]
      · cases d
        · simpa using congrArg (· ++ [a]) ih₂
        · simpa using congrArg (a :: ·) ih₂

end Deque

/-! ## The positions of a well-formed span -/

theorem Span.mem_positions {s : Span} (hs : s.WellFormed) (p : Pos) :
    p ∈ s.positions ↔ s.contains p = true := by
  rw [wellFormed_iff] at hs
  obtain ⟨pu, pp⟩ := p
  unfold Span.positions Span.contains
  split_ifs with hsd
  · simp only [Span.isSourceDependent, sourceDependent, builtinUnit] at hsd
    simp only [List.mem_map, List.mem_range'_1, Pos.mk.injEq, Bool.and_eq_true, decide_eq_true_eq,
      beq_iff_eq]
    constructor
    · rintro ⟨x, ⟨h1, h2⟩, rfl, rfl⟩
      simp at hsd
      omega
    · rintro ⟨⟨⟨h0, rfl⟩, h1⟩, h2⟩
      exact ⟨pp, by omega, rfl, rfl⟩
  · simp [Span.isSourceDependent, sourceDependent, builtinUnit] at hsd
    simp
    omega

theorem Span.positions_sorted (s : Span) : s.positions.Pairwise fun p q => p.pos < q.pos := by
  unfold Span.positions
  split_ifs
  · exact List.pairwise_map.mpr (List.pairwise_lt_range' _ _)
  · exact .nil

/-- **Iterating a span.** For every well-formed span and every interleaving of `next` and
`next_back` calls: the positions are exactly those `contains` accepts, in increasing order
(none for the dummy and the builtin span); the `i`-th call returns one exactly while `i` is
below their number, and `None` after; the front gave a prefix and the back a suffix, reversed,
with what is left between, so each position comes once; and at every point `size_hint()` and
`count()` are the number left and `last()` the last of them. No call panics. -/
theorem span_iter_positions {s : Span} (hs : s.WellFormed) (ds : List Bool) :
    (∀ p, p ∈ s.positions ↔ s.contains p = true) ∧
      s.positions.Pairwise (fun p q => p.pos < q.pos) ∧
      (s = .dummy ∨ s = .builtin → s.positions = []) ∧
      ∃ outs s', Span.run ds s = some (outs, s') ∧
        outs.map Option.isSome =
          (List.range ds.length).map (fun i => decide (i < s.positions.length)) ∧
        s.positions = Deque.taken true ds outs ++ s'.positions ++ (Deque.taken false ds outs).reverse ∧
        s'.sizeHint = some (s'.positions.length, some s'.positions.length) ∧
        s'.count = some s'.positions.length ∧ s'.last = some s'.positions.getLast? := by
  obtain ⟨s', hrun, hpos, hw⟩ := Span.run_refines ds s
  obtain ⟨h1, h2⟩ := Deque.run_spec ds s.positions
  have hl := Span.len_positions (hw hs)
  refine ⟨Span.mem_positions hs, Span.positions_sorted s, by rintro (rfl | rfl) <;> rfl,
    _, s', hrun, h1, by rwa [hpos], by simp [Span.sizeHint, hl], hl, Span.last_positions s'⟩

/-- Front, back, front and front over the offsets `3`, `4`, `5` of unit `1`: three answers,
then `None`. -/
theorem span_iter_positions_three :
    ∃ outs s', Span.run [true, false, true, true] ⟨1, 3, 6⟩ = some (outs, s') ∧
      outs.map Option.isSome = [true, true, true, false] := by
  obtain ⟨-, -, -, outs, s', h, hs, -⟩ :=
    span_iter_positions (s := ⟨1, 3, 6⟩) (by decide) [true, false, true, true]
  exact ⟨outs, s', h, hs.trans (by decide)⟩

/-! ## The positions of an intersection -/

/-- Membership in `positions` for any span: a source span, and a position it contains. -/
theorem Span.mem_positions_iff (s : Span) (p : Pos) :
    p ∈ s.positions ↔ s.isSourceDependent = true ∧ s.contains p = true := by
  obtain ⟨pu, pp⟩ := p
  unfold Span.positions
  split_ifs with hsd
  · simp only [Span.isSourceDependent, sourceDependent, Bool.and_eq_true, decide_eq_true_eq] at hsd
    simp only [List.mem_map, List.mem_range'_1, Pos.mk.injEq, Span.contains_eq_true,
      Span.isSourceDependent, sourceDependent, Bool.and_eq_true, decide_eq_true_eq]
    constructor
    · rintro ⟨x, ⟨h1, h2⟩, rfl, rfl⟩
      omega
    · rintro ⟨-, -, rfl, h1, h2⟩
      exact ⟨pp, by omega, rfl, rfl⟩
  · simp only [List.not_mem_nil, false_iff, not_and, hsd]
    exact fun h => absurd h Bool.false_ne_true

/-- **Iterating `a & b`** yields, in order, exactly the positions of `a` that `b` contains, for
any two spans: intersecting and then iterating is iterating and then filtering. -/
theorem Span.positions_bitand (a b : Span) :
    (a &&& b).positions = a.positions.filter fun p => b.contains p := by
  have : IsIrrefl Pos fun p q => p.pos < q.pos := ⟨fun p => lt_irrefl p.pos⟩
  have : IsAntisymm Pos fun p q => p.pos < q.pos :=
    ⟨fun _ _ h h' => absurd (h.trans h') (lt_irrefl _)⟩
  have hs := Span.positions_sorted (a &&& b)
  have hf := (Span.positions_sorted a).filter fun p => b.contains p
  refine List.eq_of_perm_of_sorted
    ((List.perm_ext_iff_of_nodup hs.nodup hf.nodup).mpr fun p => ?_) hs hf
  rw [List.mem_filter, Span.mem_positions_iff, Span.mem_positions_iff]
  rcases Span.bitand_cases a b with ⟨h, hr⟩ | ⟨-, hab, -, h⟩ <;> rw [h] <;>
    simp only [Span.contains_eq_true, Span.dummy, Span.isSourceDependent, sourceDependent,
      Bool.and_eq_true, decide_eq_true_eq, max_le_iff, lt_min_iff] <;> omega

/-! ## `nth` -/

/-- `nth(n)` returns the `n`-th position left, as `n + 1` calls of `next` would, but leaves the
positions after `n` calls of `next`: the one it returned is still there. -/
theorem Span.nth_positions {s : Span} {n : Nat} (h : n < s.positions.length) :
    ∃ s', s.nth n = some (s.positions[n]?, s') ∧ s'.positions = s.positions.drop n := by
  have hsd : s.isSourceDependent = true := by
    by_contra hsd
    simp [Span.positions, hsd] at h
  have hlen : n < s.end - s.begin := by simpa [Span.positions, hsd] using h
  have hsplit : List.range' s.begin (s.end - s.begin) =
      List.range' s.begin n ++ List.range' (s.begin + n) (s.end - (s.begin + n)) := by
    rw [List.range'_append_1]
    congr 1
    omega
  refine ⟨{ s with begin := s.begin + n }, ?_, ?_⟩
  · simp [Span.nth, hsd, u32Sub, show s.begin ≤ s.end by omega, hlen, Span.positions,
      List.getElem?_range' _ _ hlen]
  · simp only [Span.positions, Span.isSourceDependent] at hsd ⊢
    simp only [hsd, if_true]
    rw [hsplit, List.map_append, List.drop_left' (by simp)]

/-- `k` calls at the front return the first `k` elements, then `None`. -/
theorem Deque.run_fronts {α : Type} (k : Nat) (l : List α) :
    Deque.run (List.replicate k true) l =
      ((l.take k).map some ++ List.replicate (k - l.length) none, l.drop k) := by
  induction k generalizing l with
  | zero => simp [Deque.run]
  | succ k ih => cases l <;> simp [List.replicate_succ, Deque.run, Deque.pop, ih]

/-- `nth(n)` against `n + 1` calls of `next()`: both return the `n`-th position left, but `nth`
leaves one more position, the one it returned. -/
theorem Span.nth_vs_next {s : Span} {n : Nat} (h : n < s.positions.length) :
    ∃ s₁ outs s₂, s.nth n = some (s.positions[n]?, s₁) ∧
      Span.run (List.replicate (n + 1) true) s = some (outs, s₂) ∧
      outs.getLast? = some s.positions[n]? ∧
      s₁.positions = s.positions.drop n ∧ s₂.positions = s.positions.drop (n + 1) := by
  obtain ⟨s₁, h₁, hp₁⟩ := Span.nth_positions h
  obtain ⟨s₂, h₂, hp₂, -⟩ := Span.run_refines (List.replicate (n + 1) true) s
  rw [Deque.run_fronts] at h₂ hp₂
  refine ⟨s₁, _, s₂, h₁, h₂, ?_, hp₁, hp₂⟩
  rw [show n + 1 - s.positions.length = 0 by omega, List.replicate_zero, List.append_nil,
    List.getLast?_map, List.getLast?_take]
  simp [h]

/-- `nth(0)` followed by `next()` returns the first position twice, where two calls of `next()`
return the first two positions. -/
theorem nth_then_next_repeats :
    (Span.nth ⟨1, 0, 3⟩ 0).map (fun r => (r.1, r.2.next.1)) = some (some ⟨1, 0⟩, some ⟨1, 0⟩) ∧
      Span.run [true, true] ⟨1, 0, 3⟩ = some ([some ⟨1, 0⟩, some ⟨1, 1⟩], ⟨1, 2, 3⟩) := by
  decide

end Kailua.Env
