import Kailua.Diag.Report

/-!
# The console sink's source excerpt

Model of what `ConsoleReport::add_span` prints before its message (`kailua_diag/src/report.rs:
119-183`, `186-327`): `strip_newline`, `calculate_column`, the lookup of the span's lines, and
`write_bytes` with the single-line and the multi-line excerpt. `ConsoleReport.render` is the
`render` parameter of `consoleReport` (`Report.lean`).

* The `Source` (`kailua_env/src/source.rs`) is not in this repository. A `SourceView` is what
  `add_span` asks of it: `file_from_span` and `lines_from_span` in one (`none` when either finds
  nothing), and `bytes_from_span`.
* `str::from_utf8` and `UnicodeWidthChar::width_cjk` are not kailua's: a `TextLayer` gives them,
  and `TextLayer.Lawful` is the one law of `from_utf8` the code relies on, that the characters
  of a decoded line take up its bytes, `len_utf8` (`Char.utf8Size`) each, which is also how
  `char_indices` counts.
* `usize` arithmetic is `Nat`. A column grows by at most 8 per byte and a line number is below
  the size of the source, so only the subtractions can wrap: `usizeSub` is `none` where they
  would. A slice is a checked `take` and `drop` (`slice`), `none` where it panics.
* The header (`path:line:col:`), the colours and the message go to the terminal and are not
  modelled; an `Excerpt` is a line's number, the bytes `write_bytes` wrote, and the marker line
  under them.

Results:
* `utf8Loop_column`, `legacyLoop_eq`: each loop of `calculate_column` computes the width of the
  characters (bytes) that end at or before the offset.
* **`calculateColumn_spec`**: `calculate_column` is the display width of the stripped line up to
  the start of the character that holds the position, or of the whole line past its end, and it
  is monotone in the position.
* `writeBytes_eq`: `write_bytes` writes the line back whole, and panics exactly where
  `begin ≤ end ≤ len` fails.
* **`ConsoleReport.addSpan_isSome`**: `add_span` prints without a panic when the lines are as it
  assumes, neither end of the span lies past the newline of its line, and the span is not
  inverted (`ConsoleReport.print_isSome`).
* **`console_slice_past_newline`**: a span that ends after a line's newline meets every
  assumption of `calculate_column`, and `add_span` panics in `write_bytes`.
* `console_agrees_iff_prints`, `console_agrees_of_fit`: the console agrees with the collector on
  a sequence of calls exactly when it prints every span, so whenever the spans fit their lines;
  **`console_collected_diverge`**: on the span past the newline above, the collector answers
  `Ok(())` and the console panics.
-/

namespace Kailua.Diag

open Kailua.Env

/-- What `add_span` asks of the `Source`. -/
structure SourceView where
  /-- `file_from_span(span)` and then `lines_from_span(span)`: the first line's number, the line
  spans from the first line to the last, and the last line's number. -/
  linesFromSpan : Span → Option (Nat × List Span × Nat)
  /-- `bytes_from_span`. -/
  bytesFromSpan : Span → List UInt8

/-- What `calculate_column` uses of `str::from_utf8` and of `unicode-width`. -/
structure TextLayer where
  /-- `str::from_utf8(line)`, as the characters of the line; `none` when it is not UTF-8. -/
  decode : List UInt8 → Option (List Char)
  /-- `UnicodeWidthChar::width_cjk`. -/
  widthCjk : Char → Option Nat

/-- The law of `str::from_utf8` that `calculate_column` relies on: the characters of a decoded
line take up its bytes, `len_utf8` of them each. -/
def TextLayer.Lawful (T : TextLayer) : Prop :=
  ∀ line cs, T.decode line = some cs → (cs.map Char.utf8Size).sum = line.length

variable {T : TextLayer}

/-! ## `strip_newline` and `calculate_column` -/

/-- `strip_newline`: the line without the `\r` and `\n` bytes at its end. -/
def stripNewline (s : List UInt8) : List UInt8 := s.rdropWhile fun b => b == 13 || b == 10

/-- `(col + 8) & !7`: the tab stop after `col`. -/
def tabStop (col : Nat) : Nat := (col + 8) / 8 * 8

/-- The column after the character `c`, from `col`. -/
def TextLayer.advance (T : TextLayer) (col : Nat) (c : Char) : Nat :=
  if c = '\t' then tabStop col else col + (T.widthCjk c).getD 1

/-- The column after the byte `b`, from `col`, in a legacy encoding. -/
def byteAdvance (col : Nat) (b : UInt8) : Nat := if b = 9 then tabStop col else col + 1

/-- The `for (i, c) in line.char_indices()` loop of `calculate_column`, from byte `i` with the
columns `lastcol` and `col`: `.inl` is its `return lastcol`, `.inr` the two columns when the
characters run out. -/
def TextLayer.utf8Loop (T : TextLayer) (off : Nat) :
    Nat → Nat → Nat → List Char → Nat ⊕ (Nat × Nat)
  | _, lastcol, col, [] => .inr (lastcol, col)
  | i, lastcol, col, c :: cs =>
    if off < i then .inl lastcol else T.utf8Loop off (i + c.utf8Size) col (T.advance col c) cs

/-- What `calculate_column` makes of the UTF-8 loop: its `return`, or after it `lastcol` when
the offset is inside the line of `len` bytes and `col` when it is past it. -/
def loopColumn (off len : Nat) : Nat ⊕ (Nat × Nat) → Nat
  | .inl lastcol => lastcol
  | .inr (lastcol, col) => if off < len then lastcol else col

/-- The `for (i, &c) in line.iter().enumerate()` loop of `calculate_column`. -/
def legacyLoop (off : Nat) : Nat → Nat → List UInt8 → Nat
  | _, col, [] => col
  | i, col, c :: cs => if off ≤ i then col else legacyLoop off (i + 1) (byteAdvance col c) cs

/-- `ConsoleReport::calculate_column`: `none` where its `assert!` fails. Once it holds, the
subtraction cannot wrap. -/
def calculateColumn (T : TextLayer) (view : SourceView) (linespan : Span) (pos : Pos) :
    Option Nat :=
  if linespan.containsOrEnd pos then
    let off := pos.pos - linespan.begin
    let line := stripNewline (view.bytesFromSpan linespan)
    some <| match T.decode line with
      | some cs => loopColumn off line.length (T.utf8Loop off 0 0 0 cs)
      | none => legacyLoop off 0 0 line
  else none

/-- The characters of a line that end at or before byte `off`: those before the character that
holds `off`, or all of them when `off` is past the line. -/
def charsBefore (off : Nat) : List Char → List Char
  | [] => []
  | c :: cs => if c.utf8Size ≤ off then c :: charsBefore (off - c.utf8Size) cs else []

/-- The column of byte `off` of a stripped line, as the specification gives it: the display
width of the characters before the one that holds `off`, or of the whole line when `off` is past
it; in a legacy encoding each byte is a character of width one. -/
def lineColumn (T : TextLayer) (line : List UInt8) (off : Nat) : Nat :=
  match T.decode line with
  | some cs => (charsBefore off cs).foldl T.advance 0
  | none => (line.take off).foldl byteAdvance 0

/-- `charsBefore` is the prefix of the characters up to the start of the one that holds `off`:
it takes at most `off` bytes, and the next character, if any, reaches past `off`. -/
theorem charsBefore_spec (off : Nat) (cs : List Char) :
    ∃ rest, cs = charsBefore off cs ++ rest ∧
      ((charsBefore off cs).map Char.utf8Size).sum ≤ off ∧
      ∀ c ∈ rest.head?, off < ((charsBefore off cs).map Char.utf8Size).sum + c.utf8Size := by
  induction cs generalizing off with
  | nil => exact ⟨[], rfl, Nat.zero_le _, by simp⟩
  | cons c cs ih =>
    by_cases hc : c.utf8Size ≤ off
    · obtain ⟨rest, hcs, hle, hnext⟩ := ih (off - c.utf8Size)
      refine ⟨rest, by simp [charsBefore, hc, ← hcs], by simp [charsBefore, hc]; omega, ?_⟩
      intro d hd
      have := hnext d hd
      simp only [charsBefore, hc, if_true, List.map_cons, List.sum_cons]
      omega
    · exact ⟨c :: cs, by simp [charsBefore, hc], by simp [charsBefore, hc], by
        simp [charsBefore, hc]; omega⟩

theorem tabStop_spec (col : Nat) :
    col < tabStop col ∧ tabStop col % 8 = 0 ∧ tabStop col ≤ col + 8 := by
  unfold tabStop
  omega

theorem TextLayer.le_advance (T : TextLayer) (col : Nat) (c : Char) : col ≤ T.advance col c := by
  unfold TextLayer.advance
  split_ifs
  · exact (tabStop_spec col).1.le
  · exact Nat.le_add_right _ _

theorem le_byteAdvance (col : Nat) (b : UInt8) : col ≤ byteAdvance col b := by
  unfold byteAdvance
  split_ifs
  · exact (tabStop_spec col).1.le
  · exact Nat.le_succ _

/-- A fold of a step that never lowers the column never lowers it. -/
theorem le_foldl_of_le {α : Type} {f : Nat → α → Nat} (hf : ∀ col a, col ≤ f col a)
    (t : List α) (col : Nat) : col ≤ t.foldl f col := by
  induction t generalizing col with
  | nil => exact Nat.le_refl _
  | cons a t ih => exact (hf col a).trans (ih _)

/-- Such a fold grows along prefixes. -/
theorem foldl_le_foldl_of_extends {α : Type} {f : Nat → α → Nat}
    (hf : ∀ col a, col ≤ f col a) {l₁ l₂ : List α} (h : l₁ <+: l₂) (col : Nat) : l₁.foldl f col ≤ l₂.foldl f col := by
  obtain ⟨t, rfl⟩ := h
  rw [List.foldl_append]
  exact le_foldl_of_le hf t _

theorem charsBefore_mono {off off' : Nat} (h : off ≤ off') (cs : List Char) :
    charsBefore off cs <+: charsBefore off' cs := by
  induction cs generalizing off off' with
  | nil => exact List.prefix_refl _
  | cons c cs ih =>
    by_cases hc : c.utf8Size ≤ off
    · simpa [charsBefore, hc, show c.utf8Size ≤ off' by omega] using ih (Nat.sub_le_sub_right h _)
    · simp [charsBefore, hc]

/-- The column the specification gives grows with the offset. -/
theorem lineColumn_mono (T : TextLayer) (line : List UInt8) {off off' : Nat} (h : off ≤ off') :
    lineColumn T line off ≤ lineColumn T line off' := by
  unfold lineColumn
  split
  · exact foldl_le_foldl_of_extends T.le_advance (charsBefore_mono h _) 0
  · exact foldl_le_foldl_of_extends le_byteAdvance (List.take_prefix_take_left _ h) 0

/-- Once the offset is behind byte `i`, the loop's column is its `lastcol`: the character just
passed holds the offset. -/
theorem TextLayer.utf8Loop_past {off i n : Nat} (h : off < i) (hn : i ≤ n) (lastcol col : Nat)
    (cs : List Char) : loopColumn off n (T.utf8Loop off i lastcol col cs) = lastcol := by
  cases cs with
  | nil => simp [TextLayer.utf8Loop, loopColumn, show off < n by omega]
  | cons c cs => simp [TextLayer.utf8Loop, loopColumn, h]

/-- The loop lemma of the UTF-8 branch: from byte `i ≤ off` on, `calculate_column` adds the
width of the characters that end at or before `off`. -/
theorem TextLayer.utf8Loop_column {off i : Nat} (h : i ≤ off) (lastcol col : Nat)
    (cs : List Char) :
    loopColumn off (i + (cs.map Char.utf8Size).sum) (T.utf8Loop off i lastcol col cs) =
      (charsBefore (off - i) cs).foldl T.advance col := by
  induction cs generalizing i lastcol col with
  | nil => simp [TextLayer.utf8Loop, loopColumn, charsBefore, Nat.not_lt.2 h]
  | cons c cs ih =>
    simp only [TextLayer.utf8Loop, charsBefore, if_neg (Nat.not_lt.2 h), List.map_cons,
      List.sum_cons, ← Nat.add_assoc]
    by_cases hc : c.utf8Size ≤ off - i
    · rw [if_pos hc, List.foldl_cons, Nat.sub_sub, ih (by omega)]
    · rw [if_neg hc, List.foldl_nil]
      exact T.utf8Loop_past (by omega) (Nat.le_add_right _ _) _ _ _

/-- The loop lemma of the legacy branch: from byte `i` on, the width of the bytes before
`off`. -/
theorem legacyLoop_eq (off i col : Nat) (bs : List UInt8) :
    legacyLoop off i col bs = (bs.take (off - i)).foldl byteAdvance col := by
  induction bs generalizing i col with
  | nil => simp [legacyLoop]
  | cons b bs ih =>
    by_cases h : off ≤ i
    · simp [legacyLoop, h, Nat.sub_eq_zero_of_le h]
    · rw [legacyLoop, if_neg h, ih, show off - i = off - (i + 1) + 1 by omega,
        List.take_succ_cons, List.foldl_cons]

/-- `calculate_column` computes the column the specification gives. -/
theorem calculateColumn_eq (hT : T.Lawful) (view : SourceView) {linespan : Span} {pos : Pos}
    (h : linespan.containsOrEnd pos = true) :
    calculateColumn T view linespan pos =
      some (lineColumn T (stripNewline (view.bytesFromSpan linespan))
        (pos.pos - linespan.begin)) := by
  simp only [calculateColumn, h, if_true, lineColumn, Option.some.injEq]
  split
  · next cs hcs =>
    have := T.utf8Loop_column (Nat.zero_le (pos.pos - linespan.begin)) 0 0 cs
    rwa [Nat.zero_add, hT _ _ hcs, Nat.sub_zero] at this
  · exact legacyLoop_eq _ _ _ _

/-- **`calculate_column` is the width of the line up to the position**, for every line and every
position within its line span: the display width of the newline-stripped line up to the start
of the character that holds the position, or of the whole stripped line when the position is at
or past its end, tabs to the next multiple of 8; and it is monotone in the position. -/
theorem calculateColumn_spec (hT : T.Lawful) (view : SourceView) (linespan : Span) :
    (∀ pos, linespan.containsOrEnd pos = true →
      calculateColumn T view linespan pos =
        some (lineColumn T (stripNewline (view.bytesFromSpan linespan))
          (pos.pos - linespan.begin))) ∧
      ∀ pos pos', linespan.containsOrEnd pos = true → linespan.containsOrEnd pos' = true →
        pos.pos ≤ pos'.pos → ∃ col col', calculateColumn T view linespan pos = some col ∧
          calculateColumn T view linespan pos' = some col' ∧ col ≤ col' :=
  ⟨fun _ h => calculateColumn_eq hT view h, fun _ _ h h' hle =>
    ⟨_, _, calculateColumn_eq hT view h, calculateColumn_eq hT view h',
      lineColumn_mono T _ (Nat.sub_le_sub_right hle _)⟩⟩

/-- A text layer for ASCII: a line is UTF-8 when every byte is below `0x80`, each byte a
character; `width_cjk` is `None` for the control characters and `1` for the others. -/
def asciiLayer : TextLayer where
  decode line :=
    if line.all fun b => b.toNat < 128 then some (line.map fun b => Char.ofNat b.toNat) else none
  widthCjk c := if c.toNat < 32 ∨ c.toNat = 127 then none else some 1

theorem utf8Size_ascii : ∀ n : Fin 128, (Char.ofNat n).utf8Size = 1 := by decide

theorem asciiLayer_lawful : asciiLayer.Lawful := by
  intro line cs h
  simp only [asciiLayer] at h
  split_ifs at h with hall
  cases h
  induction line with
  | nil => rfl
  | cons b bs ih =>
    simp only [List.all_cons, Bool.and_eq_true, decide_eq_true_eq] at hall
    have hb := utf8Size_ascii ⟨b.toNat, hall.1⟩
    simp only [List.map_cons, List.sum_cons, List.length_cons, ih hall.2] at hb ⊢
    omega

/-- The third byte of `\tab\n` is in column 9, past the tab stop. -/
theorem calculateColumn_tab :
    calculateColumn asciiLayer ⟨fun _ => none, fun _ => [9, 97, 98, 10]⟩ ⟨1, 0, 4⟩ ⟨1, 2⟩ =
      some 9 :=
  ((calculateColumn_spec asciiLayer_lawful _ _).1 ⟨1, 2⟩ (by decide)).trans (by decide)

/-! ## `write_bytes` -/

/-- `usize` subtraction: `none` where it wraps, which panics in a debug build. -/
def usizeSub (a b : Nat) : Option Nat := if b ≤ a then some (a - b) else none

/-- `&bytes[a..b]`: `none` where it panics. -/
def slice (bytes : List UInt8) (a b : Nat) : Option (List UInt8) :=
  if a ≤ b ∧ b ≤ bytes.length then some ((bytes.take b).drop a) else none

/-- `write_bytes`: the line, with `bytes[begin..stop]` highlighted, as the bytes it writes. -/
def writeBytes (bytes : List UInt8) (begin stop : Nat) : Option (List UInt8) := do
  let pre ← if 0 < begin then slice bytes 0 begin else pure []
  let mid ← slice bytes begin stop
  let post ← if stop < bytes.length then slice bytes stop bytes.length else pure []
  pure (pre ++ mid ++ post)

theorem usizeSub_eq_some {a b : Nat} (h : b ≤ a) : usizeSub a b = some (a - b) := if_pos h

/-- `write_bytes` writes the line back whole, and panics exactly where `begin ≤ stop ≤ len`
fails. -/
theorem writeBytes_eq (bytes : List UInt8) (begin stop : Nat) :
    writeBytes bytes begin stop =
      if begin ≤ stop ∧ stop ≤ bytes.length then some bytes else none := by
  by_cases h : begin ≤ stop ∧ stop ≤ bytes.length
  · have key : bytes.take begin ++ (bytes.take stop).drop begin = bytes.take stop := by
      rw [show bytes.take begin = (bytes.take stop).take begin by
        rw [List.take_take, Nat.min_eq_left h.1], List.take_append_drop]
    have hs : ∀ a b, a ≤ b → b ≤ bytes.length → slice bytes a b = some ((bytes.take b).drop a) :=
      fun _ _ ha hb => if_pos ⟨ha, hb⟩
    simp only [writeBytes, hs _ _ h.1 h.2, hs 0 begin (Nat.zero_le _) (by omega),
      hs stop _ h.2 (le_refl _), List.drop_zero, List.take_length]
    split_ifs <;> simp_all [← List.append_assoc]
  · have hmid : slice bytes begin stop = none := if_neg h
    simp [writeBytes, hmid, h]

/-! ## `add_span` -/

/-- `codeinfo`: the first and the last line of the span, each with its column and line span. -/
structure CodeInfo where
  beginline : Nat
  begincol : Nat
  beginspan : Span
  endline : Nat
  endcol : Nat
  endspan : Span
deriving DecidableEq, Repr

/-- A line `add_span` prints under the message: its number, the bytes `write_bytes` wrote, and
the marker line under them; or the `:` line that stands for the lines between the first and the
last. -/
inductive Excerpt
  | line (lineno : Nat) (bytes : List UInt8) (marker : String)
  | omitted
deriving DecidableEq, Repr

/-- `{:n$}` of the empty string: `n` spaces. -/
def spaces (n : Nat) : String := String.mk (List.replicate n ' ')

/-- The lookup that opens `add_span`: `some none` for a span without lines, and `none` where
`spans.next().unwrap()` or `calculate_column` panics. -/
def ConsoleReport.locate (T : TextLayer) (view : SourceView) (span : Span) :
    Option (Option CodeInfo) :=
  match view.linesFromSpan span with
  | none => some none
  | some (beginline, spans, endline) => do
    let beginspan ← spans.head?
    let begincol ← calculateColumn T view beginspan span.beginPos
    let endspan := spans.tail.getLast?.getD beginspan
    let endcol ← calculateColumn T view endspan span.endPos
    pure (some ⟨beginline, begincol, beginspan, endline, endcol, endspan⟩)

/-- The excerpt `add_span` prints once it has located the span: one line with the span
highlighted and marked, or its first and last lines with `from here...` and `...to here`. -/
def ConsoleReport.excerpt (view : SourceView) (span : Span) (ci : CodeInfo) :
    Option (List Excerpt) :=
  if ci.beginline = ci.endline then do
    let bytes := stripNewline (view.bytesFromSpan ci.beginspan)
    let beginoff ← usizeSub span.begin ci.beginspan.begin
    let endoff ← usizeSub span.end ci.beginspan.begin
    let written ← writeBytes bytes beginoff endoff
    let marker ← if ci.begincol = ci.endcol then pure (spaces ci.begincol ++ "*")
      else (usizeSub ci.endcol ci.begincol).map fun n =>
        spaces ci.begincol ++ String.mk (List.replicate n '^')
    pure [.line ci.beginline written marker]
  else do
    let beginbytes := stripNewline (view.bytesFromSpan ci.beginspan)
    let beginoff ← usizeSub span.begin ci.beginspan.begin
    let first ← writeBytes beginbytes beginoff beginbytes.length
    let gap ← usizeSub ci.endline ci.beginline
    let endbytes := stripNewline (view.bytesFromSpan ci.endspan)
    let endoff ← usizeSub span.end ci.endspan.begin
    let last ← writeBytes endbytes 0 endoff
    pure ([.line ci.beginline first (spaces ci.begincol ++ "^ from here...")] ++
      (if 1 < gap then [.omitted] else []) ++
      [.line ci.endline last
        ((if ci.endcol = 0 then "*" else spaces (ci.endcol - 1) ++ "^") ++ " ...to here")])

/-- What `add_span` prints under its message; `none` is a panic. -/
def ConsoleReport.print (T : TextLayer) (view : SourceView) (span : Span) :
    Option (List Excerpt) := do
  match ← ConsoleReport.locate T view span with
  | none => pure []
  | some ci => ConsoleReport.excerpt view span ci

/-- The printing of `ConsoleReport::add_span`, as `consoleReport` takes it. -/
def ConsoleReport.render (T : TextLayer) (view : SourceView) (span : Span) : Option Unit :=
  (ConsoleReport.print T view span).map fun _ => ()

/-- What `calculate_column` asserts and `add_span` assumes of the lines the source gives for a
span: there is a first line span, it holds the span's begin and the last one its end, a span on
one line has one line span, lines come in order, and the bytes of a line span are its whole
range, terminator included. -/
def SourceView.LinesFit (view : SourceView) (span : Span) : Prop :=
  ∀ beginline spans endline, view.linesFromSpan span = some (beginline, spans, endline) →
    ∃ beginspan rest, spans = beginspan :: rest ∧
      beginspan.containsOrEnd span.beginPos = true ∧
      (rest.getLast?.getD beginspan).containsOrEnd span.endPos = true ∧
      (beginline = endline → rest = []) ∧ beginline ≤ endline ∧
      ∀ ls ∈ spans, (view.bytesFromSpan ls).length = ls.end - ls.begin

/-- No end of the span lies past the newline of a line span that holds it. -/
def SourceView.WithinLines (view : SourceView) (span : Span) : Prop :=
  ∀ beginline spans endline, view.linesFromSpan span = some (beginline, spans, endline) →
    ∀ ls ∈ spans, ∀ p ∈ [span.beginPos, span.endPos], ls.containsOrEnd p = true →
      p.pos - ls.begin ≤ (stripNewline (view.bytesFromSpan ls)).length

theorem Span.begin_le_of_containsOrEnd {s : Span} {p : Pos} (h : s.containsOrEnd p = true) :
    s.begin ≤ p.pos := by
  simp only [Span.containsOrEnd, Bool.and_eq_true, decide_eq_true_eq] at h
  exact h.1.2

/-- Once the lines are as `add_span` assumes, the lookup finds them and both columns. -/
theorem ConsoleReport.locate_eq (hT : T.Lawful) {view : SourceView} {span : Span}
    {beginline endline : Nat} {beginspan : Span} {rest : List Span}
    (hl : view.linesFromSpan span = some (beginline, beginspan :: rest, endline))
    (hb : beginspan.containsOrEnd span.beginPos = true)
    (he : (rest.getLast?.getD beginspan).containsOrEnd span.endPos = true) :
    ConsoleReport.locate T view span = some (some ⟨beginline,
      lineColumn T (stripNewline (view.bytesFromSpan beginspan)) (span.begin - beginspan.begin),
      beginspan, endline,
      lineColumn T (stripNewline (view.bytesFromSpan (rest.getLast?.getD beginspan)))
        (span.end - (rest.getLast?.getD beginspan).begin),
      rest.getLast?.getD beginspan⟩) := by
  simp [ConsoleReport.locate, hl, calculateColumn_eq hT view hb, calculateColumn_eq hT view he]
  exact ⟨rfl, rfl⟩

/-- The excerpt is printed without a panic when both offsets lie in their stripped lines, the
lines come in order, and on one line the span's end is not before its begin and its column not
before the begin's. -/
theorem ConsoleReport.excerpt_isSome {view : SourceView} {span : Span} {ci : CodeInfo}
    (hb : ci.beginspan.begin ≤ span.begin)
    (hbin : span.begin - ci.beginspan.begin ≤
      (stripNewline (view.bytesFromSpan ci.beginspan)).length)
    (he : ci.endspan.begin ≤ span.end)
    (hein : span.end - ci.endspan.begin ≤ (stripNewline (view.bytesFromSpan ci.endspan)).length)
    (hle : ci.beginline ≤ ci.endline)
    (hone : ci.beginline = ci.endline →
      ci.endspan = ci.beginspan ∧ span.begin ≤ span.end ∧ ci.begincol ≤ ci.endcol) :
    (ConsoleReport.excerpt view span ci).isSome := by
  by_cases h : ci.beginline = ci.endline
  · obtain ⟨hspan, hse, hcol⟩ := hone h
    rw [hspan] at he hein
    have hoff : span.begin - ci.beginspan.begin ≤ span.end - ci.beginspan.begin := by omega
    simp only [ConsoleReport.excerpt, h, if_true, usizeSub_eq_some hb, usizeSub_eq_some he,
      Option.bind_eq_bind, Option.some_bind, writeBytes_eq, hoff, hein, and_self]
    split_ifs <;> simp [usizeSub_eq_some hcol]
  · simp [ConsoleReport.excerpt, h, usizeSub_eq_some hb, usizeSub_eq_some he,
      usizeSub_eq_some hle, writeBytes_eq, hbin, hein]

theorem getLast?_getD_mem {α : Type} (b : α) (rest : List α) :
    rest.getLast?.getD b ∈ b :: rest := by
  cases h : rest.getLast? with
  | none => exact List.mem_cons_self _ _
  | some x => exact List.mem_cons_of_mem _ (List.mem_of_getLast?_eq_some h)

/-- `add_span` prints without a panic when the lines are as it assumes, neither end of the span
lies past the newline of its line, and the span does not end before it begins. -/
theorem ConsoleReport.print_isSome (hT : T.Lawful) {view : SourceView} {span : Span}
    (hfit : view.LinesFit span) (hin : view.WithinLines span) (hspan : span.begin ≤ span.end) :
    (ConsoleReport.print T view span).isSome := by
  cases hl : view.linesFromSpan span with
  | none => simp [ConsoleReport.print, ConsoleReport.locate, hl]
  | some r =>
    obtain ⟨beginline, spans, endline⟩ := r
    obtain ⟨beginspan, rest, rfl, hb, he, hone, hle, -⟩ := hfit _ _ _ hl
    have hw := hin _ _ _ hl
    simp only [ConsoleReport.print, ConsoleReport.locate_eq hT hl hb he, Option.bind_eq_bind,
      Option.some_bind]
    refine ConsoleReport.excerpt_isSome (Span.begin_le_of_containsOrEnd hb)
      (hw _ (List.mem_cons_self _ _) _ (by simp) hb) (Span.begin_le_of_containsOrEnd he)
      (hw _ (getLast?_getD_mem _ _) _ (by simp) he) hle fun h => ?_
    obtain rfl := hone h
    exact ⟨rfl, hspan, lineColumn_mono T _ (Nat.sub_le_sub_right hspan _)⟩

/-- So `ConsoleReport::add_span` returns, and the sink's results of `Report.lean` apply. -/
theorem ConsoleReport.addSpan_isSome (hT : T.Lawful) {view : SourceView} {span : Span}
    (hfit : view.LinesFit span) (hin : view.WithinLines span) (hspan : span.begin ≤ span.end)
    (st : ConsoleReport) (kind : Kind) (msg : String) :
    (ConsoleReport.addSpan (ConsoleReport.render T view) st kind span msg).isSome := by
  simp only [ConsoleReport.addSpan, ConsoleReport.render, Option.isSome_map']
  exact ConsoleReport.print_isSome hT hfit hin hspan

/-- Line `0` of unit `1` is `ab\n` and the span covers `ab`: `add_span` prints it. -/
theorem ConsoleReport.addSpan_isSome_line :
    let view : SourceView := ⟨fun _ => some (0, [⟨1, 0, 3⟩], 0), fun _ => [97, 98, 10]⟩
    view.LinesFit ⟨1, 0, 2⟩ ∧ view.WithinLines ⟨1, 0, 2⟩ ∧
      (ConsoleReport.addSpan (ConsoleReport.render asciiLayer view) .new .error ⟨1, 0, 2⟩
        "").isSome := by
  intro view
  have hfit : view.LinesFit ⟨1, 0, 2⟩ := by
    intro beginline spans endline hl
    simp only [view, Option.some.injEq, Prod.mk.injEq] at hl
    obtain ⟨rfl, rfl, rfl⟩ := hl
    exact ⟨_, [], rfl, by decide, by decide, fun _ => rfl, le_refl 0, by simp [view]⟩
  have hin : view.WithinLines ⟨1, 0, 2⟩ := by
    intro beginline spans endline hl ls hls p hp _
    simp only [view, Option.some.injEq, Prod.mk.injEq] at hl
    obtain ⟨rfl, rfl, rfl⟩ := hl
    rw [List.mem_singleton.mp hls]
    simp only [Span.beginPos, Span.endPos, List.mem_cons, List.mem_singleton, List.not_mem_nil,
      or_false] at hp
    rcases hp with rfl | rfl <;> decide
  exact ⟨hfit, hin, ConsoleReport.addSpan_isSome asciiLayer_lawful hfit hin (by decide) _ _ _⟩

/-- A span that ends after a line's newline: line `0` of unit `1` is `ab\n`, and the span covers
`b\n`. The lines are as `add_span` assumes, but the span's end lies past the stripped line `ab`,
and for every text layer `add_span` panics where `write_bytes` slices `bytes[1..3]` out of its
two bytes. -/
theorem console_slice_past_newline (T : TextLayer) (st : ConsoleReport) (kind : Kind)
    (msg : String) :
    let view : SourceView := ⟨fun _ => some (0, [⟨1, 0, 3⟩], 0), fun _ => [97, 98, 10]⟩
    view.LinesFit ⟨1, 1, 3⟩ ∧ ¬ view.WithinLines ⟨1, 1, 3⟩ ∧
      ConsoleReport.addSpan (ConsoleReport.render T view) st kind ⟨1, 1, 3⟩ msg = none := by
  intro view
  refine ⟨?_, fun h => ?_, ?_⟩
  · intro beginline spans endline hl
    simp only [view, Option.some.injEq, Prod.mk.injEq] at hl
    obtain ⟨rfl, rfl, rfl⟩ := hl
    exact ⟨_, [], rfl, by decide, by decide, fun _ => rfl, le_refl 0, by simp [view]⟩
  · exact absurd (h 0 [⟨1, 0, 3⟩] 0 rfl _ (List.mem_singleton_self _) ⟨1, 3⟩
      (by simp [Span.endPos]) (by decide)) (by decide)
  · rfl

/-! ## Against `CollectedReport` -/

/-- `ConsoleReport`, printing from `view`, and `CollectedReport` agree on a sequence of calls
(`console_collected_agree`) exactly when every span of it prints without a panic. -/
theorem console_agrees_iff_prints (T : TextLayer) (view : SourceView) (calls : List Call) :
    (consoleReport (ConsoleReport.render T view)).observe .new calls =
        collectedReport.observe .new calls ↔
      ∀ c ∈ calls, (ConsoleReport.print T view c.loc).isSome := by
  obtain ⟨-, -, hc, hr⟩ := console_collected_agree (ConsoleReport.render T view) calls
  rw [hc, hr]
  split_ifs with h <;> simp_all [ConsoleReport.render]

/-- So they agree whenever each span's lines are as `add_span` assumes, neither end of it lies
past its line's newline, and it is not inverted. -/
theorem console_agrees_of_fit (hT : T.Lawful) {view : SourceView} {calls : List Call}
    (h : ∀ c ∈ calls, view.LinesFit c.loc ∧ view.WithinLines c.loc ∧ c.loc.begin ≤ c.loc.end) :
    (consoleReport (ConsoleReport.render T view)).observe .new calls =
      collectedReport.observe .new calls :=
  (console_agrees_iff_prints T view calls).mpr fun c hc =>
    ConsoleReport.print_isSome hT (h c hc).1 (h c hc).2.1 (h c hc).2.2

/-- The one-line source `ab\n` of unit `1` fits every span whose two ends its line holds. -/
theorem linesFit_ab {span : Span} (hb : Span.containsOrEnd ⟨1, 0, 3⟩ span.beginPos = true)
    (he : Span.containsOrEnd ⟨1, 0, 3⟩ span.endPos = true) :
    SourceView.LinesFit ⟨fun _ => some (0, [⟨1, 0, 3⟩], 0), fun _ => [97, 98, 10]⟩ span := by
  intro beginline spans endline hl
  simp only [Option.some.injEq, Prod.mk.injEq] at hl
  obtain ⟨rfl, rfl, rfl⟩ := hl
  exact ⟨_, [], rfl, hb, he, fun _ => rfl, le_refl 0, by simp⟩

/-- **The console and the collector part on a span past a line's newline.** Line `0` of unit `1`
is `ab\n`, its lines fit the span `b\n`, and one `Error` call reports that span. From their
initial states the collector answers `Ok(())` with `can_continue()` false, while the console,
with any text layer, panics in `write_bytes` before it answers. -/
theorem console_collected_diverge (T : TextLayer) :
    let view : SourceView := ⟨fun _ => some (0, [⟨1, 0, 3⟩], 0), fun _ => [97, 98, 10]⟩
    let calls : List Call := [⟨.error, ⟨1, 1, 3⟩, ""⟩]
    view.LinesFit ⟨1, 1, 3⟩ ∧
      (consoleReport (ConsoleReport.render T view)).observe .new calls = none ∧
      collectedReport.observe .new calls = some [(.ok (), false)] :=
  ⟨linesFit_ab (by decide) (by decide), rfl, rfl⟩

end Kailua.Diag
