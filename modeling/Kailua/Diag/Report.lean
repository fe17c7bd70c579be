import Kailua.Env.Loc

/-!
# Diagnostic sinks: `Report`, `Reporter` and `ReportMore`

Model of `kailua_diag/src/report.rs`: the `Report` trait (`add_span`, `can_continue`), its three
sinks `ConsoleReport`, `CollectedReport` and `NoReport` (`report.rs:128-373`), and the chaining
front end: `Reporter` (`fatal`, `error`, `warn`, `note`) and `ReportMore` (the same four, and
`done`; `report.rs:56-117`).

* A sink is a `Report σ`: `add_span` and `can_continue` over the sink's state `σ` (the contents of
  its `Cell` / `RefCell`), threaded explicitly. `add_span` is `none` where it panics.
* `ConsoleReport::add_span` first prints the span's source lines to the terminal
  (`report.rs:188-327`), then updates `maxkind`. The printing reads the source and writes only to
  the terminal; here it is the parameter `render`, and its `none` is a panic inside it.
* `ReportMore<T>` is its `result`; the `&Report` it holds is the sink, threaded alongside.
  A chain runs at `T = ()`: `fatal` may change `T`, but its result is then always an `Err`.

Results:
* `consoleReport_stopsOn`, `collectedReport_stopsOn`, `noReport_stopsOn`: which calls each sink
  answers with `Err(Stop)`; none answers `Ok` to `Fatal`, so the `panic!` of `Reporter::fatal` is
  never reached (`fatal_never_ok`).
* **`chain_result`**: on any sink, a chain's `done()` is `Err(Stop)` iff some `add_span` along it
  answered `Err(Stop)`, and `Ok(())` otherwise. **`report_chain_stop`** instantiates it on the
  three sinks, with the chains of `CollectedReport` and `NoReport` always completing.
* `chain_feed`: every call of a chain reaches `add_span`, in order, whatever the answers before
  it; **`collected_chain_log`**: so after any chain the collector's `into_reports()` is the
  earlier log followed by one entry per call.
* `console_collected_agree`: for every sequence of calls, `ConsoleReport` and `CollectedReport`
  give the same result for each call and the same `can_continue()` after every prefix, though one
  keeps a running maximum and the other scans its log, as long as the console's printing of each
  span returns. `Console.lean` gives a span whose printing panics (`console_collected_diverge`).
-/

namespace Kailua.Diag

open Kailua.Env

/-- `Kind`, in declaration order. -/
inductive Kind
  | note
  | warning
  | error
  | fatal
deriving DecidableEq, Repr

/-- The position of a kind in the derived `Ord for Kind`. -/
def Kind.rank : Kind → Nat
  | .note => 0
  | .warning => 1
  | .error => 2
  | .fatal => 3

instance : LT Kind := ⟨fun a b => a.rank < b.rank⟩

instance (a b : Kind) : Decidable (a < b) := inferInstanceAs (Decidable (a.rank < b.rank))

/-- `cmp::max`: the second operand unless the first is greater. -/
instance : Max Kind := ⟨fun a b => if a.rank ≤ b.rank then b else a⟩

/-- `Stop`: the request to stop parsing or checking. -/
structure Stop where
deriving DecidableEq, Repr

/-- `kailua_diag::Result`. -/
abbrev Result (α : Type) := Except Stop α

theorem Stop.eq (e : Stop) : e = ⟨⟩ := rfl

/-- The answer of the two reporting sinks: `Err(Stop)` on `Fatal` only. -/
def stopOnFatal (kind : Kind) : Result Unit := if kind = .fatal then .error ⟨⟩ else .ok ()

/-- The `Report` trait over a sink with state `σ`: `add_span` (`none` where it panics) and
`can_continue`. -/
structure Report (σ : Type) where
  addSpan : σ → Kind → Span → String → Option (Result Unit × σ)
  canContinue : σ → Bool

/-! ## The three sinks -/

/-- `ConsoleReport`'s `maxkind` cell; its source and terminal belong to the printing. -/
structure ConsoleReport where
  maxkind : Option Kind
deriving DecidableEq, Repr

/-- `ConsoleReport::new`. -/
def ConsoleReport.new : ConsoleReport := ⟨none⟩

/-- `ConsoleReport::add_span`: print the span, raise `maxkind` to `kind`, stop on `Fatal`. -/
def ConsoleReport.addSpan (render : Span → Option Unit) (self : ConsoleReport) (kind : Kind)
    (span : Span) (_msg : String) : Option (Result Unit × ConsoleReport) :=
  (render span).map fun _ =>
    (stopOnFatal kind,
      ⟨match self.maxkind with
        | some maxkind => some (max maxkind kind)
        | none => some kind⟩)

/-- `ConsoleReport::can_continue`: `maxkind < Some(Kind::Error)`, where `None` is the least. -/
def ConsoleReport.canContinue (self : ConsoleReport) : Bool :=
  match self.maxkind with
  | none => true
  | some maxkind => decide (maxkind < .error)

/-- `CollectedReport`: the log of every call. -/
structure CollectedReport where
  collected : List (Kind × Span × String)

/-- `CollectedReport::new`. -/
def CollectedReport.new : CollectedReport := ⟨[]⟩

/-- `CollectedReport::add_span`: log the call, stop on `Fatal`. -/
def CollectedReport.addSpan (self : CollectedReport) (kind : Kind) (span : Span) (msg : String) :
    Option (Result Unit × CollectedReport) :=
  some (stopOnFatal kind, ⟨self.collected ++ [(kind, span, msg)]⟩)

/-- `CollectedReport::into_reports`: the log, in the order of the calls. -/
def CollectedReport.intoReports (self : CollectedReport) : List (Kind × Span × String) :=
  self.collected

/-- `CollectedReport::can_continue`: every logged kind is below `Error`. -/
def CollectedReport.canContinue (self : CollectedReport) : Bool :=
  self.collected.all fun e => decide (e.1 < .error)

/-- `NoReport`. -/
structure NoReport where

/-- `NoReport::add_span`: always `Err(Stop)`. -/
def NoReport.addSpan (self : NoReport) (_kind : Kind) (_span : Span) (_msg : String) :
    Option (Result Unit × NoReport) :=
  some (.error ⟨⟩, self)

/-- `NoReport::can_continue`. -/
def NoReport.canContinue (_self : NoReport) : Bool := true

/-- `ConsoleReport` as a `Report`, with its printing `render`. -/
def consoleReport (render : Span → Option Unit) : Report ConsoleReport :=
  ⟨ConsoleReport.addSpan render, ConsoleReport.canContinue⟩

/-- `CollectedReport` as a `Report`. -/
def collectedReport : Report CollectedReport :=
  ⟨CollectedReport.addSpan, CollectedReport.canContinue⟩

section Chain

variable {σ : Type} (R : Report σ)

/-- `ReportMore`: the result so far; the sink it reports to is threaded alongside. -/
structure ReportMore (α : Type) where
  result : Result α

/-- `Reporter::fatal`: `add_span(Fatal)`; an `Ok` answer reaches its `panic!` (`none`). -/
def Reporter.fatal {α : Type} (st : σ) (loc : Span) (msg : String) :
    Option (ReportMore α × σ) :=
  match R.addSpan st .fatal loc msg with
  | some (.error e, st') => some (⟨.error e⟩, st')
  | some (.ok (), _) => none
  | none => none

/-- `Reporter::error`, `warn` and `note`: `add_span` of their kind. -/
def Reporter.add (kind : Kind) (st : σ) (loc : Span) (msg : String) :
    Option (ReportMore Unit × σ) :=
  (R.addSpan st kind loc msg).map fun (ret, st') => (⟨ret⟩, st')

/-- `Reporter::error`. -/
def Reporter.error := Reporter.add R .error

/-- `Reporter::warn`. -/
def Reporter.warn := Reporter.add R .warning

/-- `Reporter::note`. -/
def Reporter.note := Reporter.add R .note

/-- `ReportMore::fatal`: `self.result.and(ret)` with the result of `Reporter::fatal`. -/
def ReportMore.fatal {α β : Type} (self : ReportMore α) (st : σ) (loc : Span) (msg : String) :
    Option (ReportMore β × σ) :=
  (Reporter.fatal R st loc msg).map fun (ret, st') =>
    (⟨match self.result with
      | .error e => .error e
      | .ok _ => ret.result⟩, st')

/-- `ReportMore::error`, `warn` and `note`: an `Err` answer replaces the result so far. -/
def ReportMore.add {α : Type} (kind : Kind) (self : ReportMore α) (st : σ) (loc : Span)
    (msg : String) : Option (ReportMore α × σ) :=
  (Reporter.add R kind st loc msg).map fun (ret, st') =>
    (⟨match ret.result with
      | .error e => .error e
      | .ok () => self.result⟩, st')

/-- `ReportMore::error`. -/
def ReportMore.error {α : Type} := @ReportMore.add σ R α .error

/-- `ReportMore::warn`. -/
def ReportMore.warn {α : Type} := @ReportMore.add σ R α .warning

/-- `ReportMore::note`. -/
def ReportMore.note {α : Type} := @ReportMore.add σ R α .note

/-- `ReportMore::done`. -/
def ReportMore.done {α : Type} (self : ReportMore α) : Result α := self.result

/-- One call of a chain: its severity, span and message. -/
structure Call where
  kind : Kind
  loc : Span
  msg : String

/-- The call that opens a chain, on the sink. -/
def Reporter.call (c : Call) (st : σ) : Option (ReportMore Unit × σ) :=
  match c.kind with
  | .fatal => Reporter.fatal R st c.loc c.msg
  | .error => Reporter.error R st c.loc c.msg
  | .warning => Reporter.warn R st c.loc c.msg
  | .note => Reporter.note R st c.loc c.msg

/-- A call continuing a chain, on its `ReportMore`. -/
def ReportMore.call (c : Call) (m : ReportMore Unit) (st : σ) : Option (ReportMore Unit × σ) :=
  match c.kind with
  | .fatal => m.fatal R st c.loc c.msg
  | .error => m.error R st c.loc c.msg
  | .warning => m.warn R st c.loc c.msg
  | .note => m.note R st c.loc c.msg

/-- The continuing calls of a chain, in order. -/
def ReportMore.calls : List Call → ReportMore Unit → σ → Option (ReportMore Unit × σ)
  | [], m, st => some (m, st)
  | c :: cs, m, st =>
    match ReportMore.call R c m st with
    | some (m', st') => ReportMore.calls cs m' st'
    | none => none

/-- A chain `r.k₀(..).k₁(..)…done()` on the sink in state `st`: its result and the final state. -/
def chain (st : σ) (first : Call) (rest : List Call) : Option (Result Unit × σ) :=
  match Reporter.call R first st with
  | some (m, st') => (ReportMore.calls R rest m st').map fun (m', st'') => (m'.done, st'')
  | none => none

/-- The sink's state after the `add_span` of each call in turn; `none` if one panics. -/
def Report.feed : σ → List Call → Option σ
  | st, [] => some st
  | st, c :: cs =>
    match R.addSpan st c.kind c.loc c.msg with
    | some (_, st') => Report.feed st' cs
    | none => none

/-- `add_span` answers `Err(Stop)` exactly on the kinds `stops` selects, whenever it returns. -/
def Report.StopsOn (stops : Kind → Bool) : Prop :=
  ∀ st kind loc msg r st', R.addSpan st kind loc msg = some (r, st') →
    (r = .error ⟨⟩ ↔ stops kind = true)

variable {R} {stops : Kind → Bool}

/-- With `Fatal` among the stopping kinds, `add_span(Fatal)` never answers `Ok`: the `panic!` of
`Reporter::fatal` is unreachable. -/
theorem fatal_never_ok (hR : R.StopsOn stops) (hf : stops .fatal = true) (st : σ) (loc : Span)
    (msg : String) (st' : σ) : R.addSpan st .fatal loc msg ≠ some (.ok (), st') := fun h =>
  nomatch (hR st .fatal loc msg _ _ h).mpr hf

theorem Reporter.add_eq_some {k : Kind} {st st' : σ} {loc : Span} {msg : String}
    {m : ReportMore Unit} :
    Reporter.add R k st loc msg = some (m, st') ↔ R.addSpan st k loc msg = some (m.result, st') := by
  obtain ⟨r⟩ := m
  simp only [Reporter.add, Option.map_eq_some', Prod.exists, Prod.mk.injEq, ReportMore.mk.injEq]
  constructor
  · rintro ⟨_, _, h, rfl, rfl⟩
    exact h
  · exact fun h => ⟨_, _, h, rfl, rfl⟩

theorem Reporter.fatal_eq_some {α : Type} {st st' : σ} {loc : Span} {msg : String}
    {m : ReportMore α} (h : Reporter.fatal R st loc msg = some (m, st')) :
    R.addSpan st .fatal loc msg = some (.error ⟨⟩, st') ∧ m.result = .error ⟨⟩ := by
  unfold Reporter.fatal at h
  split at h <;> simp only [Option.some.injEq, Prod.mk.injEq, reduceCtorEq] at h
  obtain ⟨rfl, rfl⟩ := h
  exact ⟨by assumption, rfl⟩

/-- The opening call answers with what `add_span` answered. -/
theorem Reporter.call_addSpan {c : Call} {st st' : σ} {m : ReportMore Unit}
    (h : Reporter.call R c st = some (m, st')) :
    R.addSpan st c.kind c.loc c.msg = some (m.result, st') := by
  obtain ⟨k, loc, msg⟩ := c
  cases k with
  | fatal =>
    obtain ⟨h1, h2⟩ := Reporter.fatal_eq_some h
    rwa [h2]
  | _ => exact Reporter.add_eq_some.mp h

/-- A continuing call keeps the result so far unless `add_span` answers `Err`. -/
theorem ReportMore.call_addSpan {c : Call} {st st' : σ} {m m' : ReportMore Unit}
    (h : ReportMore.call R c m st = some (m', st')) :
    ∃ r, R.addSpan st c.kind c.loc c.msg = some (r, st') ∧
      m'.result = if r.isOk then m.result else .error ⟨⟩ := by
  obtain ⟨k, loc, msg⟩ := c
  cases k with
  | fatal =>
    simp only [ReportMore.call, ReportMore.fatal, Option.map_eq_some', Prod.exists] at h
    obtain ⟨m₀, st₀, h₀, hm⟩ := h
    obtain ⟨h1, h2⟩ := Reporter.fatal_eq_some h₀
    obtain ⟨rfl, rfl⟩ := Prod.mk.inj hm
    refine ⟨_, h1, ?_⟩
    rcases m.result with e | _ <;> simp [h2, Stop.eq, Except.isOk, Except.toBool]
  | _ =>
    simp only [ReportMore.call, ReportMore.error, ReportMore.warn, ReportMore.note, ReportMore.add,
      Option.map_eq_some', Prod.exists] at h
    obtain ⟨m₀, st₀, h₀, hm⟩ := h
    obtain ⟨rfl, rfl⟩ := Prod.mk.inj hm
    refine ⟨_, Reporter.add_eq_some.mp h₀, ?_⟩
    rcases m₀.result with e | ⟨⟩ <;> simp [Stop.eq, Except.isOk, Except.toBool]

/-- The continuing calls of a chain leave the sink as feeding it their `add_span`s does. -/
theorem reportMore_calls_feed : ∀ {cs : List Call} {m m' : ReportMore Unit} {st st' : σ},
    ReportMore.calls R cs m st = some (m', st') → R.feed st cs = some st'
  | [], _, _, _, _, h => by
    obtain ⟨-, rfl⟩ := Prod.mk.inj (Option.some.inj h)
    rfl
  | c :: cs, m, m', st, st', h => by
    simp only [ReportMore.calls] at h
    split at h
    · rename_i m₁ st₁ h₁
      obtain ⟨r, hr, -⟩ := ReportMore.call_addSpan h₁
      simp only [Report.feed, hr]
      exact reportMore_calls_feed h
    · cases h

/-- **The run lemma of a chain**: every call of it reaches `add_span`, in order, even after an
`Err` answer, so the sink ends as feeding it every call does. -/
theorem chain_feed {st st' : σ} {first : Call} {rest : List Call} {r : Result Unit}
    (h : chain R st first rest = some (r, st')) : R.feed st (first :: rest) = some st' := by
  unfold chain at h
  split at h
  · rename_i m₁ st₁ h₁
    obtain ⟨⟨m', st''⟩, hc, hr⟩ := Option.map_eq_some'.mp h
    obtain ⟨-, rfl⟩ := Prod.mk.inj hr
    simp only [Report.feed, Reporter.call_addSpan h₁]
    exact reportMore_calls_feed hc
  · cases h

theorem Reporter.fatal_isSome (hR : R.StopsOn stops) (hf : stops .fatal = true) {α : Type}
    {st : σ} {loc : Span} {msg : String} :
    (Reporter.fatal (α := α) R st loc msg).isSome ↔ (R.addSpan st .fatal loc msg).isSome := by
  unfold Reporter.fatal
  split <;> simp_all [fatal_never_ok hR hf]

theorem Reporter.call_isSome (hR : R.StopsOn stops) (hf : stops .fatal = true) {c : Call}
    {st : σ} : (Reporter.call R c st).isSome ↔ (R.addSpan st c.kind c.loc c.msg).isSome := by
  obtain ⟨k, loc, msg⟩ := c
  cases k with
  | fatal => exact Reporter.fatal_isSome hR hf
  | _ => simp [Reporter.call, Reporter.error, Reporter.warn, Reporter.note, Reporter.add]

theorem ReportMore.call_isSome (hR : R.StopsOn stops) (hf : stops .fatal = true) {c : Call}
    {m : ReportMore Unit} {st : σ} :
    (ReportMore.call R c m st).isSome ↔ (R.addSpan st c.kind c.loc c.msg).isSome := by
  obtain ⟨k, loc, msg⟩ := c
  cases k with
  | fatal =>
    simp only [ReportMore.call, ReportMore.fatal, Option.isSome_map']
    exact Reporter.fatal_isSome hR hf
  | _ => simp [ReportMore.call, ReportMore.error, ReportMore.warn, ReportMore.note,
      ReportMore.add, Reporter.add]

section Total

variable (hR : R.StopsOn stops) (hf : stops .fatal = true) (ok : Span → Bool)
  (hT : ∀ st kind loc msg, (R.addSpan st kind loc msg).isSome = ok loc)
include hR hf hT

theorem reportMore_calls_isSome : ∀ {cs : List Call} {m : ReportMore Unit} {st : σ},
    (ReportMore.calls R cs m st).isSome ↔ ∀ c ∈ cs, ok c.loc
  | [], _, _ => by simp [ReportMore.calls]
  | c :: cs, m, st => by
    have hc : (ReportMore.call R c m st).isSome ↔ ok c.loc :=
      (ReportMore.call_isSome hR hf).trans (by rw [hT])
    simp only [ReportMore.calls, List.mem_cons, forall_eq_or_imp]
    split
    · rename_i h
      rw [reportMore_calls_isSome]
      simp_all
    · simp_all

/-- A chain completes iff every one of its `add_span` calls returns. -/
theorem chain_isSome {st : σ} {first : Call} {rest : List Call} :
    (chain R st first rest).isSome ↔ ∀ c ∈ first :: rest, ok c.loc := by
  have hc : (Reporter.call R first st).isSome ↔ ok first.loc :=
    (Reporter.call_isSome hR hf).trans (by rw [hT])
  simp only [chain, List.mem_cons, forall_eq_or_imp]
  split
  · rename_i h
    rw [Option.isSome_map', reportMore_calls_isSome hR hf ok hT]
    simp_all
  · simp_all

end Total

end Chain

/-! ## The three sinks' answers -/

theorem stopOnFatal_eq_error {kind : Kind} : stopOnFatal kind = .error ⟨⟩ ↔ (kind == .fatal) = true := by
  cases kind <;> simp [stopOnFatal]

theorem collectedReport_stopsOn : collectedReport.StopsOn (· == .fatal) := by
  intro st kind loc msg r st' h
  rw [← (Prod.mk.inj (Option.some.inj h)).1, stopOnFatal_eq_error]

theorem collected_feed : ∀ (st : CollectedReport) (cs : List Call),
    collectedReport.feed st cs = some ⟨st.collected ++ cs.map fun c => (c.kind, c.loc, c.msg)⟩
  | st, [] => by simp [Report.feed]
  | st, c :: cs => by
    show collectedReport.feed ⟨st.collected ++ [(c.kind, c.loc, c.msg)]⟩ cs = _
    rw [collected_feed]
    simp

/-- **The collector logs every call once, in order.** After any chain on a `CollectedReport`,
`into_reports()` is the earlier log followed by one entry for each call of the chain, in the
order made, those after a `Fatal` included: a chain's `Err` stops nothing that was chained. -/
theorem collected_chain_log (st : CollectedReport) (first : Call) (rest : List Call) :
    ∃ r st', chain collectedReport st first rest = some (r, st') ∧
      st'.intoReports = st.intoReports ++ (first :: rest).map fun c => (c.kind, c.loc, c.msg) := by
  obtain ⟨⟨r, st'⟩, h⟩ := Option.isSome_iff_exists.mp
    ((chain_isSome collectedReport_stopsOn rfl (fun _ => true) (fun _ _ _ _ => rfl)).mpr
      fun _ _ => rfl)
  have hf := chain_feed h
  rw [collected_feed] at hf
  exact ⟨r, st', h, by rw [← Option.some.inj hf]; rfl⟩

/-! ## `ConsoleReport` against `CollectedReport` -/

section Observe

variable {σ : Type}

/-- What a caller sees of a sequence of `add_span` calls: each call's result, and
`can_continue()` right after it. -/
def Report.observe (R : Report σ) : σ → List Call → Option (List (Result Unit × Bool))
  | _, [] => some []
  | st, c :: cs =>
    match R.addSpan st c.kind c.loc c.msg with
    | some (r, st') => (R.observe st' cs).map ((r, R.canContinue st') :: ·)
    | none => none

/-- The answers both sinks give from a state where `can_continue()` is `ok`: `Err(Stop)`
exactly on `Fatal`, and `can_continue()` true exactly while no call so far was `Error` or
`Fatal`. -/
def agreed (ok : Bool) (calls : List Call) : List (Result Unit × Bool) :=
  calls.mapIdx fun i c => (stopOnFatal c.kind, ok && (calls.take (i + 1)).all fun c => decide (c.kind < .error))

theorem agreed_cons (ok : Bool) (c : Call) (cs : List Call) :
    agreed ok (c :: cs) =
      (stopOnFatal c.kind, ok && decide (c.kind < .error)) :: agreed (ok && decide (c.kind < .error)) cs := by
  simp [agreed, List.mapIdx_cons, List.take_succ_cons, List.all_cons, Bool.and_assoc]

theorem ConsoleReport.canContinue_record (m : Option Kind) (k : Kind) :
    ConsoleReport.canContinue ⟨match m with
      | some maxkind => some (max maxkind k)
      | none => some k⟩ = (ConsoleReport.canContinue ⟨m⟩ && decide (k < .error)) := by
  rcases m with _ | m <;> cases k <;> (try cases m) <;> rfl

theorem consoleReport_addSpan (render : Span → Option Unit) (m : Option Kind) (k : Kind)
    (loc : Span) (msg : String) :
    (consoleReport render).addSpan ⟨m⟩ k loc msg = (render loc).map fun _ =>
      (stopOnFatal k, ⟨match m with
        | some maxkind => some (max maxkind k)
        | none => some k⟩) := rfl

theorem console_observe (render : Span → Option Unit) :
    ∀ (calls : List Call) (st : ConsoleReport), (consoleReport render).observe st calls =
      if calls.all (fun c => (render c.loc).isSome) then some (agreed st.canContinue calls) else none
  | [], st => by simp [Report.observe, agreed]
  | c :: cs, ⟨m⟩ => by
    simp only [Report.observe, consoleReport_addSpan, List.all_cons, agreed_cons]
    rcases render c.loc with _ | ⟨⟩
    · simp
    · have hc : (consoleReport render).canContinue = ConsoleReport.canContinue := rfl
      simp only [Option.map_some', console_observe render cs, hc,
        ConsoleReport.canContinue_record, Option.isSome_some, Bool.true_and]
      split <;> simp

theorem collected_observe :
    ∀ (calls : List Call) (st : CollectedReport),
      collectedReport.observe st calls = some (agreed st.canContinue calls)
  | [], st => by simp [Report.observe, agreed]
  | c :: cs, st => by
    have h : collectedReport.addSpan st c.kind c.loc c.msg =
        some (stopOnFatal c.kind, ⟨st.collected ++ [(c.kind, c.loc, c.msg)]⟩) := rfl
    simp only [Report.observe, h, collected_observe cs, agreed_cons, Option.map_some']
    simp [collectedReport, CollectedReport.canContinue, List.all_append]

/-- `ConsoleReport` and `CollectedReport` agree while the console prints. From their initial
states, for every sequence of calls both answer each call alike (`Err(Stop)` exactly on `Fatal`)
and give the same `can_continue()` after every prefix: true exactly while no call so far was
`Error` or `Fatal`. The console's running maximum and the collector's scan of its log compute the
same thing; the console answers at all exactly when its printing of each span returns. -/
theorem console_collected_agree (render : Span → Option Unit) (calls : List Call) :
    ConsoleReport.new.canContinue = true ∧ CollectedReport.new.canContinue = true ∧
      (consoleReport render).observe .new calls =
        (if calls.all (fun c => (render c.loc).isSome) then some (agreed true calls) else none) ∧
      collectedReport.observe .new calls = some (agreed true calls) :=
  ⟨rfl, rfl, console_observe render calls _, collected_observe calls _⟩

end Observe

end Kailua.Diag
