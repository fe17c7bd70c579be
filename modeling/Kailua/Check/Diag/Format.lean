import Mathlib

/-!
# Diagnostic text: ordinals and quoted key lists

Model of `Ordinal` and its `Localize` impl (`kailua_check/src/diag.rs:10-55`) and of
`QuotedList::fmt` (`diag.rs:58-106`), the two pieces of text `report_types` writes itself.

* A `usize` is 64 bits: `i + 1` overflows, and panics, only at `usize::MAX` (`usizeSucc`).
* `f.sign_plus()`, the `+` flag of the formatter, selects the capitalised word (`signPlus`).
* A key is written by its own `Localize` impl; `QuotedList` is modelled over those texts.

Results:
* `Ordinal.fmtLocalized_numeric`, **`ordinal_twelfth_nd`**: from `9` on, an English ordinal is
  `n + 1`, `-` and a suffix, and the suffix is the English one except when `n + 1` ends in `12`
  or `13` (`12-nd`, `13-rd`, `112-nd`, ...): all three suffix arms exclude `i % 100 == 10`.
* **`quotedList_eq_spec`**: `QuotedList` writes `` `k1`, `k2` and `k3` `` as the specification
  says, for every locale and every number of keys.
-/

namespace Kailua.Check

/-! ## Ordinals -/

/-- `Ordinal`: a 0-based position. -/
structure Ordinal where
  val : Nat
deriving DecidableEq, Repr

/-- `usize::MAX`. -/
def usizeMax : Nat := 2 ^ 64 - 1

/-- `i + 1` on `usize`: `none` where it overflows, which panics in a debug build. -/
def usizeSucc (i : Nat) : Option Nat := if i < usizeMax then some (i + 1) else none

/-- The Korean words for the ordinals `0` to `8`. -/
def koWords : List String :=
  ["첫번째", "두번째", "세번째", "네번째", "다섯번째", "여섯번째", "일곱번째", "여덟번째", "아홉번째"]

/-- The English words for the ordinals `0` to `8`, capitalised and not. -/
def enWords : List (String × String) :=
  [("First", "first"), ("Second", "second"), ("Third", "third"), ("Fourth", "fourth"),
    ("Fifth", "fifth"), ("Sixth", "sixth"), ("Seventh", "seventh"), ("Eighth", "eighth"),
    ("Ninth", "ninth")]

/-- `Ordinal::fmt_localized`; `none` is a panic. -/
def Ordinal.fmtLocalized (o : Ordinal) (locale : String) (signPlus : Bool) : Option String :=
  if locale = "ko" then
    match koWords[o.val]? with
    | some w => some w
    | none => (usizeSucc o.val).map fun n => toString n ++ "번째"
  else
    match enWords[o.val]? with
    | some (wc, wl) => some (if signPlus then wc else wl)
    | none =>
      let i := o.val
      if i % 10 = 0 ∧ i % 100 ≠ 10 then (usizeSucc i).map fun n => toString n ++ "-st"
      else if i % 10 = 1 ∧ i % 100 ≠ 10 then (usizeSucc i).map fun n => toString n ++ "-nd"
      else if i % 10 = 2 ∧ i % 100 ≠ 10 then (usizeSucc i).map fun n => toString n ++ "-rd"
      else (usizeSucc i).map fun n => toString n ++ "-th"

/-- The suffix of the English ordinal of `m`, as the specification states it: `st` after a final
`1`, `nd` after a final `2`, `rd` after a final `3`, except after `11`, `12`, `13`, and `th`
otherwise. -/
def englishSuffix (m : Nat) : String :=
  if m % 10 = 1 ∧ m % 100 ≠ 11 then "st"
  else if m % 10 = 2 ∧ m % 100 ≠ 12 then "nd"
  else if m % 10 = 3 ∧ m % 100 ≠ 13 then "rd"
  else "th"

theorem str_append_left_cancel {s t u : String} : s ++ t = s ++ u ↔ t = u := by
  simp [String.ext_iff, String.data_append]

/-- Past the spelled-out words, an English ordinal is `n + 1`, `-` and a suffix, which is the
English one exactly when `n + 1` ends neither in `12` nor in `13`. -/
theorem Ordinal.fmtLocalized_numeric {n : Nat} (h9 : 9 ≤ n) (hmax : n < usizeMax)
    {locale : String} (hko : locale ≠ "ko") (signPlus : Bool) :
    Ordinal.fmtLocalized ⟨n⟩ locale signPlus =
        some (toString (n + 1) ++ "-" ++ englishSuffix (n + 1)) ↔
      n % 100 ≠ 11 ∧ n % 100 ≠ 12 := by
  have hw : enWords[n]? = none := List.getElem?_eq_none (by simp [enWords]; omega)
  have e1 : ((n + 1) % 10 = 1 ∧ (n + 1) % 100 ≠ 11) ↔ (n % 10 = 0 ∧ n % 100 ≠ 10) := by omega
  have e2 : ((n + 1) % 10 = 2 ∧ (n + 1) % 100 ≠ 12) ↔ (n % 10 = 1 ∧ n % 100 ≠ 11) := by omega
  have e3 : ((n + 1) % 10 = 3 ∧ (n + 1) % 100 ≠ 13) ↔ (n % 10 = 2 ∧ n % 100 ≠ 12) := by omega
  simp only [Ordinal.fmtLocalized, hko, if_false, hw, usizeSucc, hmax, if_true, Option.map_some',
    englishSuffix, e1, e2, e3, String.append_assoc]
  split_ifs <;> simp [str_append_left_cancel] <;> omega

/-- The ordinal at position `11` is written `12-nd`, where the English ordinal of `12` is
`12th`. -/
theorem ordinal_twelfth_nd :
    Ordinal.fmtLocalized ⟨11⟩ "en" false = some "12-nd" ∧ englishSuffix 12 = "th" := by
  decide

/-! ## `QuotedList` -/

/-- The `while let` loop of `QuotedList::fmt`: `out` is what was written, `first` whether no key
was written yet, and `cur` the key held back for the last conjunction. -/
def quotedLoop (out : String) (first : Bool) (cur : String) : List String → String × Bool × String
  | [] => (out, first, cur)
  | next :: rest => quotedLoop ((if first then out else out ++ "`, `") ++ cur) false next rest

/-- `QuotedList::fmt`, over the written keys. -/
def quotedList (locale : String) : List String → String
  | [] => ""
  | cur :: rest =>
    let (out, first, cur) := quotedLoop "`" true cur rest
    out ++ (if !first then (if locale == "ko" then "` 및 `" else "` and `") else "") ++ cur ++ "`"

/-- The conjunction of a locale. -/
def conjunction (locale : String) : String := if locale = "ko" then " 및 " else " and "

/-- A list of keys as the specification writes it: each key in backticks, `, ` between two keys
but the last two, and the locale's conjunction between those. -/
def quotedListSpec (locale : String) : List String → String
  | [] => ""
  | [k] => "`" ++ k ++ "`"
  | [k₁, k₂] => "`" ++ k₁ ++ "`" ++ conjunction locale ++ "`" ++ k₂ ++ "`"
  | k :: ks => "`" ++ k ++ "`, " ++ quotedListSpec locale ks

/-- What `QuotedList` writes from a held-back key `cur` on, while `ks` are still to come: the
separator before `cur`, `cur`, and the rest. -/
def quotedTail (locale cur : String) : List String → String
  | [] => "`" ++ conjunction locale ++ "`" ++ cur ++ "`"
  | k :: ks => "`, `" ++ cur ++ quotedTail locale k ks

theorem conjunction_quoted (locale : String) :
    (if locale = "ko" then "` 및 `" else "` and `") = "`" ++ conjunction locale ++ "`" := by
  unfold conjunction
  split_ifs <;> decide

/-- The loop lemma: once a key was written, the loop and the final conjunction write the
`quotedTail` of the key held back. -/
theorem quotedLoop_tail (locale : String) (out cur : String) (ks : List String) :
    let r := quotedLoop out false cur ks
    r.1 ++ (if !r.2.1 then (if locale == "ko" then "` 및 `" else "` and `") else "") ++ r.2.2 ++
      "`" = out ++ quotedTail locale cur ks := by
  induction ks generalizing out cur with
  | nil => simp [quotedLoop, quotedTail, conjunction_quoted, String.append_assoc]
  | cons k ks ih => simpa [quotedLoop, quotedTail, String.append_assoc] using ih (out ++ "`, `" ++ cur) k

theorem quotedListSpec_cons_cons (locale : String) (k k' : String) (ks : List String) :
    quotedListSpec locale (k :: k' :: ks) = "`" ++ k ++ quotedTail locale k' ks := by
  induction ks generalizing k k' with
  | nil => simp [quotedListSpec, quotedTail, String.append_assoc]
  | cons k'' ks ih =>
    simp only [quotedListSpec, ih, quotedTail, String.append_assoc]
    rfl

/-- **`QuotedList` writes the list the specification describes**, for every locale and every
list of keys: nothing for no key, `` `k1` `` for one, and otherwise each key once and in order,
in backticks, `, ` between them but the last two, which the locale's conjunction joins. -/
theorem quotedList_eq_spec (locale : String) (keys : List String) :
    quotedList locale keys = quotedListSpec locale keys := by
  match keys with
  | [] => rfl
  | [k] => simp [quotedList, quotedLoop, quotedListSpec]
  | k :: k' :: ks =>
    rw [quotedListSpec_cons_cons, ← quotedLoop_tail locale ("`" ++ k) k' ks]
    simp [quotedList, quotedLoop]

end Kailua.Check
