import Mathlib

/-!
# Keywords: `Keyword::from` and `Keyword::name`

Model of the keyword table of `kailua_syntax/src/lex/mod.rs` (`define_keywords!`,
`lex/mod.rs:104-173`). The macro takes two lists of keywords with their byte strings, those
reserved everywhere and those reserved only in meta mode (the Kailua extensions), and
generates from them the enum, `Keyword::from` and `Keyword::name`. The lexer that passes
`in_meta` (`lex/lexer.rs`) is not part of the sources here.

* `Keyword.name` is the generated `match`, one arm a keyword, with the byte string `b"..."`
  written as the bytes of its ASCII text (`bytes`).
* `Keyword.from` is the generated `match (in_meta, s)`: the arms `(_, b"and")`, ... of the
  everywhere list come first and the arms `(true, b"assume")`, ... after, so it is a first match
  over `Keyword.everywhere`, then, in meta mode only, over `Keyword.metaOnly`.

Result:
* **`Keyword.from_eq_some`**: `from` and `name` are inverse: `from(s, in_meta)` is `k` exactly
  when `s` is the name of `k` and `k` is reserved in the mode asked for. It rests on two facts
  about the table, decided once: the names are distinct, and no keyword is in both lists.
-/

namespace Kailua.Syntax

/-- A byte-string literal `b"..."` of ASCII text: one byte a character. -/
def bytes (s : String) : List UInt8 := s.toList.map fun c => c.toNat.toUInt8

/-- `Keyword`: the everywhere keywords, then the meta-only ones (Kailua extensions). -/
inductive Keyword where
  | «and» | «break» | «do» | «else» | elseif | «end» | «false» | «for» | function | goto | «if»
  | «in» | «local» | nil | «not» | «or» | «repeat» | «return» | «then» | «true» | «until»
  | «while»
  | assume | const | global | map | module | once | «open» | type | var | vector
deriving DecidableEq, Repr

namespace Keyword

/-- `Keyword::name`. -/
def name : Keyword → List UInt8
  | .and => bytes "and"
  | .break => bytes "break"
  | .do => bytes "do"
  | .else => bytes "else"
  | .elseif => bytes "elseif"
  | .end => bytes "end"
  | .false => bytes "false"
  | .for => bytes "for"
  | .function => bytes "function"
  | .goto => bytes "goto"
  | .if => bytes "if"
  | .in => bytes "in"
  | .local => bytes "local"
  | .nil => bytes "nil"
  | .not => bytes "not"
  | .or => bytes "or"
  | .repeat => bytes "repeat"
  | .return => bytes "return"
  | .then => bytes "then"
  | .true => bytes "true"
  | .until => bytes "until"
  | .while => bytes "while"
  | .assume => bytes "assume"
  | .const => bytes "const"
  | .global => bytes "global"
  | .map => bytes "map"
  | .module => bytes "module"
  | .once => bytes "once"
  | .open => bytes "open"
  | .type => bytes "type"
  | .var => bytes "var"
  | .vector => bytes "vector"

/-- The `everywhere` list of `define_keywords!`, in its order. -/
def everywhere : List Keyword :=
  [.and, .break, .do, .else, .elseif, .end, .false, .for, .function, .goto, .if, .in, .local,
    .nil, .not, .or, .repeat, .return, .then, .true, .until, .while]

/-- The `meta_only` list of `define_keywords!`, in its order. -/
def metaOnly : List Keyword :=
  [.assume, .const, .global, .map, .module, .once, .open, .type, .var, .vector]

/-- `Keyword::from(s, in_meta)`: the first everywhere arm whose name is `s`, else, in meta mode,
the first meta-only one. -/
def «from» (s : List UInt8) (inMeta : Bool) : Option Keyword :=
  match everywhere.find? (·.name == s) with
  | some k => some k
  | none => if inMeta then metaOnly.find? (·.name == s) else none

end Keyword

/-! ## The table -/

theorem Keyword.names_nodup : ((everywhere ++ metaOnly).map name).Nodup := by decide

theorem Keyword.mem_table (k : Keyword) : k ∈ everywhere ++ metaOnly := by cases k <;> decide

theorem Keyword.not_mem_metaOnly : ∀ k ∈ everywhere, k ∉ metaOnly := by decide

theorem Keyword.name_injective : Function.Injective name := fun a b h =>
  List.inj_on_of_nodup_map names_nodup (mem_table a) (mem_table b) h

/-- A first match by name over any part of the table finds the keyword of that name. -/
theorem Keyword.find?_name (l : List Keyword) (s : List UInt8) (k : Keyword) :
    l.find? (·.name == s) = some k ↔ k ∈ l ∧ k.name = s := by
  refine ⟨fun h => ⟨List.mem_of_find?_eq_some h, by simpa using List.find?_some h⟩, ?_⟩
  rintro ⟨hk, rfl⟩
  cases h : l.find? (·.name == k.name) with
  | none => exact absurd (List.find?_eq_none.mp h k hk) (by simp)
  | some k' => exact congrArg some (name_injective (by simpa using List.find?_some h))

/-! ## The round trip -/

/-- **`from` inverts `name`.** For every byte string `s` and mode, `Keyword::from(s, in_meta)`
is `k` exactly when `s` is `k`'s name and `k` is reserved in that mode: everywhere keywords in
both modes, meta-only keywords in meta mode only. -/
theorem Keyword.from_eq_some (s : List UInt8) (inMeta : Bool) (k : Keyword) :
    Keyword.from s inMeta = some k ↔ k.name = s ∧ (k ∈ metaOnly → inMeta) := by
  unfold Keyword.from
  cases he : everywhere.find? (·.name == s) with
  | some k' =>
    rw [find?_name] at he
    rw [Option.some.injEq]
    constructor
    · rintro rfl
      exact ⟨he.2, fun hm => absurd hm (not_mem_metaOnly k' he.1)⟩
    · rintro ⟨hn, -⟩
      exact name_injective (he.2.trans hn.symm)
  | none =>
    have hk : k.name = s → k ∈ metaOnly := fun hn =>
      (List.mem_append.mp (mem_table k)).resolve_left fun hk =>
        List.find?_eq_none.mp he k hk (by simp [hn])
    cases inMeta
    · simp only [Bool.false_eq_true, if_false, reduceCtorEq, false_iff, not_and]
      exact fun hn hm => hm (hk hn)
    · simp only [if_true, find?_name, imp_true_iff, and_true]
      exact ⟨And.right, fun hn => ⟨hk hn, hn⟩⟩

/-- `type` is a keyword in meta mode and a name outside it. -/
example : Keyword.from (bytes "type") true = some .type ∧
    Keyword.from (bytes "type") false = none := by
  decide

end Kailua.Syntax
