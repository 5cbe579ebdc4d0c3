import ScopedStyles.Proofs.Session.OneToken

/-! # Selectors that a stylesheet can use

A module that imports its scope has its styles nested under the class selector of its token.  A
stylesheet can use the selector as it is only if it is a class selector by the grammar of CSS: a
point and one identifier (`Css.IsClassSelector`).  An identifier may go on with a digit but not
start with one (`Css.Identifier.isDigit_head`), and the digits of a token may start with any of the
sixteen.  So a token's selector is a class selector exactly if the token starts with a letter, which
the first byte of the digest decides (`Token.isClassSelector_selector_iff`), and the same holds of
what the generator is handed in a run (`Run.scope_isClassSelector_iff`). -/

namespace ScopedStyles

/-! ### The grammar of class selectors -/

namespace Css

/-- Characters that end a line. -/
def isLineBreak (c : Char) : Bool := c = '\n' || c = '\r' || c = '\x0c'

/-- Hexadecimal digits in either case. -/
def isHexDigit (c : Char) : Bool :=
  c.isDigit || ('a' ≤ c && c ≤ 'f') || ('A' ≤ c && c ≤ 'F')

/-- Characters that a name may start with: letters, the underscore, and all beyond ASCII. -/
def isNameStart (c : Char) : Bool :=
  ('a' ≤ c && c ≤ 'z') || ('A' ≤ c && c ≤ 'Z') || c = '_' || 128 ≤ c.toNat

def isNameChar (c : Char) : Bool := isNameStart c || c.isDigit || c = '-'

/-- What may follow the digits of an escape and belongs to it: nothing, or one blank. -/
inductive Blank : List Char → Prop
  | none : Blank []
  | char {c : Char} : (c = ' ' || c = '\t' || isLineBreak c) = true → Blank [c]
  | line : Blank ['\r', '\n']

/-- An escape: a backslash with a character that is no hexadecimal digit and ends no line, or with
one to six hexadecimal digits. -/
inductive Escape : List Char → Prop
  | char {c : Char} : isLineBreak c = false → isHexDigit c = false → Escape ['\\', c]
  | code {ds b : List Char} : ds ≠ [] → ds.length ≤ 6 → (∀ d ∈ ds, isHexDigit d = true) → Blank b →
      Escape ('\\' :: (ds ++ b))

/-- What a name may start with. -/
inductive Start : List Char → Prop
  | char {c : Char} : isNameStart c = true → Start [c]
  | escape {e : List Char} : Escape e → Start e

/-- What a name may go on with. -/
inductive Rest : List Char → Prop
  | nil : Rest []
  | char {c : Char} {r : List Char} : isNameChar c = true → Rest r → Rest (c :: r)
  | escape {e r : List Char} : Escape e → Rest r → Rest (e ++ r)

inductive Identifier : List Char → Prop
  | plain {s r : List Char} : Start s → Rest r → Identifier (s ++ r)
  | dash {s r : List Char} : Start s → Rest r → Identifier ('-' :: (s ++ r))
  | dashes {r : List Char} : Rest r → Identifier ('-' :: '-' :: r)

/-- A class selector: a point and one identifier. -/
def IsClassSelector (s : String) : Prop := ∃ name, s.toList = '.' :: name ∧ Identifier name

theorem isDigit_of_isNameStart {c : Char} (h : isNameStart c = true) : c.isDigit = false := by
  rw [← Bool.not_eq_true]
  intro hd
  simp only [Char.isDigit, Bool.and_eq_true, decide_eq_true_eq, UInt32.le_iff_toNat_le,
    ge_iff_le] at hd
  simp only [isNameStart, Bool.or_eq_true, Bool.and_eq_true, decide_eq_true_eq, Char.le_def,
    UInt32.le_iff_toNat_le] at h
  change 48 ≤ c.toNat ∧ c.toNat ≤ 57 at hd
  change (((97 ≤ c.toNat ∧ c.toNat ≤ 122) ∨ (65 ≤ c.toNat ∧ c.toNat ≤ 90)) ∨ c = '_') ∨
    128 ≤ c.toNat at h
  rcases h with ((h | h) | rfl) | h
  · omega
  · omega
  · exact absurd hd (by decide)
  · omega

theorem Start.isDigit_head {s : List Char} (h : Start s) :
    ∃ c t, s = c :: t ∧ c.isDigit = false := by
  cases h with
  | char hc => exact ⟨_, [], rfl, isDigit_of_isNameStart hc⟩
  | escape he =>
      cases he with
      | char _ _ => exact ⟨'\\', _, rfl, by decide⟩
      | code _ _ _ _ => exact ⟨'\\', _, rfl, by decide⟩

theorem Identifier.isDigit_head {c : Char} {t : List Char} (h : Identifier (c :: t)) :
    c.isDigit = false := by
  -- An identifier is a concatenation, so its first character is read off the first part.
  generalize hs : c :: t = s at h
  cases h with
  | plain hs' _ =>
      obtain ⟨d, u, rfl, hd⟩ := hs'.isDigit_head
      obtain ⟨rfl, -⟩ := List.cons.inj hs
      exact hd
  | dash _ _ =>
      obtain ⟨rfl, -⟩ := List.cons.inj hs
      decide
  | dashes _ =>
      obtain ⟨rfl, -⟩ := List.cons.inj hs
      decide

theorem Rest.of_chars : ∀ {r : List Char}, (∀ c ∈ r, isNameChar c = true) → Rest r
  | [], _ => .nil
  | _ :: _, h =>
      .char (h _ List.mem_cons_self) (Rest.of_chars fun c hc => h c (List.mem_cons_of_mem _ hc))

theorem Identifier.of_chars {c : Char} {r : List Char} (hc : isNameStart c = true)
    (hr : ∀ d ∈ r, isNameChar d = true) : Identifier (c :: r) :=
  .plain (.char hc) (.of_chars hr)

end Css

/-! ### Tokens as names -/

theorem Hex.isNameStart_digit : ∀ n < 16, Css.isNameStart (digit n) = decide (10 ≤ n) := by decide

theorem Hex.isDigit_digit : ∀ n < 16, (digit n).isDigit = decide (n < 10) := by decide

theorem Hex.isNameChar_of_mem : ∀ c ∈ "0123456789abcdef".toList, Css.isNameChar c = true :=
  List.all_eq_true.mp (by decide)

namespace Token

/-- The selector of a token is a class selector exactly if the token starts with a letter. -/
theorem isClassSelector_selector_iff (t : Token) :
    Css.IsClassSelector t.selector ↔ 0xa0 ≤ t.b₀ := by
  have hb : t.b₀.toNat < 256 := t.b₀.toNat_lt
  have hsel : t.selector.toList = '.' :: t.digits := String.toList_ofList
  have hcons : t.digits = Hex.digit (t.b₀.toNat / 16) :: t.digits.tail := rfl
  rw [UInt8.le_iff_toNat_le, show (0xa0 : UInt8).toNat = 160 from rfl]
  -- The first digit writes the upper half of the byte: from `a0` on it is a letter.
  constructor
  · rintro ⟨name, hname, hid⟩
    obtain rfl : t.digits = name := (List.cons.inj (hsel.symm.trans hname)).2
    rw [hcons] at hid
    have hd := hid.isDigit_head
    rw [Hex.isDigit_digit _ (by omega), decide_eq_false_iff_not] at hd
    omega
  · intro h
    refine ⟨t.digits, hsel, ?_⟩
    rw [hcons]
    refine .of_chars ?_ fun c hc => ?_
    · rw [Hex.isNameStart_digit _ (by omega), decide_eq_true_eq]
      omega
    · exact Hex.isNameChar_of_mem c (mem_digits (List.mem_of_mem_tail hc))

theorem isClassSelector_ofIdentity_iff (x : String) :
    Css.IsClassSelector (ofIdentity x).selector ↔
      (0xa0 : UInt8) ≤ (Sha256.digest (Utf8.bytes x.toList)).toList.headD 0 := by
  obtain ⟨rest, h⟩ := exists_digest_eq x
  rw [h, isClassSelector_selector_iff]
  rfl

end Token

/-! ### The main statement -/

open History

variable {S : Type}

/-- **Where the scope is a class selector.**  The selector of an identity's token is a class
selector exactly if the first byte of the identity's digest is at least `a0`.  A candidate whose
code imports its scope has the generator handed one selector, and this one is a class selector in
the same case. -/
theorem Run.scope_isClassSelector_iff {filter : Filter} {h : History S} {s : Session S}
    (run : Run filter h s) :
    (∀ x : String, Css.IsClassSelector (Token.ofIdentity x).selector ↔
      (0xa0 : UInt8) ≤ (Sha256.digest (Utf8.bytes x.toList)).toList.headD 0) ∧
    ∀ (n : Nat) (code id : String), (∃ u ∈ h, u.event = .start n code id) →
      (Session.fresh filter : Session S).isCandidate id = true →
      ScopeImport.isPresent code = true →
      ∃ scope, requests (turnsOf h n) = [(code, id, some scope)] ∧
        (Css.IsClassSelector scope ↔
          (0xa0 : UInt8) ≤ (Sha256.digest (Utf8.bytes id.toList)).toList.headD 0) := by
  refine ⟨Token.isClassSelector_ofIdentity_iff, fun n code id hs hc hp => ?_⟩
  refine ⟨(Token.ofIdentity id).selector, ?_, Token.isClassSelector_ofIdentity_iff id⟩
  rw [run.requests_of_start hs hc]
  unfold explicitScope
  rw [if_pos hp]

/-- A file whose token starts with a letter: the generator is handed a class selector. -/
theorem scope_isClassSelector_letter :
    ∃ (h : History String) (s : Session String), Run .all h s ∧
      requests (turnsOf h 0) =
        [("a from '@miniwind/scope'", "/src/b.ts", some ".c69e160e")] ∧
      Css.IsClassSelector ".c69e160e" := by
  obtain ⟨h, s, run, hp⟩ := exists_run_of_follow? .all
    [.attach "v", .start 0 "a from '@miniwind/scope'" "/src/b.ts"]
    (fun q => file? (turnsOf q.1 0) = some ("a from '@miniwind/scope'", "/src/b.ts") ∧
      requests (turnsOf q.1 0) = [("a from '@miniwind/scope'", "/src/b.ts", some ".c69e160e")])
    (by decide +kernel)
  obtain ⟨hf, hr⟩ := of_decide_eq_true hp
  obtain ⟨scope, hscope, hiff⟩ := run.scope_isClassSelector_iff.2 0 "a from '@miniwind/scope'"
    "/src/b.ts" (run.file?_turnsOf_iff.mp hf) (by decide) (by decide)
  obtain rfl : scope = ".c69e160e" := by
    rw [hr] at hscope
    simpa using hscope.symm
  exact ⟨h, s, run, hr, hiff.mpr (by decide +kernel)⟩

/-- A file whose token starts with a digit: what the generator is handed is no class selector, while
the same class, with its first digit escaped, has one. -/
theorem scope_not_isClassSelector :
    (∃ (h : History String) (s : Session String), Run .all h s ∧
      requests h = [("a from '@miniwind/scope'", "/src/a.ts", some ".05b6ef54")]) ∧
    (Token.ofIdentity "/src/a.ts").selector = ".05b6ef54" ∧
    ¬ Css.IsClassSelector ".05b6ef54" ∧ Css.IsClassSelector ".\\30 5b6ef54" := by
  refine ⟨?_, by decide +kernel, ?_, ?_⟩
  · obtain ⟨h, s, run, hp⟩ := exists_run_of_follow? .all
      [.attach "v", .start 0 "a from '@miniwind/scope'" "/src/a.ts"]
      (fun q => requests q.1 = [("a from '@miniwind/scope'", "/src/a.ts", some ".05b6ef54")])
      (by decide +kernel)
    exact ⟨h, s, run, of_decide_eq_true hp⟩
  · rintro ⟨name, hname, hid⟩
    obtain rfl := (List.cons.inj hname).2
    exact absurd hid.isDigit_head (by decide)
  · have hcode : Css.Escape ('\\' :: (['3', '0'] ++ [' '])) :=
      .code (by decide) (by decide) (List.all_eq_true.mp (by decide)) (.char (by decide))
    have hrest : Css.Rest "5b6ef54".toList := .of_chars (List.all_eq_true.mp (by decide))
    exact ⟨_, rfl, .plain (.escape hcode) hrest⟩

end ScopedStyles
