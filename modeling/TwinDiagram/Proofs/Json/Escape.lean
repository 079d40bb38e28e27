import TwinDiagram.Json.Printer
import TwinDiagram.Json.Reader

namespace TwinDiagram

namespace Text

theorem hexValue_hexDigit {n : Nat} (h : n < 16) : hexValue (hexDigit n) = some n := by
  have hall : ∀ d, d < 16 → hexValue (hexDigit d) = some d := by decide
  exact hall n h

theorem hex_four (n : Nat) : hex 4 n = [hexDigit (n / 16 / 16 / 16 % 16),
    hexDigit (n / 16 / 16 % 16), hexDigit (n / 16 % 16), hexDigit (n % 16)] := rfl

end Text

namespace Json

open Text

variable {n steps : Nat} {rest : List Char}

theorem readUnit_hex (h : n < 0x10000) (rest : List Char) :
    readUnit (hex 4 n ++ rest) = some (n, rest) := by
  have hdigit (m : Nat) : hexValue (hexDigit (m % 16)) = some (m % 16) :=
    hexValue_hexDigit (Nat.mod_lt _ (by decide))
  rw [hex_four]
  simp only [List.cons_append, List.nil_append, readUnit, hdigit, Option.pure_def,
    Option.bind_eq_bind, Option.bind_some, Option.some_inj, Prod.mk.injEq, and_true]
  omega

theorem readEscape_unit (h : n < 0x10000) (hvalid : n < 0xd800 ∨ 0xe000 ≤ n) (rest : List Char) :
    readEscape ('u' :: (hex 4 n ++ rest)) = some (Char.ofNat n, rest) := by
  have hplain : (decide (n < 0xd800) || decide (0xe000 ≤ n)) = true := by simpa using hvalid
  rw [readEscape, readUnicode, readUnit_hex h]
  simp only [hplain, if_true]

theorem readEscape_pair (hhigh : n < 0x100000) (rest : List Char) :
    readEscape ('u' :: (hex 4 (0xd800 + n / 0x400) ++
      '\\' :: 'u' :: (hex 4 (0xdc00 + n % 0x400) ++ rest))) =
      some (Char.ofNat (n + 0x10000), rest) := by
  have hlead : (decide (0xd800 + n / 0x400 < 0xd800) || decide (0xe000 ≤ 0xd800 + n / 0x400)) =
      false := by
    simp
    omega
  have hsecond : (decide (0xdc00 ≤ 0xdc00 + n % 0x400) && decide (0xdc00 + n % 0x400 < 0xe000)) =
      true := by
    simp
    omega
  have hvalue : 0x10000 + (0xd800 + n / 0x400 - 0xd800) * 0x400 + (0xdc00 + n % 0x400 - 0xdc00) =
      n + 0x10000 := by omega
  rw [readEscape, readUnicode, readUnit_hex (by omega)]
  simp only [hlead, Bool.false_eq_true, if_false, Nat.not_le_of_lt (show 0xd800 + n / 0x400 < 0xdc00
    by omega), readUnit_hex (show 0xdc00 + n % 0x400 < 0x10000 by omega), hsecond, if_true, hvalue]

theorem readText_escape {c : Char} {cs : List Char} (h : readEscape cs = some (c, rest))
    (done : List Char) (steps : Nat) :
    readText done (steps + 1) ('\\' :: cs) = readText (c :: done) steps rest := by
  rw [readText]
  simp only [h]

theorem readText_plain {c : Char} (hquote : c ≠ '\u0022') (hslash : c ≠ '\\') (hc : 0x20 ≤ c.toNat)
    (done : List Char) (steps : Nat) (rest : List Char) :
    readText done (steps + 1) (c :: rest) = readText (c :: done) steps rest := by
  rw [readText, if_neg (Nat.not_lt_of_le hc)]
  · exact hquote
  · exact hslash

/-- How a character may be written within a text. -/
inductive Escaped (c : Char) : List Char → Prop
  | mark {m : Char} (hm : m ∈ ['\u0022', '\\', 'n', 'r', 't', 'b', 'f'])
      (hread : ∀ rest, readEscape (m :: rest) = some (c, rest)) : Escaped c ['\\', m]
  | plain (hquote : c ≠ '\u0022') (hslash : c ≠ '\\') (hlow : 0x20 ≤ c.toNat)
      (hhigh : c.toNat < 0x7f) : Escaped c [c]
  | unit (hplane : c.toNat < 0x10000) : Escaped c (unicodeEscape c.toNat)
  | pair {n : Nat} (hn : c.toNat = n + 0x10000) :
      Escaped c (unicodeEscape (0xd800 + n / 0x400) ++ unicodeEscape (0xdc00 + n % 0x400))

theorem escaped_escapeChar (c : Char) : Escaped c (escapeChar c) := by
  unfold escapeChar
  split
  · next h =>
    subst h
    exact .mark (by decide) fun _ ↦ rfl
  next hquote =>
  split
  · next h =>
    subst h
    exact .mark (by decide) fun _ ↦ rfl
  next hslash =>
  iterate 5
    split
    · next h =>
      subst h
      exact .mark (by decide) fun _ ↦ rfl
  split
  · next h =>
    obtain ⟨hlow, hhigh⟩ := Bool.and_eq_true_iff.mp h
    exact .plain hquote hslash (of_decide_eq_true hlow) (of_decide_eq_true hhigh)
  split
  · next hplane => exact .unit hplane
  · next hplane => exact .pair (Nat.sub_add_cancel (Nat.not_lt.mp hplane)).symm

theorem length_escapeChar_pos (c : Char) : 0 < (escapeChar c).length := by
  have hescaped := escaped_escapeChar c
  generalize escapeChar c = cs at hescaped
  cases hescaped <;> exact Nat.zero_lt_succ _

/-- One step reads one character, however it is written. -/
theorem readText_escapeChar (c : Char) (done : List Char) (steps : Nat) (rest : List Char) :
    readText done (steps + 1) (escapeChar c ++ rest) = readText (c :: done) steps rest := by
  have hvalid : c.toNat < 0xd800 ∨ 0xdfff < c.toNat ∧ c.toNat < 0x110000 := c.valid
  have hchar : Char.ofNat c.toNat = c := Char.ofNat_toNat c
  have hescaped := escaped_escapeChar c
  generalize escapeChar c = cs at hescaped
  cases hescaped with
  | mark _ hread => exact readText_escape (hread rest) done steps
  | plain hquote hslash hlow _ => exact readText_plain hquote hslash hlow done steps rest
  | unit hplane =>
    have hunit := readEscape_unit hplane (by omega) rest
    rw [hchar] at hunit
    exact readText_escape hunit done steps
  | @pair n hn =>
    have hpair := readEscape_pair (n := n) (by omega) rest
    rw [← hn, hchar] at hpair
    simp only [unicodeEscape, List.cons_append, List.append_assoc]
    exact readText_escape hpair done steps

theorem readText_escaped (cs done : List Char) (steps : Nat) (rest : List Char)
    (hsteps : cs.length < steps) :
    readText done steps (cs.flatMap escapeChar ++ '\u0022' :: rest) =
      some (.ofList (done.reverse ++ cs), rest) := by
  induction cs generalizing done steps with
  | nil =>
    obtain ⟨steps, rfl⟩ := Nat.exists_eq_add_one_of_ne_zero (Nat.ne_of_gt hsteps)
    rw [List.flatMap_nil, List.nil_append, readText, List.append_nil]
  | cons c cs ih =>
    obtain ⟨steps, rfl⟩ :=
      Nat.exists_eq_add_one_of_ne_zero (Nat.ne_of_gt (Nat.zero_lt_of_lt hsteps))
    rw [List.flatMap_cons, List.append_assoc, readText_escapeChar,
      ih _ _ (Nat.lt_of_succ_lt_succ hsteps)]
    simp

end Json

end TwinDiagram
