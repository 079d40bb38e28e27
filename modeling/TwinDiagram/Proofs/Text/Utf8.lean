import TwinDiagram.Text.Utf8
import Mathlib.Data.List.Basic

namespace TwinDiagram.Text

theorem toList_loop (bytes : ByteArray) (left i : Nat) (done : List UInt8)
    (hleft : bytes.size = i + left) :
    ByteArray.toList.loop bytes i done = done.reverse ++ bytes.data.toList.drop i := by
  induction left generalizing i done with
  | zero =>
    rw [ByteArray.toList.loop, if_neg (by omega)]
    rw [List.drop_eq_nil_of_le (by simpa using Nat.le_of_eq hleft), List.append_nil]
  | succ left ih =>
    have hi : i < bytes.size := by omega
    have hhead : bytes.data.toList.drop i = bytes.get! i :: bytes.data.toList.drop (i + 1) := by
      rw [List.drop_eq_getElem_cons (by simpa using hi)]
      simp [ByteArray.get!, hi]
    rw [ByteArray.toList.loop, if_pos hi, ih _ _ (by omega), hhead]
    simp

theorem toList_eq (bytes : ByteArray) : bytes.toList = bytes.data.toList := by
  rw [ByteArray.toList, toList_loop _ _ _ _ (Nat.zero_add _).symm, List.reverse_nil,
    List.nil_append, List.drop_zero]

theorem toList_toUTF8 (s : String) : s.toUTF8.toList = s.toList.flatMap String.utf8EncodeChar := by
  have hbytes : s.toUTF8 = (s.toList.flatMap String.utf8EncodeChar).toByteArray := by
    rw [← String.ofList_toList (s := s), String.toUTF8, String.toByteArray_ofList, List.utf8Encode,
      String.toList_ofList]
  rw [hbytes, toList_eq, List.data_toByteArray, List.toList_toArray]

section Step

variable {p : PendingChar} {offset n : Nat} {rest : List UInt8}

theorem toNat_byte (h : n < 256) : (UInt8.ofNat n).toNat = n := by
  rw [UInt8.toNat_ofNat']
  exact Nat.mod_eq_of_lt h

theorem decodeFrom_ascii (h : n < 0x80) (offset : Nat) (rest : List UInt8) :
    decodeFrom offset none (.ofNat n :: rest) =
      (Char.ofNat n :: ·) <$> decodeFrom (offset + 1) none rest := by
  rw [decodeFrom]
  simp only [toNat_byte (show n < 256 by omega), h, if_true]
  rfl

theorem decodeFrom_lead (h : n < 256) (hn : 0x80 ≤ n) (hp : leadByte offset n = some p) :
    decodeFrom offset none (.ofNat n :: rest) = decodeFrom (offset + 1) (some p) rest := by
  rw [decodeFrom]
  simp only [toNat_byte h, Nat.not_lt_of_le hn, if_false, hp]

theorem decodeFrom_more (h : n < 0x40) (hlow : p.low ≤ n + 0x80) (hhigh : n + 0x80 ≤ p.high)
    (hneed : 1 < p.need) :
    decodeFrom offset (some p) (.ofNat (n + 0x80) :: rest) =
      decodeFrom (offset + 1) (some ⟨p.start, p.need - 1, 0x80, 0xbf, p.value * 64 + n⟩) rest := by
  rw [decodeFrom]
  simp only [toNat_byte (show n + 0x80 < 256 by omega), hlow, hhigh, decide_true, Bool.and_self,
    if_true, Nat.not_le_of_lt hneed, if_false, Nat.add_sub_cancel]

theorem decodeFrom_last (h : n < 0x40) (hlow : p.low ≤ n + 0x80) (hhigh : n + 0x80 ≤ p.high)
    (hneed : p.need = 1) :
    decodeFrom offset (some p) (.ofNat (n + 0x80) :: rest) =
      (Char.ofNat (p.value * 64 + n) :: ·) <$> decodeFrom (offset + 1) none rest := by
  rw [decodeFrom]
  simp only [toNat_byte (show n + 0x80 < 256 by omega), hlow, hhigh, decide_true, Bool.and_self,
    if_true, hneed, Nat.le_refl, Nat.add_sub_cancel]
  rfl

end Step

/-- The bounds on its second byte do not shut a character of three bytes out. -/
theorem leadByte_three {v : Nat} (hlow : 0x7ff < v) (hhigh : v ≤ 0xffff)
    (hvalid : v < 0xd800 ∨ 0xdfff < v) (offset : Nat) :
    ∃ low high, leadByte offset (v / 4096 % 16 + 224) = some ⟨offset, 2, low, high, v / 4096⟩ ∧
      low ≤ v / 64 % 64 + 0x80 ∧ v / 64 % 64 + 0x80 ≤ high := by
  unfold leadByte
  by_cases hfirst : v / 4096 = 0
  · exact ⟨0xa0, 0xbf, by simp [hfirst], by omega, by omega⟩
  by_cases hsurrogate : v / 4096 = 13
  · exact ⟨0x80, 0x9f, by simp [hsurrogate], by omega, by omega⟩
  · refine ⟨0x80, 0xbf, ?_, by omega, by omega⟩
    rw [if_neg (by omega), if_neg (by omega), if_neg (by omega), if_neg (by omega),
      if_pos (by omega)]
    simp only [Option.some_inj, PendingChar.mk.injEq, true_and]
    omega

theorem leadByte_four {v : Nat} (hlow : 0xffff < v) (hhigh : v < 0x110000) (offset : Nat) :
    ∃ low high, leadByte offset (v / 262144 % 8 + 240) = some ⟨offset, 3, low, high, v / 262144⟩ ∧
      low ≤ v / 4096 % 64 + 0x80 ∧ v / 4096 % 64 + 0x80 ≤ high := by
  unfold leadByte
  by_cases hfirst : v / 262144 = 0
  · exact ⟨0x90, 0xbf, by simp [hfirst], by omega, by omega⟩
  by_cases hlast : v / 262144 = 4
  · exact ⟨0x80, 0x8f, by simp [hlast], by omega, by omega⟩
  · refine ⟨0x80, 0xbf, ?_, by omega, by omega⟩
    rw [if_neg (by omega), if_neg (by omega), if_neg (by omega), if_neg (by omega),
      if_neg (by omega), if_neg (by omega), if_pos (by omega)]
    simp only [Option.some_inj, PendingChar.mk.injEq, true_and]
    omega

/-- The bytes of a character, one after the other. -/
theorem decodeFrom_char (c : Char) (offset : Nat) (rest : List UInt8) :
    ∃ offset', decodeFrom offset none (String.utf8EncodeChar c ++ rest) =
      (c :: ·) <$> decodeFrom offset' none rest := by
  have hvalid : c.val.toNat < 0xd800 ∨ 0xdfff < c.val.toNat ∧ c.val.toNat < 0x110000 := c.valid
  have hchar : ∀ n, n = c.val.toNat → Char.ofNat n = c := by
    rintro n rfl
    exact Char.ofNat_toNat c
  unfold String.utf8EncodeChar
  generalize c.val.toNat = v at hvalid hchar
  dsimp only
  split
  · refine ⟨offset + 1, ?_⟩
    rw [List.singleton_append, decodeFrom_ascii (by omega), hchar _ rfl]
  split
  · refine ⟨offset + 1 + 1, ?_⟩
    have hlead : leadByte offset (v / 64 % 32 + 192) = some ⟨offset, 1, 0x80, 0xbf, v / 64⟩ := by
      rw [leadByte, if_neg (by omega), if_pos (by omega)]
      simp only [Option.some_inj, PendingChar.mk.injEq, true_and]
      omega
    simp only [List.cons_append, List.nil_append]
    rw [decodeFrom_lead (by omega) (by omega) hlead,
      decodeFrom_last (by omega) (by simp) (by simp; omega) rfl, hchar _ (by simp; omega)]
  split
  · refine ⟨offset + 1 + 1 + 1, ?_⟩
    obtain ⟨low, high, hlead, hlow, hhigh⟩ :=
      leadByte_three (v := v) (by omega) (by omega) (by omega) offset
    simp only [List.cons_append, List.nil_append]
    rw [decodeFrom_lead (by omega) (by omega) hlead,
      decodeFrom_more (by omega) hlow hhigh (by simp),
      decodeFrom_last (by omega) (by simp) (by simp; omega) rfl, hchar _ (by simp; omega)]
  · refine ⟨offset + 1 + 1 + 1 + 1, ?_⟩
    obtain ⟨low, high, hlead, hlow, hhigh⟩ :=
      leadByte_four (v := v) (by omega) (by omega) offset
    simp only [List.cons_append, List.nil_append]
    rw [decodeFrom_lead (by omega) (by omega) hlead,
      decodeFrom_more (by omega) hlow hhigh (by simp),
      decodeFrom_more (by omega) (by simp) (by simp; omega) (by simp),
      decodeFrom_last (by omega) (by simp) (by simp; omega) rfl, hchar _ (by simp; omega)]

theorem decodeUtf8_toUTF8 (s : String) : decodeUtf8 s.toUTF8 = .ok s.toList := by
  have hdecode (cs : List Char) (offset : Nat) :
      decodeFrom offset none (cs.flatMap String.utf8EncodeChar) = .ok cs := by
    induction cs generalizing offset with
    | nil => rfl
    | cons c cs ih =>
      obtain ⟨offset', hc⟩ := decodeFrom_char c offset (cs.flatMap String.utf8EncodeChar)
      rw [List.flatMap_cons, hc, ih]
      rfl
  rw [decodeUtf8, toList_toUTF8, hdecode]

section Read

variable {offset start need low high value b : Nat} {p : PendingChar} {bs : List UInt8}
  {cs : List Char}

theorem exists_of_cons_map_ok {c : Char} {later : Except Utf8Fault (List Char)}
    (h : (do return c :: (← later)) = Except.ok cs) : ∃ cs', cs = c :: cs' ∧ later = .ok cs' := by
  cases later with
  | error f => cases h
  | ok cs' =>
    cases h
    exact ⟨cs', rfl, rfl⟩

/-- The last byte of a character is there and lies between the bounds. -/
theorem decodeFrom_last_ok (h : decodeFrom offset (some ⟨start, 1, low, high, value⟩) bs = .ok cs) :
    ∃ x rest cs', bs = x :: rest ∧ low ≤ x.toNat ∧ x.toNat ≤ high ∧
      cs = Char.ofNat (value * 64 + (x.toNat - 0x80)) :: cs' ∧
      decodeFrom (offset + 1) none rest = .ok cs' := by
  cases bs with
  | nil => cases h
  | cons x rest =>
    rw [decodeFrom] at h
    simp only [Bool.and_eq_true, decide_eq_true_eq, Nat.le_refl, if_true] at h
    split at h
    · next hx =>
      obtain ⟨cs', rfl, hrest⟩ := exists_of_cons_map_ok h
      exact ⟨x, rest, cs', rfl, hx.1, hx.2, rfl, hrest⟩
    · cases h

theorem decodeFrom_more_ok
    (h : decodeFrom offset (some ⟨start, need + 2, low, high, value⟩) bs = .ok cs) :
    ∃ x rest, bs = x :: rest ∧ low ≤ x.toNat ∧ x.toNat ≤ high ∧
      decodeFrom (offset + 1)
        (some ⟨start, need + 1, 0x80, 0xbf, value * 64 + (x.toNat - 0x80)⟩) rest = .ok cs := by
  cases bs with
  | nil => cases h
  | cons x rest =>
    rw [decodeFrom] at h
    simp only [Bool.and_eq_true, decide_eq_true_eq, Nat.not_le_of_lt (show 1 < need + 2 by omega),
      if_false] at h
    split at h
    · next hx => exact ⟨x, rest, rfl, hx.1, hx.2, h⟩
    · cases h

/-- How many bytes a first byte announces. The bounds on the second one keep overlong forms,
surrogates and values beyond the last character out. -/
theorem leadByte_eq_some (h : leadByte offset b = some p) :
    0xc2 ≤ b ∧ b < 0xe0 ∧ p = ⟨offset, 1, 0x80, 0xbf, b - 0xc0⟩ ∨
      ∃ low high, 0x80 ≤ low ∧ high ≤ 0xbf ∧
        (0xe0 ≤ b ∧ b < 0xf0 ∧ p = ⟨offset, 2, low, high, b - 0xe0⟩ ∧
            (b = 0xe0 → 0xa0 ≤ low) ∧ (b = 0xed → high ≤ 0x9f) ∨
          0xf0 ≤ b ∧ b ≤ 0xf4 ∧ p = ⟨offset, 3, low, high, b - 0xf0⟩ ∧
            (b = 0xf0 → 0x90 ≤ low) ∧ (b = 0xf4 → high ≤ 0x8f)) := by
  unfold leadByte at h
  split at h
  · cases h
  split at h
  · cases h
    exact .inl ⟨by omega, by omega, rfl⟩
  right
  split at h
  · cases h
    exact ⟨0xa0, 0xbf, by
      omega, by omega, .inl ⟨by omega, by omega, by simp [*], by omega, by omega⟩⟩
  split at h
  · cases h
    exact ⟨0x80, 0x9f, by
      omega, by omega, .inl ⟨by omega, by omega, by simp [*], by omega, by omega⟩⟩
  split at h
  · cases h
    exact ⟨0x80, 0xbf, by omega, by omega, .inl ⟨by omega, by omega, rfl, by omega, by omega⟩⟩
  split at h
  · cases h
    exact ⟨0x90, 0xbf, by
      omega, by omega, .inr ⟨by omega, by omega, by simp [*], by omega, by omega⟩⟩
  split at h
  · cases h
    exact ⟨0x80, 0xbf, by omega, by omega, .inr ⟨by omega, by omega, rfl, by omega, by omega⟩⟩
  split at h
  · cases h
    exact ⟨0x80, 0x8f, by
      omega, by omega, .inr ⟨by omega, by omega, by simp [*], by omega, by omega⟩⟩
  · cases h

theorem utf8EncodeChar_ofNat {v : Nat} (h : v.isValidChar) : String.utf8EncodeChar (Char.ofNat v) =
    if v ≤ 0x7f then [.ofNat v]
    else if v ≤ 0x7ff then [.ofNat (v / 64 % 32 + 0xc0), .ofNat (v % 64 + 0x80)]
    else if v ≤ 0xffff then
      [.ofNat (v / 4096 % 16 + 0xe0), .ofNat (v / 64 % 64 + 0x80), .ofNat (v % 64 + 0x80)]
    else [.ofNat (v / 262144 % 8 + 0xf0), .ofNat (v / 4096 % 64 + 0x80),
      .ofNat (v / 64 % 64 + 0x80), .ofNat (v % 64 + 0x80)] := by
  have hv : (Char.ofNat v).val.toNat = v := by
    rw [Char.ofNat, dif_pos h]
    rfl
  rw [String.utf8EncodeChar, hv]

theorem ofNat_eq_byte {n : Nat} {x : UInt8} (h : n = x.toNat) : UInt8.ofNat n = x := by
  rw [h, UInt8.ofNat_toNat]

/-- What is read first is a character, from its bytes. -/
theorem decodeFrom_ok {x : UInt8} {rest : List UInt8}
    (h : decodeFrom offset none (x :: rest) = .ok cs) :
    ∃ c cs' bs' offset', cs = c :: cs' ∧ x :: rest = String.utf8EncodeChar c ++ bs' ∧
      decodeFrom offset' none bs' = .ok cs' := by
  rw [decodeFrom] at h
  split at h
  · next hascii =>
    obtain ⟨cs', rfl, hrest⟩ := exists_of_cons_map_ok h
    refine ⟨_, cs', rest, offset + 1, rfl, ?_, hrest⟩
    rw [utf8EncodeChar_ofNat (.inl (by omega)), if_pos (by omega), UInt8.ofNat_toNat]
    rfl
  split at h
  · cases h
  next p hlead =>
  rcases leadByte_eq_some hlead with ⟨hx, hx', rfl⟩ |
    ⟨low, high, hlow, hhigh, ⟨hx, hx', rfl, hfirst, hlast⟩ | ⟨hx, hx', rfl, hfirst, hlast⟩⟩
  · obtain ⟨y, rest, cs', rfl, hy, hy', rfl, hrest⟩ := decodeFrom_last_ok h
    refine ⟨_, cs', rest, _, rfl, ?_, hrest⟩
    rw [utf8EncodeChar_ofNat (.inl (by omega)), if_neg (by omega), if_pos (by omega),
      ofNat_eq_byte (x := x) (by omega), ofNat_eq_byte (x := y) (by omega)]
    rfl
  · obtain ⟨y, rest, rfl, hy, hy', h'⟩ := decodeFrom_more_ok h
    obtain ⟨z, rest, cs', rfl, hz, hz', rfl, hrest⟩ := decodeFrom_last_ok h'
    refine ⟨_, cs', rest, _, rfl, ?_, hrest⟩
    have hvalid :
        (((x.toNat - 0xe0) * 64 + (y.toNat - 0x80)) * 64 + (z.toNat - 0x80)).isValidChar := by
      unfold Nat.isValidChar
      omega
    rw [utf8EncodeChar_ofNat hvalid, if_neg (by omega), if_neg (by omega), if_pos (by omega),
      ofNat_eq_byte (x := x) (by omega), ofNat_eq_byte (x := y) (by omega),
      ofNat_eq_byte (x := z) (by omega)]
    rfl
  · obtain ⟨y, rest, rfl, hy, hy', h'⟩ := decodeFrom_more_ok h
    obtain ⟨z, rest, rfl, hz, hz', h''⟩ := decodeFrom_more_ok h'
    obtain ⟨w, rest, cs', rfl, hw, hw', rfl, hrest⟩ := decodeFrom_last_ok h''
    refine ⟨_, cs', rest, _, rfl, ?_, hrest⟩
    have hvalid : ((((x.toNat - 0xf0) * 64 + (y.toNat - 0x80)) * 64 + (z.toNat - 0x80)) * 64 +
        (w.toNat - 0x80)).isValidChar := by
      unfold Nat.isValidChar
      omega
    rw [utf8EncodeChar_ofNat hvalid, if_neg (by omega), if_neg (by omega), if_neg (by omega),
      ofNat_eq_byte (x := x) (by omega), ofNat_eq_byte (x := y) (by omega),
      ofNat_eq_byte (x := z) (by omega), ofNat_eq_byte (x := w) (by omega)]
    rfl

end Read

/-- Only the bytes of a text are read. -/
theorem decodeUtf8_eq_ok_iff {bytes : ByteArray} {s : String} :
    decodeUtf8 bytes = .ok s.toList ↔ bytes = s.toUTF8 := by
  constructor
  · intro h
    have hread (bs : List UInt8) (cs : List Char) (offset : Nat)
      (h : decodeFrom offset none bs = .ok cs) :
        bs = cs.flatMap String.utf8EncodeChar := by
      induction cs generalizing bs offset with
      | nil =>
        cases bs with
        | nil => rfl
        | cons b bs =>
          obtain ⟨_, _, _, _, hcs, -⟩ := decodeFrom_ok h
          cases hcs
      | cons c cs ih =>
        cases bs with
        | nil => cases h
        | cons b bs =>
          obtain ⟨_, _, bs', _, hcs, hbs, h⟩ := decodeFrom_ok h
          cases hcs
          rw [hbs, List.flatMap_cons, ih _ _ h]
    have hbytes := hread _ _ 0 h
    rw [← toList_toUTF8, toList_eq, toList_eq] at hbytes
    exact ByteArray.ext (Array.toList_inj.mp hbytes)
  · rintro rfl
    exact decodeUtf8_toUTF8 s

theorem utf8EncodeChar_of_ascii {c : Char} (h : c.toNat < 0x80) :
    String.utf8EncodeChar c = [UInt8.ofNat c.toNat] := by
  have hlow : c.val.toNat ≤ 0x7f := Nat.le_of_lt_succ h
  rw [String.utf8EncodeChar]
  simp only [hlow, if_true]
  rfl

theorem toUTF8_of_ascii {s : String} (h : ∀ c ∈ s.toList, c.toNat < 0x80) :
    s.toUTF8.data.toList = s.toList.map fun c ↦ .ofNat c.toNat := by
  rw [← toList_eq, toList_toUTF8, List.map_eq_flatMap]
  exact List.flatMap_congr fun c hc ↦ utf8EncodeChar_of_ascii (h c hc)

/-- Where each character is a byte, bytes that are cut in two are texts cut in two. -/
theorem exists_append_of_ascii {s : String} (hs : ∀ c ∈ s.toList, c.toNat < 0x80)
    {bytes more : ByteArray} (h : bytes ++ more = s.toUTF8) :
    ∃ part rest : String, part ++ rest = s ∧ part.toUTF8 = bytes ∧ rest.toUTF8 = more := by
  have hbytes : s.toList.map (fun c ↦ UInt8.ofNat c.toNat) = bytes.data.toList ++
      more.data.toList := by
    rw [← toUTF8_of_ascii hs, ← h, ByteArray.data_append, Array.toList_append]
  have hencode {cs : List Char} {bytes : ByteArray} (hcs : ∀ c ∈ cs, c.toNat < 0x80)
      (h : cs.map (fun c ↦ UInt8.ofNat c.toNat) = bytes.data.toList) :
      (String.ofList cs).toUTF8 = bytes := by
    refine ByteArray.ext (Array.toList_inj.mp ?_)
    rw [toUTF8_of_ascii (by rwa [String.toList_ofList]), String.toList_ofList, h]
  obtain ⟨part, rest, hparts, hpart, hrest⟩ := List.map_eq_append_iff.mp hbytes
  rw [hparts, List.forall_mem_append] at hs
  refine ⟨.ofList part, .ofList rest, ?_, hencode hs.1 hpart, hencode hs.2 hrest⟩
  rw [← String.ofList_append, ← hparts, String.ofList_toList]

end TwinDiagram.Text
