import TwinDiagram.Proofs.Parser.Progress

namespace TwinDiagram.Parser

open Program State

/-- The tokens start with a complete header: the keyword of the root, a name and a brace. -/
def IsHeader : List Token → Prop
  | x :: y :: z :: _ => x.kind = .root ∧ y.kind.isName ∧ z.kind = .openBrace
  | _ => False

instance : (ts : List Token) → Decidable (IsHeader ts)
  | x :: y :: z :: _ =>
    inferInstanceAs (Decidable (x.kind = .root ∧ y.kind.isName ∧ z.kind = .openBrace))
  | [] | [_] | [_, _] => inferInstanceAs (Decidable False)

theorem IsHeader.three_le_length {xs : List Token} (h : IsHeader xs) : 3 ≤ xs.length := by
  match xs, h with
  | _ :: _ :: _ :: _, _ => simp

theorem isHeader_concat {xs : List Token} {x : Token} (hx : x.kind = .endOfInput) :
    IsHeader (xs ++ [x]) ↔ IsHeader xs := by
  match xs with
  | [] | [_] => simp [IsHeader]
  | [y, z] => simp [IsHeader, hx]
  | _ :: _ :: _ :: _ => rfl

theorem IsHeader.of_longer {xs ys : List Token} (h : xs <+: ys) (hy : IsHeader ys)
    (hlen : 3 ≤ xs.length) : IsHeader xs := by
  obtain ⟨zs, rfl⟩ := h
  match xs, hlen with
  | _ :: _ :: _ :: _, _ => exact hy

theorem IsHeader.longer {xs ys : List Token} (h : xs <+: ys) (hx : IsHeader xs) : IsHeader ys := by
  obtain ⟨zs, rfl⟩ := h
  match xs, hx with
  | _ :: _ :: _ :: _, hx => exact hx

theorem isHeader_drop_concat {xs : List Token} {x : Token} (hx : x.kind = .endOfInput) (i : Nat) :
    IsHeader ((xs ++ [x]).drop i) ↔ IsHeader (xs.drop i) := by
  rcases Nat.lt_or_ge xs.length i with hi | hi
  · rw [List.drop_eq_nil_of_le (Nat.le_of_lt hi),
      List.drop_eq_nil_of_le (by rw [List.length_append, List.length_singleton]; omega)]
  · rw [List.drop_append_of_le_length hi]
    exact isHeader_concat hx

theorem State.forward_zero (s : State) : s.forward 0 = s := by
  cases s
  rfl

theorem State.forward_add (m n : Nat) (s : State) :
    s.forward (m + n) = (s.forward m).forward n := by
  simp [forward, List.take_add, List.drop_drop]

theorem State.current_forward_append {s : State} {v rest : List Token} (h : s.rest = v ++ rest) :
    (s.forward v.length).current = rest.headD s.last := by
  rw [State.current, rest_forward, h, List.drop_left]
  rfl

/-- Two tokens that stand side by side are seen one after the other. -/
theorem State.current_forward_pair {s : State} {u v : List Token} {x y : Token}
    (h : s.rest ++ [s.last] = u ++ x :: y :: v) :
    (s.forward u.length).current = x ∧ (s.forward (u.length + 1)).current = y := by
  have hsee {n : Nat} (hn : n ≤ s.rest.length) :
      (s.rest ++ [s.last])[n]? = some (s.forward n).current := by
    rw [State.current, rest_forward, List.headD_eq_head?_getD, List.head?_drop]
    rcases Nat.lt_or_eq_of_le hn with hn | rfl
    · rw [List.getElem?_append_left hn, List.getElem?_eq_getElem hn]
      rfl
    · simp [State.forward]
  have hlength := congrArg List.length h
  simp only [List.length_append, List.length_cons, List.length_nil] at hlength
  have hx := hsee (n := u.length) (by omega)
  have hy := hsee (n := u.length + 1) (by omega)
  rw [h] at hx hy
  constructor
  · simpa using hx.symm
  · simpa using hy.symm

theorem IsHeader.kinds {s : State} (h : IsHeader s.rest) :
    s.current.kind = .root ∧ (s.forward 1).current.kind.isName ∧
      (s.forward 2).current.kind = .openBrace := by
  match hrest : s.rest, h with
  | x :: y :: z :: ts, ⟨hx, hy, hz⟩ =>
    have hy' : (s.forward 1).rest = y :: z :: ts := by rw [rest_forward, hrest]; rfl
    have hz' : (s.forward 2).rest = z :: ts := by rw [rest_forward, hrest]; rfl
    rw [current_of_rest hrest, current_of_rest hy', current_of_rest hz']
    exact ⟨hx, hy, hz⟩

theorem State.current_advance {s : State} {x : Token} {xs : List Token} (h : s.rest = x :: xs)
    (hx : x.kind ≠ .endOfInput) : s.advance.current = xs.headD s.last := by
  rw [current, rest_advance h hx, advance_eq_forward (by rwa [current_of_rest h])]
  rfl

theorem headerFollows_iff {s : State} {x : Token} {xs : List Token} (h : s.rest = x :: xs)
    (hx : x.kind ≠ .endOfInput) :
    headerFollows s ↔ ∃ y z ys, xs = y :: z :: ys ∧ y.kind.isName ∧ z.kind = .openBrace := by
  have hcur := current_advance h hx
  have hrest := State.rest_advance h hx
  have hlast : s.advance.last = s.last := (Onward.advance s).last
  have hend := s.last_kind
  unfold headerFollows
  simp only [hcur, Bool.and_eq_true, beq_iff_eq]
  cases xs with
  | nil => simp [hend, TokenKind.isName, TokenKind.softKeywords]
  | cons y ys =>
    simp only [List.headD_cons]
    have hnext (hy : y.kind.isName) : s.advance.advance.current = ys.headD s.last :=
      hlast ▸ current_advance hrest
        (TokenKind.ne_endOfInput_of_isPlain (TokenKind.isPlain_of_isName hy))
    constructor
    · rintro ⟨hy, hz⟩
      rw [hnext hy] at hz
      cases ys with
      | nil => simp [hend] at hz
      | cons z ys => exact ⟨y, z, ys, rfl, hy, hz⟩
    · rintro ⟨y', z, ys', heq, hy, hz⟩
      cases heq
      refine ⟨hy, ?_⟩
      rw [hnext hy]
      exact hz

theorem isHeader_iff (s : State) : IsHeader s.rest ↔ s.current.kind = .root ∧ headerFollows s := by
  cases hs : s.rest with
  | nil => simp [IsHeader, current_of_nil hs, s.last_kind]
  | cons x xs =>
    rw [current_of_rest hs]
    constructor
    · intro h
      match xs, h with
      | y :: z :: ys, ⟨hx, hy, hz⟩ =>
        exact ⟨hx, (headerFollows_iff hs (by simp [hx])).mpr ⟨y, z, ys, rfl, hy, hz⟩⟩
    · rintro ⟨hx, hfollows⟩
      obtain ⟨y, z, ys, rfl, hy, hz⟩ := (headerFollows_iff hs (by simp [hx])).mp hfollows
      exact ⟨hx, hy, hz⟩

/-- The search finds the first header. -/
theorem seekFrom_eq_some_iff {n : Nat} {s t : State} :
    seekFrom n s = some t ↔ ∃ i < n, t = s.forward i ∧ IsHeader (s.rest.drop i) ∧
      ∀ j < i, ¬ IsHeader (s.rest.drop j) := by
  induction n generalizing s with
  | zero => simp [seekFrom]
  | succ n ih =>
    have hdrop (j : Nat) : (s.forward 1).rest.drop j = s.rest.drop (j + 1) := by
      rw [rest_forward, List.drop_drop, Nat.add_comm]
    unfold seekFrom
    by_cases h : IsHeader s.rest
    · have h' := (isHeader_iff s).mp h
      rw [if_pos (by simp [h'.1, h'.2]), Option.some_inj]
      constructor
      · rintro rfl
        exact ⟨0, Nat.succ_pos n, (forward_zero s).symm, h,
          fun j hj ↦ absurd hj (Nat.not_lt_zero j)⟩
      · rintro ⟨i, -, ht, -, hfirst⟩
        cases i with
        | zero => rw [ht, forward_zero]
        | succ i => exact absurd h (hfirst 0 (Nat.succ_pos i))
    · have h' : ¬ (s.current.kind = .root ∧ headerFollows s) := (not_congr (isHeader_iff s)).mp h
      rw [if_neg (by simpa using h'), ih]
      constructor
      · rintro ⟨i, hi, ht, hhead, hfirst⟩
        refine ⟨i + 1, Nat.succ_lt_succ hi, ?_, hdrop i ▸ hhead, fun j hj ↦ ?_⟩
        · rw [ht, Nat.add_comm, forward_add]
        · cases j with
          | zero => exact h
          | succ j => exact hdrop j ▸ hfirst j (Nat.lt_of_succ_lt_succ hj)
      · rintro ⟨i, hi, ht, hhead, hfirst⟩
        cases i with
        | zero => exact absurd hhead h
        | succ i =>
          refine ⟨i, Nat.lt_of_succ_lt_succ hi, ?_, hdrop i ▸ hhead, fun j hj ↦ ?_⟩
          · rw [ht, Nat.add_comm, forward_add]
          · exact hdrop j ▸ hfirst (j + 1) (Nat.succ_lt_succ hj)

def State.header? (s : State) : Option State := seekFrom s.rest.length s

theorem header?_eq_some_iff {s t : State} : s.header? = some t ↔
    ∃ i, t = s.forward i ∧ IsHeader (s.rest.drop i) ∧ ∀ j < i, ¬ IsHeader (s.rest.drop j) := by
  rw [State.header?, seekFrom_eq_some_iff]
  constructor
  · rintro ⟨i, -, h⟩
    exact ⟨i, h⟩
  · rintro ⟨i, ht, hhead, hfirst⟩
    refine ⟨i, ?_, ht, hhead, hfirst⟩
    by_cases hi : i < s.rest.length
    · exact hi
    · rw [List.drop_eq_nil_of_le (by omega)] at hhead
      cases hhead

theorem header?_of_isHeader {s : State} (h : IsHeader s.rest) : s.header? = some s :=
  header?_eq_some_iff.mpr
    ⟨0, (State.forward_zero s).symm, h, fun j hj ↦ absurd hj (Nat.not_lt_zero j)⟩

theorem run_seekRoot (s : State) : seekRoot.run.run s = match s.rewind.header? with
    | some t => (.ok true, t)
    | none => (.ok false, s.rewind) := by
  rw [seekRoot, run_bind, run_get]
  simp only [State.header?]
  cases seekFrom s.rewind.rest.length s.rewind <;> rfl

def outline (s : State) : Outline × State := runStatements rootHandler ⟨.empty, none⟩ (s.forward 3)

theorem run_document (s : State) : document.run.run s = match s.rewind.header? with
    | none => (.ok .empty, s.rewind.report .missingRoot)
    | some t =>
      let name := (t.forward 1).current.value
      let m := (outline t).1.model name
      let u := (outline t).2.close s!"#dartwin {name}" (t.forward 2).current
      (.ok m, u.log (.parsed name m.systems.length m.goals.length m.allocations.length
        u.findings.length)) := by
  rw [document, run_bind, run_seekRoot]
  cases hs : s.rewind.header? with
  | none => rfl
  | some t =>
    obtain ⟨i, ht, hhead, -⟩ := header?_eq_some_iff.mp hs
    rw [← rest_forward, ← ht] at hhead
    obtain ⟨hx, hy, hz⟩ := hhead.kinds
    simp only
    rw [if_neg (by decide), run_bind, run_expect_ok (by decide) hx]
    simp only
    rw [run_bind, run_expectName_ok hy]
    simp only
    rw [run_bind, run_block, ← forward_add, if_pos hz, advance_of_kind hz (by decide),
      ← forward_add]
    rfl

theorem document_ok (s : State) : ∃ m t, document.run.run s = (.ok m, t) := by
  rw [run_document]
  split <;> exact ⟨_, _, rfl⟩

end TwinDiagram.Parser
