import Mathlib.Data.List.Forall2
import TwinDiagram.Block

namespace TwinDiagram.Block

variable {α : Type} {isOpen isClose : α → Bool} {depth d : Int} {x : α} {xs : List α}

theorem closing?_of_open (hx : isOpen x) :
    closing? isOpen isClose d (x :: xs) = (closing? isOpen isClose (d + 1) xs).map (· + 1) := by
  rw [closing?, if_pos hx]

theorem closing?_of_neither (hx : isOpen x = false) (hx' : isClose x = false) :
    closing? isOpen isClose d (x :: xs) = (closing? isOpen isClose d xs).map (· + 1) := by
  simp [closing?, hx, hx']

theorem closing?_of_close (hx : isOpen x = false) (hx' : isClose x) (hd : d ≠ 1) :
    closing? isOpen isClose d (x :: xs) = (closing? isOpen isClose (d - 1) xs).map (· + 1) := by
  rw [closing?, if_neg (by simp [hx]), if_pos hx', if_neg (by omega)]

theorem closing?_one_of_close (hx : isOpen x = false) (hx' : isClose x) :
    closing? isOpen isClose 1 (x :: xs) = some 0 := by
  simp [closing?, hx, hx']

theorem lt_of_closing? {n : Nat} (h : closing? isOpen isClose d xs = some n) :
    n < xs.length := by
  induction xs generalizing d n with
  | nil => cases h
  | cons x xs ih =>
    have hstep {e : Int} (h : (closing? isOpen isClose e xs).map (· + 1) = some n) :
        n < xs.length + 1 := by
      obtain ⟨m, hm, rfl⟩ := Option.map_eq_some_iff.mp h
      exact Nat.succ_lt_succ (ih hm)
    rw [List.length_cons]
    unfold closing? at h
    split at h
    · exact hstep h
    split at h
    · split at h
      · cases h
        exact Nat.succ_pos _
      · exact hstep h
    · exact hstep h

/-- What ends a block is a closing item. -/
theorem exists_append_of_closing? {n : Nat} (h : closing? isOpen isClose d xs = some n) :
    ∃ ys x zs, xs = ys ++ x :: zs ∧ ys.length = n ∧ isClose x := by
  induction xs generalizing d n with
  | nil => cases h
  | cons x xs ih =>
    have hstep {e : Int} (h : (closing? isOpen isClose e xs).map (· + 1) = some n) :
        ∃ ys y zs, x :: xs = ys ++ y :: zs ∧ ys.length = n ∧ isClose y := by
      obtain ⟨m, hm, rfl⟩ := Option.map_eq_some_iff.mp h
      obtain ⟨ys, y, zs, rfl, rfl, hy⟩ := ih hm
      exact ⟨x :: ys, y, zs, rfl, rfl, hy⟩
    unfold closing? at h
    split at h
    · exact hstep h
    split at h
    · next hx =>
      split at h
      · cases h
        exact ⟨[], x, xs, rfl, rfl, hx⟩
      · exact hstep h
    · exact hstep h

/-- An end that is found is found whatever follows. -/
theorem closing?_append {n : Nat} (h : closing? isOpen isClose d xs = some n) (ys : List α) :
    closing? isOpen isClose d (xs ++ ys) = some n := by
  induction xs generalizing d n with
  | nil => cases h
  | cons x xs ih =>
    have hstep {e : Int} (h : (closing? isOpen isClose e xs).map (· + 1) = some n) :
        (closing? isOpen isClose e (xs ++ ys)).map (· + 1) = some n := by
      obtain ⟨m, hm, rfl⟩ := Option.map_eq_some_iff.mp h
      rw [ih hm, Option.map_some]
    rw [List.cons_append]
    unfold closing? at h ⊢
    split at h
    · next hx => rw [if_pos hx, hstep h]
    · next hx =>
      rw [if_neg hx]
      split at h
      · next hx' =>
        rw [if_pos hx']
        split at h
        · next hd => rw [if_pos hd, h]
        · next hd => rw [if_neg hd, hstep h]
      · next hx' => rw [if_neg hx', hstep h]

theorem closing?_congr {β : Type} {isOpen' isClose' : β → Bool} {xs : List α} {ys : List β}
    (h : List.Forall₂ (fun x y ↦ isOpen x = isOpen' y ∧ isClose x = isClose' y) xs ys) :
    closing? isOpen isClose d xs = closing? isOpen' isClose' d ys := by
  induction h generalizing d with
  | nil => rfl
  | cons hxy _ ih => simp only [closing?, hxy.1, hxy.2, ih]

/-- What is not closed inside is closed behind. -/
theorem length_le_of_closing?_append {xs ys : List α} {n : Nat}
    (hxs : closing? isOpen isClose d xs = none)
    (h : closing? isOpen isClose d (xs ++ ys) = some n) :
    xs.length ≤ n := by
  induction xs generalizing d n with
  | nil => exact Nat.zero_le n
  | cons x xs ih =>
    have hstep {e : Int} (hxs : (closing? isOpen isClose e xs).map (· + 1) = none)
        (h : (closing? isOpen isClose e (xs ++ ys)).map (· + 1) = some n) : xs.length + 1 ≤ n := by
      obtain ⟨m, hm, rfl⟩ := Option.map_eq_some_iff.mp h
      exact Nat.succ_le_succ (ih (Option.map_eq_none_iff.mp hxs) hm)
    rw [List.cons_append, closing?] at h
    rw [closing?] at hxs
    split at h
    · next hopen => exact hstep (by simpa [hopen] using hxs) h
    next hopen =>
    rw [if_neg hopen] at hxs
    split at h
    · next hclose =>
      rw [if_pos hclose] at hxs
      split at h
      · next hd => simp [hd] at hxs
      · next hd => exact hstep (by simpa [hd] using hxs) h
    · next hclose => exact hstep (by simpa [hclose] using hxs) h

theorem closing?_of_append {ys : List α} {n : Nat}
    (h : closing? isOpen isClose d (xs ++ ys) = some n) (hn : n < xs.length) :
    closing? isOpen isClose d xs = some n := by
  cases hxs : closing? isOpen isClose d xs with
  | none => exact absurd (length_le_of_closing?_append hxs h) (Nat.not_le.mpr hn)
  | some m => rw [← h, closing?_append hxs]

/-- The end of an outer block is looked for behind the end of the inner one. -/
theorem closing?_add {e : Int} (he : 1 ≤ e) (hd : 1 ≤ d) :
    closing? isOpen isClose (e + d) xs = (closing? isOpen isClose e xs).bind fun n ↦
      (closing? isOpen isClose d (xs.drop (n + 1))).map (· + (n + 1)) := by
  induction xs generalizing e with
  | nil => rfl
  | cons x xs ih =>
    have hstep {e : Int} (he : 1 ≤ e) :
        (closing? isOpen isClose (e + d) xs).map (· + 1) =
          ((closing? isOpen isClose e xs).map (· + 1)).bind fun n ↦
            (closing? isOpen isClose d ((x :: xs).drop (n + 1))).map (· + (n + 1)) := by
      rw [ih he]
      cases closing? isOpen isClose e xs with
      | none => rfl
      | some n => simp [Function.comp_def, Nat.add_assoc]
    by_cases hopen : isOpen x
    · rw [closing?_of_open hopen, closing?_of_open hopen, ← hstep (by omega), Int.add_right_comm]
    by_cases hclose : isClose x
    · have hopen : isOpen x = false := by simpa using hopen
      rw [closing?_of_close hopen hclose (by omega)]
      by_cases hone : e = 1
      · subst hone
        rw [closing?_one_of_close hopen hclose, show 1 + d - 1 = d by omega]
        rfl
      · rw [closing?_of_close hopen hclose hone, ← hstep (by omega)]
        congr 2
        omega
    · have hopen : isOpen x = false := by simpa using hopen
      have hclose : isClose x = false := by simpa using hclose
      rw [closing?_of_neither hopen hclose, closing?_of_neither hopen hclose, ← hstep he]

theorem closing?_concat (hx : isOpen x = false) (hx' : isClose x = false) :
    closing? isOpen isClose d (xs ++ [x]) = closing? isOpen isClose d xs := by
  induction xs generalizing d with
  | nil => rw [List.nil_append, closing?_of_neither hx hx']; rfl
  | cons y ys ih => simp only [List.cons_append, closing?, ih]

theorem extract_natCast (xs : List α) (i : Nat) :
    (extract isOpen isClose xs i).stop =
        ((closing? isOpen isClose 0 (xs.drop i)).map (· + i)).getD xs.length ∧
      (extract isOpen isClose xs i).closed = (closing? isOpen isClose 0 (xs.drop i)).isSome := by
  rw [extract, if_neg (by omega), Int.toNat_natCast]
  cases closing? isOpen isClose 0 (xs.drop i) with
  | none => simp
  | some n => simp [Int.add_comm]

/-- Each opening item in the run is closed by an item behind it, with a balanced run
between them. -/
inductive Balanced (isOpen isClose : α → Bool) : List α → Prop
  | nil : Balanced isOpen isClose []
  | other {x : α} {xs : List α} : isOpen x = false → isClose x = false →
    Balanced isOpen isClose xs → Balanced isOpen isClose (x :: xs)
  | block {x y : α} {xs ys : List α} : isOpen x → isClose y → Balanced isOpen isClose xs →
    Balanced isOpen isClose ys → Balanced isOpen isClose (x :: xs ++ y :: ys)

/-- The item at `start` opens a block with this body, and the item at `stop` closes it. -/
structure Delimits (isOpen isClose : α → Bool) (source : List α) (start : Nat) (body : List α)
    (stop : Nat) : Prop where
  balanced : Balanced isOpen isClose body
  split : ∃ before x y rest, source = before ++ [x] ++ body ++ [y] ++ rest ∧ isOpen x ∧ isClose y ∧
    before.length = start ∧ (before ++ [x] ++ body).length = stop

section Scan

variable {n : Nat}

/-- What the end of a balanced run is followed by decides where the block around it ends. -/
theorem Balanced.closing?_append (h : Balanced isOpen isClose xs)
    (hapart : ∀ x, ¬ (isOpen x ∧ isClose x)) (hd : 1 ≤ d) (ys : List α) :
    closing? isOpen isClose d (xs ++ ys) = (closing? isOpen isClose d ys).map (· + xs.length) := by
  induction h generalizing d ys with
  | nil => simp
  | other hopen hclose _ ih =>
    rw [List.cons_append, closing?_of_neither hopen hclose, ih hd, Option.map_map]
    rfl
  | @block x y xs zs hopen hclose _ _ ih ih' =>
    have hnot : isOpen y = false := Bool.eq_false_iff.mpr fun hy ↦ hapart y ⟨hy, hclose⟩
    have hsplit : x :: xs ++ y :: zs ++ ys = x :: (xs ++ y :: (zs ++ ys)) := by simp
    rw [hsplit, closing?_of_open hopen, ih (by omega), closing?_of_close hnot hclose (by omega),
      show d + 1 - 1 = d by omega, ih' hd, Option.map_map, Option.map_map, Option.map_map]
    congr 1
    funext k
    simp only [Function.comp_apply, List.length_append, List.length_cons]
    omega

/-- In front of the item that is found, there is a balanced run. -/
theorem exists_balanced_of_closing? (h : closing? isOpen isClose 1 xs = some n) :
    ∃ body y rest, xs = body ++ y :: rest ∧ body.length = n ∧ isClose y ∧
      Balanced isOpen isClose body := by
  induction hlength : xs.length using Nat.strongRecOn generalizing xs n with
  | ind l ih =>
    subst hlength
    cases xs with
    | nil => cases h
    | cons x xs =>
      by_cases hopen : isOpen x
      · -- The block that is opened here ends first, and the one around it behind that.
        rw [closing?_of_open hopen, closing?_add (Int.le_refl 1) (Int.le_refl 1)] at h
        obtain ⟨_, hends, rfl⟩ := Option.map_eq_some_iff.mp h
        obtain ⟨j, hj, hbehind⟩ := Option.bind_eq_some_iff.mp hends
        obtain ⟨k, hk, rfl⟩ := Option.map_eq_some_iff.mp hbehind
        obtain ⟨inner, y, behind, rfl, rfl, hy, hinner⟩ := ih _ (by simp) hj rfl
        rw [List.append_cons, List.drop_left' (by simp)] at hk
        obtain ⟨body, z, rest, rfl, rfl, hz, hbody⟩ := ih _ (by simp; omega) hk rfl
        refine ⟨x :: inner ++ y :: body, z, rest, by simp, ?_, hz, .block hopen hy hinner hbody⟩
        simp only [List.length_append, List.length_cons]
        omega
      have hopen : isOpen x = false := by simpa using hopen
      by_cases hclose : isClose x
      · rw [closing?_one_of_close hopen hclose] at h
        cases h
        exact ⟨[], x, xs, rfl, rfl, hclose, .nil⟩
      · have hclose : isClose x = false := by simpa using hclose
        rw [closing?_of_neither hopen hclose] at h
        obtain ⟨k, hk, rfl⟩ := Option.map_eq_some_iff.mp h
        obtain ⟨body, y, rest, rfl, rfl, hy, hbody⟩ := ih _ (by simp) hk rfl
        exact ⟨x :: body, y, rest, rfl, rfl, hy, .other hopen hclose hbody⟩

/-- Where no end is found, the depth stays above zero. -/
theorem countP_lt_of_closing?_eq_none (hapart : ∀ x, ¬ (isOpen x ∧ isClose x)) (hd : 1 ≤ d)
    (h : closing? isOpen isClose d xs = none) {part : List α} (hpart : part <+: xs) :
    (part.countP isClose : Int) < d + part.countP isOpen := by
  induction part generalizing d xs with
  | nil =>
    rw [List.countP_nil, List.countP_nil]
    omega
  | cons x part ih =>
    obtain ⟨rest, rfl⟩ := hpart
    rw [List.cons_append] at h
    have hrest : part <+: part ++ rest := List.prefix_append _ _
    by_cases hopen : isOpen x
    · have hclose : ¬ isClose x := fun hclose ↦ hapart x ⟨hopen, hclose⟩
      rw [closing?_of_open hopen, Option.map_eq_none_iff] at h
      have hlt := ih (by omega) h hrest
      rw [List.countP_cons_of_pos hopen, List.countP_cons_of_neg hclose]
      omega
    by_cases hclose : isClose x
    · have hdeep : d ≠ 1 := by
        rintro rfl
        rw [closing?_one_of_close (by simpa using hopen) hclose] at h
        cases h
      rw [closing?_of_close (by simpa using hopen) hclose hdeep, Option.map_eq_none_iff] at h
      have hlt := ih (by omega) h hrest
      rw [List.countP_cons_of_neg hopen, List.countP_cons_of_pos hclose]
      omega
    · rw [closing?_of_neither (by simpa using hopen) (by simpa using hclose),
        Option.map_eq_none_iff] at h
      rw [List.countP_cons_of_neg hopen, List.countP_cons_of_neg hclose]
      exact ih hd h hrest

end Scan

section Extract

variable {source body : List α} {start stop : Nat}

theorem clamp_natCast (length index : Nat) : clamp length (index : Int) = min index length := by
  rw [clamp, if_neg (by omega), Int.toNat_natCast]

theorem slice_natCast (first last : Nat) (xs : List α) :
    slice (first : Int) (last : Int) xs = (xs.drop first).take (last - first) := by
  simp only [slice, clamp_natCast]
  rcases Nat.le_total xs.length first with hle | hle
  · rw [List.drop_eq_nil_of_le (by omega), List.drop_eq_nil_of_le hle, List.take_nil, List.take_nil]
  · rw [Nat.min_eq_left hle, List.take_eq_take_iff, List.length_drop]
    omega

theorem extract_of_closing? {n : Nat} (h : closing? isOpen isClose 0 (source.drop start) = some n) :
    extract isOpen isClose source start =
      ⟨(source.drop (start + 1)).take (n - 1), (start + n : Nat), true⟩ := by
  have hfirst : (start : Int) + 1 = (start + 1 : Nat) := by omega
  have hlast : (start : Int) + n = (start + n : Nat) := by omega
  rw [extract, if_neg (by omega), Int.toNat_natCast, h]
  simp only [hfirst, hlast, slice_natCast]
  rw [show start + n - (start + 1) = n - 1 by omega]

theorem extract_of_closing?_eq_none (h : closing? isOpen isClose 0 (source.drop start) = none) :
    extract isOpen isClose source start = ⟨[], source.length, false⟩ := by
  rw [extract, if_neg (by omega), Int.toNat_natCast, h]

/-- A block that is delimited is found. -/
theorem Delimits.extract_eq (h : Delimits isOpen isClose source start body stop)
    (hapart : ∀ x, ¬ (isOpen x ∧ isClose x)) :
    extract isOpen isClose source start = ⟨body, stop, true⟩ := by
  obtain ⟨hbody, before, x, y, rest, rfl, hopen, hclose, rfl, rfl⟩ := h
  have hnot : isOpen y = false := Bool.eq_false_iff.mpr fun hy ↦ hapart y ⟨hy, hclose⟩
  have hscan : closing? isOpen isClose 0 (x :: (body ++ y :: rest)) = some (body.length + 1) := by
    rw [closing?_of_open hopen, Int.zero_add, hbody.closing?_append hapart (Int.le_refl 1),
      closing?_one_of_close hnot hclose]
    simp
  have hsource : before ++ [x] ++ body ++ [y] ++ rest = before ++ x :: (body ++ y :: rest) := by
    simp
  have hdrop : (before ++ x :: (body ++ y :: rest)).drop before.length = x :: (body ++ y :: rest) :=
    List.drop_left
  rw [← hdrop, ← hsource] at hscan
  rw [extract_of_closing? hscan, hsource, List.append_cons before x, List.drop_left' (by simp),
    Nat.add_sub_cancel, List.take_left, List.length_append, List.length_append,
    List.length_singleton, Nat.add_assoc, Nat.add_comm 1]

theorem Balanced.exists_block {part : List α} (h : Balanced isOpen isClose (x :: part))
    (hopen : isOpen x) :
    ∃ body y rest, part = body ++ y :: rest ∧ isClose y ∧ Balanced isOpen isClose body := by
  cases h with
  | other hnot => rw [hopen] at hnot; cases hnot
  | block _ hclose hbody => exact ⟨_, _, _, rfl, hclose, hbody⟩

theorem delimits_of_drop {y : α} {rest : List α} (hx : source[start]? = some x) (hopen : isOpen x)
    (hclose : isClose y) (hbody : Balanced isOpen isClose body)
    (hrest : source.drop (start + 1) = body ++ y :: rest) :
    Delimits isOpen isClose source start body (source.take start ++ [x] ++ body).length := by
  obtain ⟨hlt, rfl⟩ := List.getElem?_eq_some_iff.mp hx
  refine ⟨hbody, source.take start, source[start], y, rest, ?_, hopen, hclose,
    List.length_take_of_le (Nat.le_of_lt hlt), rfl⟩
  rw [List.take_append_getElem hlt, List.append_assoc, List.append_assoc,
    List.singleton_append, ← hrest, List.take_append_drop]

variable (hx : source[start]? = some x) (hopen : isOpen x)
include hx hopen

theorem exists_delimits_of_closing? {n : Nat}
    (h : closing? isOpen isClose 0 (source.drop start) = some n) :
    ∃ body stop, Delimits isOpen isClose source start body stop := by
  obtain ⟨hlt, rfl⟩ := List.getElem?_eq_some_iff.mp hx
  rw [List.drop_eq_getElem_cons hlt, closing?_of_open hopen, Int.zero_add] at h
  obtain ⟨k, hk, rfl⟩ := Option.map_eq_some_iff.mp h
  obtain ⟨body, y, rest, hrest, -, hclose, hbody⟩ := exists_balanced_of_closing? hk
  exact ⟨body, _, delimits_of_drop hx hopen hclose hbody hrest⟩

/-- A block is delimited if a balanced run starts with its opening item. -/
theorem exists_delimits_iff : (∃ body stop, Delimits isOpen isClose source start body stop) ↔
    ∃ part, part ≠ [] ∧ part <+: source.drop start ∧ Balanced isOpen isClose part := by
  constructor
  · rintro ⟨body, stop, hbody, before, x, y, rest, rfl, hopen, hclose, rfl, rfl⟩
    have hsource : before ++ [x] ++ body ++ [y] ++ rest = before ++ (x :: body ++ [y] ++ rest) := by
      simp
    rw [hsource, List.drop_left]
    exact ⟨x :: body ++ [y], nofun, List.prefix_append _ _, .block hopen hclose hbody .nil⟩
  · rintro ⟨part, hne, ⟨behind, hpart⟩, hbalanced⟩
    obtain ⟨hlt, rfl⟩ := List.getElem?_eq_some_iff.mp hx
    rw [List.drop_eq_getElem_cons hlt] at hpart
    cases part with
    | nil => exact absurd rfl hne
    | cons x part =>
      rw [List.cons_append, List.cons.injEq] at hpart
      obtain ⟨rfl, hrest⟩ := hpart
      obtain ⟨body, y, rest, rfl, hclose, hbody⟩ := hbalanced.exists_block hopen
      rw [List.append_assoc] at hrest
      exact ⟨body, _, delimits_of_drop hx hopen hclose hbody hrest.symm⟩

/-- Without an end, more items open than close from the first one on. -/
theorem countP_lt_of_unclosed (hapart : ∀ x, ¬ (isOpen x ∧ isClose x))
    (h : closing? isOpen isClose 0 (source.drop start) = none) {part : List α} (hne : part ≠ [])
    (hpart : part <+: source.drop start) : part.countP isClose < part.countP isOpen := by
  obtain ⟨hlt, rfl⟩ := List.getElem?_eq_some_iff.mp hx
  rw [List.drop_eq_getElem_cons hlt] at h hpart
  cases part with
  | nil => exact absurd rfl hne
  | cons x part =>
    obtain ⟨rfl, hrest⟩ := List.cons_prefix_cons.mp hpart
    rw [closing?_of_open hopen, Option.map_eq_none_iff, Int.zero_add] at h
    have hlt := countP_lt_of_closing?_eq_none hapart (Int.le_refl 1) h hrest
    rw [List.countP_cons_of_pos hopen,
      List.countP_cons_of_neg fun hclose ↦ hapart _ ⟨hopen, hclose⟩]
    omega

end Extract

/-- The block of an opening item is closed if some balanced run starts with that item. It then ends
where a balanced body is followed by a closing item, which is so in one place only. Otherwise the
item and what follows it have more opening than closing items, as far as one looks. -/
theorem extract_delimits {source : List α} {start : Nat} {x : α}
    (hapart : ∀ x, ¬ (isOpen x ∧ isClose x))
    (hx : source[start]? = some x) (hopen : isOpen x) :
    ∃ b, extract? isOpen isClose source start = some b ∧
      (b.closed ↔ ∃ part, part ≠ [] ∧ part <+: source.drop start ∧ Balanced isOpen isClose part) ∧
      (b.closed → ∃ stop : Nat, b.stop = stop ∧ Delimits isOpen isClose source start b.body stop) ∧
      (∀ body stop, Delimits isOpen isClose source start body stop →
        b.closed ∧ b.stop = stop ∧ b.body = body) ∧
      (b.closed = false → b.body = [] ∧ b.stop = source.length ∧
        ∀ part, part ≠ [] → part <+: source.drop start →
          part.countP isClose < part.countP isOpen) := by
  rw [← exists_delimits_iff hx hopen]
  refine ⟨extract isOpen isClose source start, if_neg (by omega), ?_⟩
  cases hscan : closing? isOpen isClose 0 (source.drop start) with
  | none =>
    have hnone {body : List α} {stop : Nat} : ¬ Delimits isOpen isClose source start body stop := by
      intro h
      have hextract := h.extract_eq hapart
      rw [extract_of_closing?_eq_none hscan] at hextract
      cases hextract
    rw [extract_of_closing?_eq_none hscan]
    exact ⟨iff_of_false nofun fun ⟨_, _, h⟩ ↦ hnone h, nofun, fun _ _ h ↦ absurd h hnone,
      fun _ ↦ ⟨rfl, rfl, fun _ ↦ countP_lt_of_unclosed hx hopen hapart hscan⟩⟩
  | some n =>
    obtain ⟨body, stop, h⟩ := exists_delimits_of_closing? hx hopen hscan
    have hunique {body' : List α} {stop' : Nat}
      (h' : Delimits isOpen isClose source start body' stop') :
        (⟨body, stop, true⟩ : Extracted α) = ⟨body', stop', true⟩ :=
      (h.extract_eq hapart).symm.trans (h'.extract_eq hapart)
    rw [h.extract_eq hapart]
    refine ⟨iff_of_true rfl ⟨body, stop, h⟩, fun _ ↦ ⟨stop, rfl, h⟩, fun body' stop' h' ↦ ?_, nofun⟩
    have heq := hunique h'
    exact ⟨rfl, congrArg Extracted.stop heq, congrArg Extracted.body heq⟩

/-- A block with another one in it, which a closing item too many follows. -/
theorem extract_delimits_nested :
    let source := "a\x7bb\x7bc\x7d\x7d\x7d".toList
    let isOpen : Char → Bool := (· == '\x7b')
    let isClose : Char → Bool := (· == '\x7d')
    (∀ x, ¬ (isOpen x ∧ isClose x)) ∧ source[1]? = some '\x7b' ∧ isOpen '\x7b' ∧
      ∃ b, extract? isOpen isClose source (1 : Nat) = some b ∧
        (b.closed ↔ ∃ part, part ≠ [] ∧ part <+: source.drop 1 ∧ Balanced isOpen isClose part) ∧
        (b.closed → ∃ stop : Nat, b.stop = stop ∧ Delimits isOpen isClose source 1 b.body stop) ∧
        (∀ body stop, Delimits isOpen isClose source 1 body stop →
          b.closed ∧ b.stop = stop ∧ b.body = body) ∧
        (b.closed = false → b.body = [] ∧ b.stop = source.length ∧
          ∀ part, part ≠ [] → part <+: source.drop 1 →
            part.countP isClose < part.countP isOpen) := by
  intro source isOpen isClose
  have hapart : ∀ x, ¬ (isOpen x ∧ isClose x) := by
    rintro x ⟨hopen, hclose⟩
    rw [beq_iff_eq] at hopen hclose
    rw [hopen] at hclose
    cases hclose
  have hx : source[1]? = some '\x7b' := by decide
  exact ⟨hapart, hx, rfl, extract_delimits hapart hx rfl⟩

end TwinDiagram.Block
