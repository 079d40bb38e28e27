import TwinDiagram.Proofs.Layout.Arrival

namespace TwinDiagram.Layout

open Checked (Canvas Rule ids)

variable {g : Graph} {d n p s : Node} {done rest others way : List Node} {room : Nat}

open scoped Classical in
/-- The nodes that `n` brings to the grid and nothing listed before it does. -/
noncomputable def firstBrought (g : Graph) (n : Node) : List Node :=
  g.nodes.filter fun s ↦ Brings g n s ∧ ∀ d, Brings g d s → g.nodes.idxOf n ≤ g.nodes.idxOf d

/-- No node has more than `room` nodes to place on its way up, itself included. -/
def Shallow (room : Nat) (g : Graph) : Prop := ∀ n ∈ g.nodes, (firstBrought g n).length ≤ room

theorem mem_firstBrought : s ∈ firstBrought g n ↔
    Brings g n s ∧ ∀ d, Brings g d s → g.nodes.idxOf n ≤ g.nodes.idxOf d := by
  simp only [firstBrought, List.mem_filter, decide_eq_true_iff]
  exact and_iff_right_of_imp fun h ↦ h.1.1.1

variable {α : Type} {boxes : Boxes α}

/-- The nodes with a box are those that rules place and those that the nodes of `done` bring. -/
def Boxed (g : Graph) (done : List Node) (boxes : Boxes α) : Prop :=
  ∀ n ∈ g.nodes, (boxes.get? n.id).isSome ↔ n ∈ ruledNodes g ∨ ∃ d ∈ done, Brings g d n

section Boxed

variable (h : Boxed g done boxes)
include h

theorem Boxed.loose (hn : n ∈ g.nodes) (hbox : boxes.get? n.id = none) : Loose g n := by
  refine ⟨hn, fun hrule ↦ ?_⟩
  have hsome := (h n hn).mpr (.inl hrule)
  rw [hbox] at hsome
  cases hsome

theorem Boxed.get?_eq_none_iff (hn : Loose g n) :
    boxes.get? n.id = none ↔ ∀ d ∈ done, ¬ Brings g d n := by
  rw [← Option.not_isSome_iff_eq_none, h n hn.1, or_iff_right hn.2]
  push Not
  rfl

theorem Boxed.get?_of_parent (hparent : LooseParent g p n) (hbox : boxes.get? p.id = none) :
    boxes.get? n.id = none := by
  refine (h.get?_eq_none_iff hparent.2.1).mpr fun d hd hbrings ↦ ?_
  exact (h.get?_eq_none_iff hparent.1).mp hbox d hd ⟨hparent.1, hbrings.2.head hparent⟩

end Boxed

namespace Climb

theorem subset (h : Climb boxes others n way) : way ⊆ n :: others := by
  induction h with
  | boxed => exact List.nil_subset _
  | orphan => exact List.cons_subset_cons _ (List.nil_subset _)
  | child hbox hparent hclimb ih =>
    refine List.cons_subset_cons _ (List.Subset.trans ih (List.cons_subset.mpr ⟨?_, ?_⟩))
    · exact List.mem_of_find?_eq_some hparent
    · exact List.filter_subset_self _

theorem nodup (h : Climb boxes others n way) (hn : n ∉ others) : way.Nodup := by
  induction h with
  | boxed => exact .nil
  | orphan => exact List.nodup_singleton _
  | @child others n parent way hbox hparent hclimb ih =>
    have hmem : parent ∈ others := List.mem_of_find?_eq_some hparent
    have hwithin : way ⊆ others := List.Subset.trans hclimb.subset
      (List.cons_subset.mpr ⟨hmem, List.filter_subset_self _⟩)
    exact List.nodup_cons.mpr ⟨fun hn' ↦ hn (hwithin hn'), ih (by simp [without])⟩

theorem get?_eq_none (h : Climb boxes others n way) (hs : s ∈ way) : boxes.get? s.id = none := by
  induction h with
  | boxed => cases hs
  | orphan hbox => exact List.mem_singleton.mp hs ▸ hbox
  | child hbox hparent hclimb ih =>
    obtain rfl | hs := List.mem_cons.mp hs
    · exact hbox
    · exact ih hs

theorem self_mem (h : Climb boxes others n way) (hbox : boxes.get? n.id = none) : n ∈ way := by
  cases h with
  | boxed hsome => rw [hbox] at hsome; cases hsome
  | orphan => exact .head _
  | child => exact .head _

variable (hnodes : (g.nodes.map (·.id)).Nodup) (hb : Boxed g done boxes)
include hnodes

include hb in
theorem brings (h : Climb boxes others n way) (hn : n ∈ g.nodes) (hothers : others ⊆ g.nodes)
    (hs : s ∈ way) : Brings g n s := by
  induction h with
  | boxed => cases hs
  | orphan hbox =>
    rw [List.mem_singleton.mp hs]
    exact brings_self (hb.loose hn hbox)
  | @child others n parent way hbox hparent hclimb ih =>
    have hloose : Loose g n := hb.loose hn hbox
    obtain rfl | hs := List.mem_cons.mp hs
    · exact brings_self hloose
    · have hmem : parent ∈ g.nodes := hothers (List.mem_of_find?_eq_some hparent)
      have hid : n.parent? = some parent.id := hloose.parent?_of_find? hparent
      refine (brings_iff_of_parent hnodes hloose hmem hid).mpr (.inr (ih hmem ?_ hs))
      exact List.Subset.trans (List.filter_subset_self _) hothers

/-- The way goes on as long as it can. -/
theorem mem_of_parent (h : Climb boxes others n way) (hn : n ∈ g.nodes) (hothers : others ⊆ g.nodes)
    (hs : s ∈ way) (hp : p ∈ n :: others) (hparent : s.parent? = some p.id)
    (hbox : boxes.get? p.id = none) : p ∈ way := by
  induction h with
  | boxed => cases hs
  | @orphan others n _ hnone =>
    obtain rfl := List.mem_singleton.mp hs
    obtain rfl | hp := List.mem_cons.mp hp
    · exact .head _
    · simpa [hparent] using List.find?_eq_none.mp hnone p hp
  | @child others n q way _ hfind hclimb ih =>
    have hq : q ∈ others := List.mem_of_find?_eq_some hfind
    obtain rfl | hp := List.mem_cons.mp hp
    · exact .head _
    refine List.mem_cons_of_mem _ ?_
    by_cases hid : p.id = q.id
    · obtain rfl := List.inj_on_of_nodup_map hnodes (hothers hp) (hothers hq) hid
      exact hclimb.self_mem hbox
    · obtain rfl | hs := List.mem_cons.mp hs
      · have hfound := List.find?_some hfind
        rw [hparent, Option.getD_some, beq_iff_eq] at hfound
        exact absurd hfound.symm hid
      · refine ih (hothers hq) (List.Subset.trans (List.filter_subset_self _) hothers) hs ?_
        exact List.mem_cons_of_mem _ (List.mem_filter.mpr ⟨hp, bne_iff_ne.mpr hid⟩)

include hb

theorem mem_iff (h : Climb boxes (without n.id g.nodes) n way) (hn : n ∈ g.nodes) :
    s ∈ way ↔ Brings g n s ∧ boxes.get? s.id = none := by
  have hothers : without n.id g.nodes ⊆ g.nodes := List.filter_subset_self _
  refine ⟨fun hs ↦ ⟨h.brings hnodes hb hn hothers hs, h.get?_eq_none hs⟩, ?_⟩
  rintro ⟨⟨-, hreach⟩, hbox⟩
  induction hreach using Relation.ReflTransGen.head_induction_on with
  | refl => exact h.self_mem hbox
  | @head p s hparent _ ih =>
    refine h.mem_of_parent hnodes hn hothers (ih (hb.get?_of_parent hparent hbox)) ?_
      hparent.2.2 hbox
    by_cases hid : p.id = n.id
    · exact List.inj_on_of_nodup_map hnodes hparent.1.1 hn hid ▸ .head _
    · exact List.mem_cons_of_mem _ (List.mem_filter.mpr ⟨hparent.1.1, bne_iff_ne.mpr hid⟩)

theorem length_eq (h : Climb boxes (without n.id g.nodes) n way)
    (hsplit : g.nodes = done ++ n :: rest) :
    way.length = (firstBrought g n).length := by
  have hn : n ∈ g.nodes := by simp [hsplit]
  have honce : (done ++ n :: rest).Nodup := hsplit ▸ hnodes.of_map
  have hturn : g.nodes.idxOf n = done.length := by
    rw [hsplit, List.idxOf_append_of_notMem, List.idxOf_cons_self]
    · rfl
    · exact fun hmem ↦ (List.nodup_append'.mp honce).2.2 hmem (.head _)
  refine List.Perm.length_eq ((List.perm_ext_iff_of_nodup ?_ ?_).mpr fun s ↦ ?_)
  · exact h.nodup (by simp [without])
  · exact hnodes.of_map.filter _
  rw [h.mem_iff hnodes hb hn, mem_firstBrought]
  refine and_congr_right fun hbrings ↦ ?_
  rw [hb.get?_eq_none_iff hbrings.1, hturn]
  refine forall_congr' fun d ↦ ?_
  rw [← not_lt, idxOf_lt_length_iff hsplit]
  exact imp_not_comm

end Climb

variable [Scalar α] {m : Metrics α} {f : Filling α} {c : Canvas α}

namespace Climb

theorem isSome_get?_iff (h : Climb f.boxes others n way) {id : String} :
    ((placeRemaining m others n f).2.boxes.get? id).isSome ↔
      (f.boxes.get? id).isSome ∨ id ∈ way.map (·.id) := by
  induction h with
  | boxed hbox => simp [placeRemaining_eq, hbox]
  | orphan hbox hparent =>
    rw [placeRemaining_eq]
    simp only [hbox, hparent, takeSlot, Table.get?_insert]
    split <;> simp_all
  | @child others n parent way hbox hparent hclimb ih =>
    rw [placeRemaining_eq]
    simp only [hbox, hparent, takeSlot, Table.get?_insert]
    split <;> simp_all

theorem within (h : Climb f.boxes others n way) (hroom : way.length ≤ room) :
    placeRemainingWithin m room others n f = .ok (placeRemaining m others n f) := by
  induction h generalizing room with
  | boxed hbox => cases room <;> simp only [placeRemainingWithin, placeRemaining_eq, hbox]
  | orphan hbox hparent =>
    obtain ⟨room, rfl⟩ := Nat.exists_eq_add_one.mpr hroom
    simp only [placeRemainingWithin, placeRemaining_eq, hbox, hparent]
  | @child others n parent way hbox hparent hclimb ih =>
    obtain ⟨room, rfl⟩ := Nat.exists_eq_add_one.mpr (Nat.zero_lt_of_lt hroom)
    have hparents := ih (Nat.le_of_succ_le_succ hroom)
    rw [placeRemaining_eq]
    simp only [placeRemainingWithin, hbox, hparent, hparents]
    rfl

theorem beyond (h : Climb f.boxes others n way) (hroom : room < way.length) :
    placeRemainingWithin m room others n f = .error .tooDeep := by
  induction h generalizing room with
  | boxed hbox => exact absurd hroom (Nat.not_lt_zero _)
  | orphan hbox hparent =>
    obtain rfl : room = 0 := Nat.lt_one_iff.mp hroom
    simp only [placeRemainingWithin, hbox]
  | child hbox hparent hclimb ih =>
    cases room with
    | zero => simp only [placeRemainingWithin, hbox]
    | succ room =>
      have hparents := ih (Nat.lt_of_succ_lt_succ hroom)
      simp only [placeRemainingWithin, hbox, hparent, hparents]
      rfl

end Climb

/-- The filling after the turns of the nodes of `done`. -/
def turns (m : Metrics α) (g : Graph) (done : List Node) : Filling α :=
  done.foldl (fun f n ↦ (placeRemaining m (without n.id g.nodes) n f).2)
    ⟨placeByRules m g .empty, .empty⟩

theorem turns_concat (m : Metrics α) (g : Graph) (done : List Node) (n : Node) :
    turns m g (done ++ [n]) =
      (placeRemaining m (without n.id g.nodes) n (turns m g done)).2 := by
  rw [turns, List.foldl_append]
  rfl

section Turns

variable (hnodes : (g.nodes.map (·.id)).Nodup)
include hnodes

theorem Boxed.turn (hb : Boxed g done f.boxes) (hn : n ∈ g.nodes) :
    Boxed g (done ++ [n]) (placeRemaining m (without n.id g.nodes) n f).2.boxes := by
  intro s hs
  obtain ⟨way, hclimb⟩ := exists_climb f.boxes (without n.id g.nodes) n
  have hway : s.id ∈ way.map (·.id) ↔ s ∈ way := by
    refine ⟨fun hid ↦ ?_, List.mem_map_of_mem⟩
    obtain ⟨s', hs', hid⟩ := List.mem_map.mp hid
    have hs'' : s' ∈ g.nodes := ((hclimb.mem_iff hnodes hb hn).mp hs').1.1.1
    rwa [← List.inj_on_of_nodup_map hnodes hs'' hs hid]
  rw [hclimb.isSome_get?_iff, hway, hclimb.mem_iff hnodes hb hn, hb s hs]
  simp only [List.mem_append, List.mem_singleton, or_and_right, exists_or, exists_eq_left]
  rw [or_assoc]
  refine or_congr_right ⟨Or.imp_right And.left, ?_⟩
  rintro (hd | hbrings)
  · exact .inl hd
  · by_cases hd : ∃ d ∈ done, Brings g d s
    · exact .inl hd
    · refine .inr ⟨hbrings, (hb.get?_eq_none_iff hbrings.1).mpr fun d hmem hbrings' ↦ ?_⟩
      exact hd ⟨d, hmem, hbrings'⟩

theorem boxed_turns (m : Metrics α) (hdone : done ⊆ g.nodes) :
    Boxed g done (turns m g done).boxes := by
  induction done using List.reverseRecOn with
  | nil =>
    intro n hn
    have hboxed := (arrived_rules (m := m) hnodes).isSome_get?_iff hnodes hn
    simpa [turns] using hboxed
  | append_singleton done n ih =>
    obtain ⟨hdone, hn⟩ := List.append_subset.mp hdone
    rw [turns_concat]
    exact (ih hdone).turn hnodes (hn (.head _))

theorem exists_climb_of_turn (m : Metrics α) (hsplit : g.nodes = done ++ n :: rest) :
    ∃ way, Climb (turns m g done).boxes (without n.id g.nodes) n way ∧
      way.length = (firstBrought g n).length := by
  obtain ⟨way, hclimb⟩ := exists_climb (turns m g done).boxes (without n.id g.nodes) n
  have hdone : done ⊆ g.nodes := hsplit ▸ List.subset_append_left _ _
  exact ⟨way, hclimb, hclimb.length_eq hnodes (boxed_turns hnodes m hdone) hsplit⟩

end Turns

/-- The steps of a fold pass as long as `P` holds; the first that does not ends it. -/
theorem foldlM_turns {β σ ε : Type} {xs : List β} {step : σ → β → Except ε σ}
    {e : ε} (Inv : List β → σ → Prop) (P : β → Prop)
    (hok : ∀ done x rest s, xs = done ++ x :: rest → Inv done s → P x →
      ∃ s', step s x = .ok s' ∧ Inv (done ++ [x]) s')
    (hfail : ∀ done x rest s, xs = done ++ x :: rest → Inv done s → ¬ P x → step s x = .error e)
    {s : σ} (hstart : Inv [] s) :
    ((∀ x ∈ xs, P x) → ∃ s', xs.foldlM step s = .ok s' ∧ Inv xs s') ∧
      (¬ (∀ x ∈ xs, P x) → xs.foldlM step s = .error e) := by
  have hrun (done rest : List β) (s : σ) (hsplit : xs = done ++ rest) (hs : Inv done s) :
      ((∀ x ∈ rest, P x) → ∃ s', rest.foldlM step s = .ok s' ∧ Inv xs s') ∧
        (¬ (∀ x ∈ rest, P x) → rest.foldlM step s = .error e) := by
    induction rest generalizing done s with
    | nil =>
      rw [List.append_nil] at hsplit
      exact ⟨fun _ ↦ ⟨s, rfl, hsplit ▸ hs⟩, fun h ↦ absurd nofun h⟩
    | cons x rest ih =>
      rw [List.forall_mem_cons, List.foldlM_cons]
      by_cases hx : P x
      · obtain ⟨s', hstep, hs'⟩ := hok done x rest s hsplit hs hx
        rw [hstep, and_iff_right hx]
        exact ih (done ++ [x]) s' (by rw [hsplit, List.append_assoc]; rfl) hs'
      · rw [hfail done x rest s hsplit hs hx]
        exact ⟨fun h ↦ absurd h.1 hx, fun _ ↦ rfl⟩
  exact hrun [] xs s rfl hstart

section Drawn

variable (hnodes : (g.nodes.map (·.id)).Nodup)
include hnodes

/-- The ways up decide whether there is room. -/
theorem placeWithin_run (m : Metrics α) (room : Nat) :
    (Shallow room g → placeWithin m g room = .ok (place m g)) ∧
      (¬ Shallow room g → placeWithin m g room = .error .tooDeep) := by
  let step (f : Filling α) (n : Node) : Except DrawingFault (Filling α) :=
    (placeRemainingWithin m room (without n.id g.nodes) n f).map Prod.snd
  let start : Filling α := ⟨placeByRules m g .empty, .empty⟩
  have hturns :
      (Shallow room g → ∃ f, g.nodes.foldlM step start = .ok f ∧ f = turns m g g.nodes) ∧
        (¬ Shallow room g → g.nodes.foldlM step start = .error .tooDeep) := by
    refine foldlM_turns (fun done f ↦ f = turns m g done) (fun n ↦ (firstBrought g n).length ≤ room)
      (fun done n rest f hsplit hf hroom ↦ ?_) (fun done n rest f hsplit hf hroom ↦ ?_) rfl
    · obtain ⟨way, hclimb, hlength⟩ := exists_climb_of_turn hnodes m hsplit
      subst hf
      refine ⟨_, ?_, rfl⟩
      simp only [step]
      rw [hclimb.within (hlength ▸ hroom), turns_concat]
      rfl
    · obtain ⟨way, hclimb, hlength⟩ := exists_climb_of_turn hnodes m hsplit
      subst hf
      simp only [step]
      rw [hclimb.beyond (hlength ▸ not_le.mp hroom)]
      rfl
  refine ⟨fun h ↦ ?_, fun h ↦ ?_⟩
  · obtain ⟨f, hrun, rfl⟩ := hturns.1 h
    exact congrArg (Except.map Filling.boxes) hrun
  · exact congrArg (Except.map Filling.boxes) (hturns.2 h)

/-- Between the turns, the nodes that have had theirs are in the journal. -/
structure Turned (m : Metrics α) (g : Graph) (done : List Node) (c : Canvas α) : Prop where
  orderly : Orderly g c
  filling : c.filling = turns m g done
  placed : ∀ n ∈ done, n.id ∈ ids c.journal

theorem Turned.exists_climb (h : Turned m g done c) (hsplit : g.nodes = done ++ n :: rest) :
    ∃ way, Climb c.boxes (without n.id g.nodes) n way ∧
      way.length = (firstBrought g n).length := by
  have hclimb := exists_climb_of_turn hnodes m hsplit
  rwa [← h.filling] at hclimb

theorem Turned.turn (hcolumns : 0 < m.fallbackColumns) (h : Turned m g done c)
    (hsplit : g.nodes = done ++ n :: rest) (hroom : (firstBrought g n).length ≤ room) :
    ∃ c', (Checked.placeRemaining m room (without n.id g.nodes) n c).map Prod.snd = .ok c' ∧
      Turned m g (done ++ [n]) c' := by
  obtain ⟨way, hclimb, hlength⟩ := h.exists_climb hnodes hsplit
  have hn : n ∈ g.nodes := by simp [hsplit]
  have hothers : ∀ o ∈ without n.id g.nodes, o ∈ g.nodes ∧ o.id ≠ n.id := fun o ho ↦
    ⟨List.mem_of_mem_filter ho, by simpa using List.of_mem_filter ho⟩
  obtain ⟨box, c', hchecked, hunchecked, hgrows⟩ :=
    placeRemaining_run hcolumns hclimb hn hothers h.orderly (hlength ▸ hroom)
  refine ⟨c', by rw [hchecked]; rfl, hgrows.orderly, ?_, ?_⟩
  · rw [turns_concat, ← h.filling, hunchecked]
  · rw [List.forall_mem_append, List.forall_mem_singleton]
    exact ⟨fun n' hn' ↦ hgrows.kept (h.placed n' hn'), hgrows.placed⟩

theorem fill_run (hcolumns : 0 < m.fallbackColumns) (room : Nat) (hc : Orderly g c)
    (hrules : c.filling = ⟨placeByRules m g .empty, .empty⟩) :
    (Shallow room g → ∃ c', Checked.fill m g room c = .ok c' ∧ Turned m g g.nodes c') ∧
      (¬ Shallow room g → Checked.fill m g room c = .error .tooDeep) := by
  refine foldlM_turns (Turned m g) (fun n ↦ (firstBrought g n).length ≤ room)
    (fun done n rest c hsplit hc hroom ↦ hc.turn hnodes hcolumns hsplit hroom)
    (fun done n rest c hsplit hc hroom ↦ ?_) ⟨hc, hrules, nofun⟩
  obtain ⟨way, hclimb, hlength⟩ := hc.exists_climb hnodes hsplit
  rw [hclimb.tooDeep (hlength ▸ not_le.mp hroom)]
  rfl

/-- With room enough no check fails, each node has its place by one rule, and nodes and edges come
in the order of the graph. -/
theorem draw_run (hcolumns : 0 < m.fallbackColumns) (room : Nat) :
    (Shallow room g → ∃ journal, Checked.draw m g room = .ok (draw m g, journal) ∧
        (journal.map Prod.fst).Perm g.nodes ∧
        ∀ parent, slotsIn parent journal = List.range (slotsIn parent journal).length) ∧
      (¬ Shallow room g → Checked.draw m g room = .error .tooDeep) := by
  obtain ⟨c, hrules, hfilling, hc⟩ := orderly_rules (m := m) hnodes
  obtain ⟨hrun, hfail⟩ := fill_run hnodes hcolumns room hc hfilling
  simp only [Checked.draw, hrules, Checked.orUndefined]
  refine ⟨fun hroom ↦ ?_, fun hroom ↦ ?_⟩
  · obtain ⟨c', hfill, h⟩ := hrun hroom
    have hboxes : c'.boxes = place m g := congrArg Filling.boxes h.filling
    have hdrawn : Checked.drawBoxes m g c'.boxes = some (draw m g) := by
      rw [hboxes]
      exact drawBoxes_run fun n hn ↦ isSome_get?_fill hn
    refine ⟨c'.journal, ?_, h.orderly.perm h.placed hnodes, fun parent ↦ ?_⟩
    · simp only [bind, Except.bind, hfill, hdrawn]
      rfl
    · rw [h.orderly.counted, List.length_range]
  · simp only [bind, Except.bind, hfail hroom]

end Drawn

theorem drawWithin_run (hnodes : (g.nodes.map (·.id)).Nodup) (m : Metrics α) (room : Nat) :
    (Shallow room g → drawWithin room m g = .ok (draw m g)) ∧
      (¬ Shallow room g → drawWithin room m g = .error .tooDeep) := by
  obtain ⟨hrun, hfail⟩ := placeWithin_run hnodes m room
  exact ⟨fun h ↦ by rw [drawWithin, hrun h]; rfl, fun h ↦ by rw [drawWithin, hfail h]; rfl⟩

section Shallow

omit [Scalar α]

theorem shallow_of_length_le (h : g.nodes.length ≤ room) : Shallow room g :=
  fun _ _ ↦ (List.length_filter_le _ _).trans h

theorem mem_ruledNodes_of_owner {owner : Node} (howner : owner ∈ g.nodes) (hp : p ∈ g.nodes)
    (hparent : owner.parent? = some p.id) (hkind : owner.kind = .digitalTwin ∨ owner.kind = .part)
    (hsystem : p.kind = .system) (hn : n ∈ withPorts g owner) : n ∈ ruledNodes g := by
  refine List.mem_append_right _ (List.mem_append_left _ (List.mem_flatMap.mpr ⟨p, ?_, ?_⟩))
  · exact mem_nodesOfKind.mpr ⟨hp, hsystem⟩
  · exact mem_family.mpr (.inr ⟨owner, mem_owners.mpr ⟨howner, hparent, hkind⟩, hn⟩)

/-- In the graph of a model there is a rule for every node. -/
theorem not_loose_of_wellFormed (h : g.WellFormed) : ¬ Loose g n := by
  rintro ⟨hn, hrule⟩
  apply hrule
  have hparent {n : Node} (hn : n ∈ g.nodes) (hkind : n.kind ≠ .root) :
      ∃ p ∈ g.nodes, n.parent? = some p.id ∧ Graph.Within n.kind p.kind := by
    obtain ⟨before, behind, hsplit⟩ := List.append_of_mem hn
    obtain ⟨p, hp, hparent⟩ := h.parents before n behind hsplit hkind
    exact ⟨p, by simp [hsplit, hp], hparent⟩
  cases hkind : n.kind with
  | root =>
    exact List.mem_append_right _ (List.mem_append_right _ (mem_nodesOfKind.mpr ⟨hn, hkind⟩))
  | goal => exact List.mem_append_left _ (mem_nodesOfKind.mpr ⟨hn, hkind⟩)
  | system =>
    have hsystem := mem_nodesOfKind.mpr ⟨hn, hkind⟩
    refine List.mem_append_right _ (List.mem_append_left _ ?_)
    exact List.mem_flatMap.mpr ⟨n, hsystem, mem_family.mpr (.inl rfl)⟩
  | digitalTwin =>
    obtain ⟨p, hp, hid, hwithin⟩ := hparent hn (by simp [hkind])
    rw [hkind] at hwithin
    exact mem_ruledNodes_of_owner hn hp hid (.inl hkind) hwithin (mem_withPorts.mpr (.inl rfl))
  | part =>
    obtain ⟨p, hp, hid, hwithin⟩ := hparent hn (by simp [hkind])
    rw [hkind] at hwithin
    exact mem_ruledNodes_of_owner hn hp hid (.inr hkind) hwithin (mem_withPorts.mpr (.inl rfl))
  | port =>
    obtain ⟨o, ho, hid, hwithin⟩ := hparent hn (by simp [hkind])
    rw [hkind] at hwithin
    have hport : n ∈ withPorts g o := mem_withPorts.mpr (.inr ⟨hn, hid, hkind⟩)
    obtain ⟨p, hp, hid', hwithin'⟩ := hparent ho (by rcases hwithin with h | h <;> simp [h])
    have hsystem : p.kind = .system := by
      rcases hwithin with h | h <;> rw [h] at hwithin' <;> exact hwithin'
    exact mem_ruledNodes_of_owner ho hp hid' hwithin hsystem hport

theorem shallow_of_wellFormed (h : g.WellFormed) (room : Nat) : Shallow room g := by
  intro n _
  have hnone : firstBrought g n = [] := List.eq_nil_iff_forall_not_mem.mpr fun s hs ↦
    not_loose_of_wellFormed h (mem_firstBrought.mp hs).1.1
  rw [hnone]
  exact Nat.zero_le _

end Shallow

theorem drawWithin_of_wellFormed (h : g.WellFormed) (m : Metrics α) (room : Nat) :
    drawWithin room m g = .ok (draw m g) :=
  (drawWithin_run h.nodeIds m room).1 (shallow_of_wellFormed h room)

section Chain

def link (i : Nat) : Node := ⟨i.repr, i.repr, .port (i + 1).repr⟩

def chain (length : Nat) : Graph := ⟨(List.range length).map link, []⟩

theorem repr_injective : Function.Injective Nat.repr := by
  intro i j h
  have hdigits : Nat.toDigits 10 i = Nat.toDigits 10 j := by
    rw [Nat.repr_eq_ofList_toDigits, Nat.repr_eq_ofList_toDigits] at h
    exact String.ofList_injective h
  rw [← Nat.ofDigitChars_toDigits (show 1 < 10 by decide) (Nat.le_refl 10) (n := i), hdigits,
    Nat.ofDigitChars_toDigits (by decide) (Nat.le_refl 10)]

variable {length i : Nat}

theorem nodup_ids_chain : ((chain length).nodes.map (·.id)).Nodup := by
  rw [chain, List.map_map]
  exact List.nodup_range.map repr_injective

theorem loose_link (hi : i < length) : Loose (chain length) (link i) := by
  refine ⟨List.mem_map_of_mem (List.mem_range.mpr hi), ?_⟩
  have hports (k : NodeKind) (hk : k ≠ .port) : (chain length).nodesOfKind k = [] := by
    refine List.filter_eq_nil_iff.mpr fun n hn ↦ ?_
    obtain ⟨j, -, rfl⟩ := List.mem_map.mp hn
    rw [beq_iff_eq]
    exact hk.symm
  simp [ruledNodes, hports]

theorem brings_link (hi : i < length) : Brings (chain length) (link 0) (link i) := by
  refine ⟨loose_link hi, ?_⟩
  induction i with
  | zero => exact .refl
  | succ i ih =>
    have hi' : i < length := Nat.lt_of_succ_lt hi
    exact .head ⟨loose_link hi, loose_link hi', rfl⟩ (ih hi')

/-- The first node of a chain brings all of it. -/
theorem not_shallow_chain (hroom : room < length) : ¬ Shallow room (chain length) := by
  intro h
  have hfirst : (chain length).nodes.idxOf (link 0) = 0 := by
    obtain ⟨length, rfl⟩ := Nat.exists_eq_add_one.mpr (Nat.zero_lt_of_lt hroom)
    rw [chain, List.range_succ_eq_map, List.map_cons, List.idxOf_cons_self]
  have hall : (chain length).nodes ⊆ firstBrought (chain length) (link 0) := by
    intro n hn
    obtain ⟨i, hi, rfl⟩ := List.mem_map.mp hn
    refine mem_firstBrought.mpr ⟨brings_link (List.mem_range.mp hi), fun _ _ ↦ ?_⟩
    rw [hfirst]
    exact Nat.zero_le _
  have hle := (List.subperm_of_subset nodup_ids_chain.of_map hall).length_le
  have hlength := hle.trans (h (link 0) (loose_link (Nat.zero_lt_of_lt hroom)).1)
  rw [chain, List.length_map, List.length_range] at hlength
  exact absurd hroom (Nat.not_lt.mpr hlength)

end Chain

/-- Whether a graph is drawn, under a configuration that is accepted, is a matter of how far up its
nodes have to be placed, parents missing, late or in a circle included. If it is, no check fails:
each node gets its box once, by one rule, and the places on the grid inside a parent are given away
from zero on without gaps. -/
theorem every_node_placed_once_or_too_deep {config : Config} {m : Metrics Float}
    (hm : Metrics.ofConfig config = .ok m) {g : Graph} (hnodes : (g.nodes.map (·.id)).Nodup)
    (room : Nat) :
    (Shallow room g →
      drawWithin room m g = .ok (draw m g) ∧
      (draw m g).nodes.map (·.node) = g.nodes ∧
      (draw m g).edges = g.edges.map (fun e ↦ ⟨e, styleOf e⟩) ∧
      ∃ journal, Checked.draw m g room = .ok (draw m g, journal) ∧
        (journal.map Prod.fst).Perm g.nodes ∧
        ∀ parent, slotsIn parent journal = List.range (slotsIn parent journal).length) ∧
    (¬ Shallow room g →
      drawWithin room m g = .error .tooDeep ∧ Checked.draw m g room = .error .tooDeep) := by
  obtain ⟨hrun, hfail⟩ := drawWithin_run hnodes m room
  obtain ⟨hchecked, hchecked'⟩ := draw_run hnodes (columns_pos_of_ofConfig hm) room
  exact ⟨fun h ↦ ⟨hrun h, map_node_draw, rfl, hchecked h⟩, fun h ↦ ⟨hfail h, hchecked' h⟩⟩

theorem every_node_placed_once_or_too_deep_of_circle :
    let m : Metrics Float :=
      { Metrics.standard with actuatorOrder := defaultActuatorOrder.map PortRole.key }
    let g : Graph := ⟨[⟨"port", "sensor_in", .port "left"⟩, ⟨"left", "L", .part "right"⟩,
      ⟨"right", "R", .part "left"⟩, ⟨"self", "S", .digitalTwin "self"⟩,
      ⟨"lost", "T", .goal "nowhere" none⟩], [⟨"e", .connection, "port", "left", none⟩]⟩
    Metrics.ofConfig .standard = .ok m ∧ (g.nodes.map (·.id)).Nodup ∧ Shallow maxRoom g ∧
      (drawWithin maxRoom m g = .ok (draw m g) ∧
      (draw m g).nodes.map (·.node) = g.nodes ∧
      (draw m g).edges = g.edges.map (fun e ↦ ⟨e, styleOf e⟩) ∧
      ∃ journal, Checked.draw m g maxRoom = .ok (draw m g, journal) ∧
        (journal.map Prod.fst).Perm g.nodes ∧
        ∀ parent, slotsIn parent journal = List.range (slotsIn parent journal).length) ∧
    ((chain 1100).nodes.map (·.id)).Nodup ∧ ¬ Shallow maxRoom (chain 1100) ∧
      drawWithin maxRoom m (chain 1100) = .error .tooDeep ∧
      Checked.draw m (chain 1100) maxRoom = .error .tooDeep := by
  intro m g
  have hm : Metrics.ofConfig .standard = .ok m := rfl
  have hshallow : Shallow maxRoom g := shallow_of_length_le (by decide)
  have hdeep : ¬ Shallow maxRoom (chain 1100) := not_shallow_chain (by decide)
  have hnodes : (g.nodes.map (·.id)).Nodup := by decide
  exact ⟨hm, hnodes, hshallow, (every_node_placed_once_or_too_deep hm hnodes maxRoom).1 hshallow,
    nodup_ids_chain, hdeep, (every_node_placed_once_or_too_deep hm nodup_ids_chain maxRoom).2 hdeep⟩

/-- A chain of 1100 ports can be loaded and not drawn. -/
theorem long_chain_not_drawn :
    (∃ source, Interchange.loadGraph source = .ok (chain 1100)) ∧
      ∀ (α : Type) [Scalar α] (m : Metrics α),
        drawWithin maxRoom m (chain 1100) = .error .tooDeep := by
  refine ⟨⟨_, Interchange.loadGraph_render nodup_ids_chain nofun none⟩, fun α _ m ↦ ?_⟩
  exact (drawWithin_run nodup_ids_chain m maxRoom).2 (not_shallow_chain (by decide))

end TwinDiagram.Layout
