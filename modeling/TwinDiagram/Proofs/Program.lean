namespace TwinDiagram.Program

variable {ε σ α β : Type}

theorem run_get (s : σ) : (get : ExceptT ε (StateM σ) σ).run.run s = (.ok s, s) := rfl

theorem run_modify (f : σ → σ) (s : σ) :
    (modify f : ExceptT ε (StateM σ) PUnit).run.run s = (.ok ⟨⟩, f s) := rfl

theorem run_modifyGet (f : σ → α × σ) (s : σ) :
    (modifyGet f : ExceptT ε (StateM σ) α).run.run s = (.ok (f s).1, (f s).2) := rfl

theorem run_bind (p : ExceptT ε (StateM σ) α) (f : α → ExceptT ε (StateM σ) β) (s : σ) :
    (p >>= f).run.run s = match p.run.run s with
      | (.ok a, t) => (f a).run.run t
      | (.error e, t) => (.error e, t) := by
  rw [ExceptT.run_bind, StateT.run_bind]
  rcases p.run.run s with ⟨_ | _, t⟩ <;> rfl

theorem run_bind_error {p : ExceptT ε (StateM σ) α} {f : α → ExceptT ε (StateM σ) β} {s : σ} {e : ε}
    (h : (p.run.run s).1 = .error e) : (p >>= f).run.run s = (.error e, (p.run.run s).2) := by
  rw [run_bind]
  rcases hp : p.run.run s with ⟨_ | _, t⟩ <;> rw [hp] at h <;> cases h
  rfl

theorem run_map (f : α → β) (p : ExceptT ε (StateM σ) α) (s : σ) :
    (f <$> p).run.run s = match p.run.run s with
      | (.ok a, t) => (.ok (f a), t)
      | (.error e, t) => (.error e, t) := by
  rw [map_eq_pure_bind, run_bind]
  rfl

theorem bind_ok {p : ExceptT ε (StateM σ) α} {f : α → ExceptT ε (StateM σ) β} {s u : σ} {b : β}
    (h : (p >>= f).run.run s = (.ok b, u)) :
    ∃ a t, p.run.run s = (.ok a, t) ∧ (f a).run.run t = (.ok b, u) := by
  rw [run_bind] at h
  rcases hp : p.run.run s with ⟨_ | a, t⟩ <;> rw [hp] at h
  · cases h
  · exact ⟨a, t, rfl, h⟩

/-- Whether it fails or not, the program leads to a related state. -/
def Keeps (R : σ → σ → Prop) (p : ExceptT ε (StateM σ) α) : Prop := ∀ s, R s (p.run.run s).2

theorem Keeps.bind {R : σ → σ → Prop} (htrans : ∀ {s t u}, R s t → R t u → R s u)
    {p : ExceptT ε (StateM σ) α} {f : α → ExceptT ε (StateM σ) β}
    (hp : Keeps R p) (hf : ∀ a, Keeps R (f a)) : Keeps R (p >>= f) := by
  intro s
  have h := hp s
  rw [run_bind]
  rcases hrun : p.run.run s with ⟨_ | a, t⟩ <;> rw [hrun] at h
  · exact h
  · exact htrans h (hf a t)

/-- From a state of `I` the program leads to one, and its results satisfy `P`. -/
def Ensures (I : σ → Prop) (p : ExceptT ε (StateM σ) α) (P : α → Prop) : Prop :=
  ∀ s, I s → I (p.run.run s).2 ∧ ∀ a, (p.run.run s).1 = .ok a → P a

theorem Ensures.pure {I : σ → Prop} {P : α → Prop} {a : α} (ha : P a) :
    Ensures I (pure a : ExceptT ε (StateM σ) α) P := by
  intro s hs
  refine ⟨hs, fun b hb ↦ ?_⟩
  cases hb
  exact ha

theorem Ensures.bind {I : σ → Prop} {P : α → Prop} {Q : β → Prop}
    {p : ExceptT ε (StateM σ) α} {f : α → ExceptT ε (StateM σ) β}
    (hp : Ensures I p P) (hf : ∀ a, P a → Ensures I (f a) Q) : Ensures I (p >>= f) Q := by
  intro s hs
  have h := hp s hs
  rw [run_bind]
  rcases hrun : p.run.run s with ⟨_ | a, t⟩ <;> rw [hrun] at h
  · exact ⟨h.1, fun b hb ↦ by cases hb⟩
  · exact hf a (h.2 a rfl) t h.1

theorem Keeps.ensures {R : σ → σ → Prop} {I : σ → Prop} {p : ExceptT ε (StateM σ) α}
    (hp : Keeps R p) (h : ∀ {s t}, R s t → I s → I t) : Ensures I p fun _ ↦ True :=
  fun s hs ↦ ⟨h (hp s) hs, fun _ _ ↦ trivial⟩

/-- From every state of `pre` the program succeeds, with `post` of its result and state. -/
def Achieves (pre : σ → Prop) (p : ExceptT ε (StateM σ) α) (post : α → σ → Prop) : Prop :=
  ∀ s, pre s → ∃ a t, p.run.run s = (.ok a, t) ∧ post a t

theorem Achieves.pure {pre : σ → Prop} {post : α → σ → Prop} {a : α}
    (h : ∀ s, pre s → post a s) : Achieves pre (pure a : ExceptT ε (StateM σ) α) post :=
  fun s hs ↦ ⟨a, s, rfl, h s hs⟩

theorem Achieves.bind {pre : σ → Prop} {mid : α → σ → Prop} {post : β → σ → Prop}
    {p : ExceptT ε (StateM σ) α} {f : α → ExceptT ε (StateM σ) β}
    (hp : Achieves pre p mid) (hf : ∀ a, Achieves (mid a) (f a) post) :
    Achieves pre (p >>= f) post := by
  intro s hs
  obtain ⟨a, t, hrun, hmid⟩ := hp s hs
  obtain ⟨b, u, hrun', hpost⟩ := hf a t hmid
  exact ⟨b, u, by rw [run_bind, hrun]; exact hrun', hpost⟩

theorem Achieves.weaken {pre pre' : σ → Prop} {post : α → σ → Prop}
    {p : ExceptT ε (StateM σ) α} (hp : Achieves pre p post)
    (h : ∀ s, pre' s → pre s) : Achieves pre' p post := fun s hs ↦ hp s (h s hs)

/-- From every state of `pre` the program ends with `post` of its result and state, or it fails in a
state of `fault`. -/
def Leads (pre : σ → Prop) (p : ExceptT ε (StateM σ) α) (post : α → σ → Prop)
    (fault : σ → Prop) : Prop :=
  ∀ s, pre s → (∀ a t, p.run.run s = (.ok a, t) → post a t) ∧
    ∀ e t, p.run.run s = (.error e, t) → fault t

theorem Leads.pure {pre fault : σ → Prop} {post : α → σ → Prop} {a : α}
    (h : ∀ s, pre s → post a s) : Leads pre (pure a : ExceptT ε (StateM σ) α) post fault := by
  refine fun s hs ↦ ⟨fun b t ht ↦ ?_, nofun⟩
  cases ht
  exact h s hs

theorem Leads.bind {pre fault : σ → Prop} {mid : α → σ → Prop} {post : β → σ → Prop}
    {p : ExceptT ε (StateM σ) α} {f : α → ExceptT ε (StateM σ) β}
    (hp : Leads pre p mid fault) (hf : ∀ a, Leads (mid a) (f a) post fault) :
    Leads pre (p >>= f) post fault := by
  intro s hs
  obtain ⟨hok, herror⟩ := hp s hs
  rw [run_bind]
  rcases hrun : p.run.run s with ⟨e | a, t⟩
  · refine ⟨nofun, fun e' u h ↦ ?_⟩
    cases h
    exact herror e t hrun
  · exact hf a t (hok a t hrun)

theorem Leads.weaken {pre pre' fault : σ → Prop} {post : α → σ → Prop}
    {p : ExceptT ε (StateM σ) α} (hp : Leads pre p post fault) (h : ∀ s, pre' s → pre s) :
    Leads pre' p post fault := fun s hs ↦ hp s (h s hs)

theorem Leads.mono {pre fault fault' : σ → Prop} {post post' : α → σ → Prop}
    {p : ExceptT ε (StateM σ) α} (hp : Leads pre p post fault)
    (hpost : ∀ a t, post a t → post' a t) (hfault : ∀ t, fault t → fault' t) :
    Leads pre p post' fault' := by
  intro s hs
  obtain ⟨hok, herror⟩ := hp s hs
  exact ⟨fun a t h ↦ hpost a t (hok a t h), fun e t h ↦ hfault t (herror e t h)⟩

/-- From a state of `I` the program leads to one. Its result is `o`, or it fails where that
is none. -/
def Yields (I : σ → Prop) (p : ExceptT ε (StateM σ) α) (o : Option α) : Prop :=
  ∀ s, I s → I (p.run.run s).2 ∧ (p.run.run s).1.toOption = o

theorem Yields.pure {I : σ → Prop} (a : α) :
    Yields I (pure a : ExceptT ε (StateM σ) α) (some a) := fun _ hs ↦ ⟨hs, rfl⟩

theorem Yields.throw {I : σ → Prop} (e : ε) :
    Yields I (throw e : ExceptT ε (StateM σ) α) none := fun _ hs ↦ ⟨hs, rfl⟩

theorem Yields.bind {I : σ → Prop} {o : Option α} {g : α → Option β} {p : ExceptT ε (StateM σ) α}
    {f : α → ExceptT ε (StateM σ) β} (hp : Yields I p o) (hf : ∀ a, Yields I (f a) (g a)) :
    Yields I (p >>= f) (o.bind g) := by
  intro s hs
  obtain ⟨hI, rfl⟩ := hp s hs
  rw [run_bind]
  rcases hrun : p.run.run s with ⟨e | a, t⟩ <;> rw [hrun] at hI
  · exact ⟨hI, rfl⟩
  · exact hf a t hI

theorem Yields.exists_run_bind {I : σ → Prop} {a : α} {p : ExceptT ε (StateM σ) α}
    (hp : Yields I p (some a)) (f : α → ExceptT ε (StateM σ) β) {s : σ} (hs : I s) :
    ∃ t, I t ∧ (p >>= f).run.run s = (f a).run.run t := by
  obtain ⟨hI, ha⟩ := hp s hs
  rw [run_bind]
  rcases hrun : p.run.run s with ⟨e | b, t⟩ <;> rw [hrun] at hI ha <;> cases ha
  exact ⟨t, hI, rfl⟩

theorem Yields.bind_some {I : σ → Prop} {a : α} {o : Option β} {p : ExceptT ε (StateM σ) α}
    {f : α → ExceptT ε (StateM σ) β} (hp : Yields I p (some a)) (hf : Yields I (f a) o) :
    Yields I (p >>= f) o := by
  intro s hs
  obtain ⟨t, ht, hrun⟩ := hp.exists_run_bind f hs
  rw [hrun]
  exact hf t ht

theorem Yields.get_bind {I : σ → Prop} {o : Option α} {f : σ → ExceptT ε (StateM σ) α}
    (hf : ∀ s, I s → Yields I (f s) o) : Yields I (get >>= f) o := by
  intro s hs
  rw [run_bind, run_get]
  exact hf s hs s hs

theorem Yields.leads {I : σ → Prop} {o : Option α} {p : ExceptT ε (StateM σ) α}
    (hp : Yields I p o) : Leads I p (fun a t ↦ o = some a ∧ I t) I := by
  intro s hs
  obtain ⟨hI, ho⟩ := hp s hs
  refine ⟨fun a t h ↦ ?_, fun e t h ↦ ?_⟩
  · rw [h] at hI ho
    exact ⟨ho.symm, hI⟩
  · rw [h] at hI
    exact hI

theorem Yields.leads_bind {I fault : σ → Prop} {o : Option α} {post : β → σ → Prop}
    {p : ExceptT ε (StateM σ) α} {f : α → ExceptT ε (StateM σ) β} (hp : Yields I p o)
    (hfault : ∀ s, I s → fault s) (hf : ∀ a, o = some a → Leads I (f a) post fault) :
    Leads I (p >>= f) post fault := by
  intro s hs
  obtain ⟨hok, herror⟩ := hp.leads s hs
  rw [run_bind]
  rcases hrun : p.run.run s with ⟨e | a, t⟩
  · refine ⟨nofun, fun e' u h ↦ ?_⟩
    cases h
    exact hfault t (herror e t hrun)
  · obtain ⟨ha, ht⟩ := hok a t hrun
    exact hf a ha t ht

theorem Yields.achieves_bind {I : σ → Prop} {a : α} {post : β → σ → Prop}
    {p : ExceptT ε (StateM σ) α} {f : α → ExceptT ε (StateM σ) β} (hp : Yields I p (some a))
    (hf : Achieves I (f a) post) : Achieves I (p >>= f) post := by
  intro s hs
  obtain ⟨t, ht, hrun⟩ := hp.exists_run_bind f hs
  rw [hrun]
  exact hf t ht

end TwinDiagram.Program
