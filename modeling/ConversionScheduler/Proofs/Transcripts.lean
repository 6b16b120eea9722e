import ConversionScheduler.Proofs.Interleaving
import Mathlib.Algebra.BigOperators.Group.List.Basic
import Mathlib.Algebra.Group.Pi.Basic
import Mathlib.Algebra.Ring.Nat
/-!
# Transcripts

Operations that share a state take turns. A transcript tells of each of them, from the first that
was started to the last, what it was started for and how far it has come: the stretches of the run
in which it was the one that acted, and the answers it was given in between. So what a counter in
the state has come to can be told apart by who did the counting.

## Main definitions

* `Errand` — an operation that was started, and what is known of it.
* `Errand.added` — what it has added to the counters of the state by itself.
* `Transcript`, `Transcript.begin`, `Transcript.answer` — the state and all errands, and what
  happens to them.
* `Transcript.Step`, `Transcript.Later` — one thing that happens, and any number of them.
* `Act.Accrues` — what an operation adds from its start to each of its pauses and to its end,
  whatever becomes of the state while it waits.
* `Operation.IsQuick` — an operation that never waits and adds nothing.
* `Transcript.IsSettled` — the counters and the errands agree.

## Main results

* `Act.Accrues.andThen`, `Operation.accrues_bind`, `Operation.accrues_attempt` — sequences.
* `Transcript.IsSettled.step` — whatever happens, they go on to agree.
* `Transcript.Later.settled` — the counters have grown by what the errands have added, and each
  errand has added what its operation adds.
-/

namespace ConversionScheduler

/-- The answers that an operation was given, and to which requests, the first one first. -/
abbrev Answers := List (Http.Request × Http.Outcome)

/-! ## Errands -/

namespace Act

variable {σ α : Type}

/-- The state in which an operation pauses or ends. -/
def reached : Act σ α → σ
  | finished _ s => s
  | waiting _ s _ => s

/-- The result of an operation, if it has one. -/
def result? : Act σ α → Option α
  | finished x _ => some x
  | waiting .. => none

end Act

/-- An operation that was started: by which demand and in which state, from where to where it went
on each time that it was its turn, what it was told in between, and how far it is. -/
structure Errand (ι σ α : Type) where
  demand : ι
  begun : σ
  spans : List (σ × σ)
  answers : Answers := []
  act : Act σ (Except Failure α)

namespace Errand

variable {ι σ α κ : Type}

/-- The errand of a demand when its operation has got as far as it can by itself. -/
def start (perform : ι → Operation σ α) (x : ι) (s : σ) : Errand ι σ α :=
  { demand := x, begun := s, spans := [(s, (perform x s).reached)], act := perform x s }

/-- The errand when its operation has been given an answer in the state `s`, and goes on with
`a`. -/
def resume (e : Errand ι σ α) (r : Http.Request) (o : Http.Outcome) (s : σ)
    (a : Act σ (Except Failure α)) : Errand ι σ α :=
  { e with spans := e.spans ++ [(s, a.reached)], answers := e.answers ++ [(r, o)], act := a }

/-- What the operation has added to the counters of the state whenever it was its turn. -/
def added (μ : σ → κ → ℕ) (e : Errand ι σ α) (k : κ) : ℕ :=
  (e.spans.map fun x => μ x.2 k - μ x.1 k).sum

end Errand

/-! ## Transcripts -/

/-- The state, and the errands so far, the first one first. -/
structure Transcript (ι σ α : Type) where
  state : σ
  errands : List (Errand ι σ α) := []

namespace Transcript

variable {ι σ α : Type}

/-- A demand comes. -/
def begin (perform : ι → Operation σ α) (x : ι) (n : Transcript ι σ α) : Transcript ι σ α :=
  ⟨(perform x n.state).reached, n.errands ++ [.start perform x n.state]⟩

/-- An answer comes for the operation with a number. If that operation waits, it goes on. -/
def answer (i : ℕ) (o : Http.Outcome) (n : Transcript ι σ α) : Transcript ι σ α :=
  match n.errands[i]? with
  | some e =>
    match e.act with
    | .waiting r _ k =>
      ⟨(k o n.state).reached, n.errands.set i (e.resume r o n.state (k o n.state))⟩
    | .finished .. => n
  | none => n

/-- What can happen, where the state may change as `idle` says while none of the operations acts. -/
inductive Step (perform : ι → Operation σ α) (idle : σ → σ → Prop) :
    Transcript ι σ α → Transcript ι σ α → Prop
  | idle {n : Transcript ι σ α} {s : σ} (h : idle n.state s) :
    Step perform idle n { n with state := s }
  | begin (n : Transcript ι σ α) (x : ι) : Step perform idle n (n.begin perform x)
  | answer (n : Transcript ι σ α) (i : ℕ) (o : Http.Outcome) : Step perform idle n (n.answer i o)

/-- What can come of a transcript. -/
def Later (perform : ι → Operation σ α) (idle : σ → σ → Prop) :
    Transcript ι σ α → Transcript ι σ α → Prop :=
  Relation.ReflTransGen (Step perform idle)

/-- An answer changes one errand, whose operation waited for it, or nothing. -/
lemma answer_eq (i : ℕ) (o : Http.Outcome) (n : Transcript ι σ α) :
    n.answer i o = n ∨ ∃ before e after r t k, n.errands = before ++ e :: after ∧
      e.act = .waiting r t k ∧ n.answer i o =
        ⟨(k o n.state).reached, before ++ e.resume r o n.state (k o n.state) :: after⟩ := by
  unfold answer
  cases hi : n.errands[i]? with
  | none => exact .inl rfl
  | some e =>
    cases hact : e.act with
    | finished r t => exact .inl (by simp [hact])
    | waiting r t k =>
      obtain ⟨hlt, rfl⟩ := List.getElem?_eq_some_iff.mp hi
      refine .inr ⟨n.errands.take i, n.errands[i], n.errands.drop (i + 1), r, t, k, ?_, hact, ?_⟩
      · rw [List.getElem_cons_drop, List.take_append_drop]
      · simp only [hact, List.set_eq_take_append_cons_drop, if_pos hlt]

end Transcript

/-! ## What an operation adds -/

namespace Act

variable {σ α β κ : Type}

/-- The operation began or went on in `s`, when it had been given the answers `l` and had added
`m`. When it pauses, `q` holds of the answers and of what it has added by then, and when it ends,
`p` does so, together with the result. -/
def Accrues (μ : σ → κ → ℕ) (q : Answers → (κ → ℕ) → Prop) (p : Answers → (κ → ℕ) → α → Prop)
    (s : σ) (l : Answers) (m : κ → ℕ) : Act σ α → Prop
  | finished x t => ∃ d, μ t = μ s + d ∧ p l (m + d) x
  | waiting r t k => ∃ d, μ t = μ s + d ∧ q l (m + d) ∧
      ∀ o u, (k o u).Accrues μ q p u (l ++ [(r, o)]) (m + d)

variable {μ : σ → κ → ℕ} {q : Answers → (κ → ℕ) → Prop} {p : Answers → (κ → ℕ) → α → Prop}
  {s t : σ} {l : Answers} {m d : κ → ℕ} {a : Act σ α}

/-- An operation that ends at once. -/
lemma accrues_finished {x : α} (ht : μ t = μ s) (h : p l m x) :
    (finished x t).Accrues μ q p s l m :=
  ⟨0, by rw [ht, add_zero], by rwa [add_zero]⟩

/-- What was added before may be counted in. -/
lemma Accrues.earlier (h : a.Accrues μ q p t l (m + d)) (ht : μ t = μ s + d) :
    a.Accrues μ q p s l m := by
  cases a with
  | finished x u =>
    obtain ⟨d', hu, hp⟩ := h
    exact ⟨d + d', by rw [hu, ht, add_assoc], by rwa [← add_assoc]⟩
  | waiting r u k =>
    obtain ⟨d', hu, hq, hk⟩ := h
    refine ⟨d + d', by rw [hu, ht, add_assoc], by rwa [← add_assoc], fun o v => ?_⟩
    rw [← add_assoc]
    exact hk o v

/-- Where nothing was added it does not matter. -/
lemma Accrues.of_eq (h : a.Accrues μ q p t l m) (ht : μ t = μ s) : a.Accrues μ q p s l m := by
  refine Accrues.earlier (d := 0) ?_ (by rw [ht, add_zero])
  rwa [add_zero]

/-- What holds where an operation pauses or ends may be weakened. -/
lemma Accrues.mono {q' : Answers → (κ → ℕ) → Prop} {p' : Answers → (κ → ℕ) → α → Prop}
    (h : a.Accrues μ q p s l m) (hq : ∀ l m, q l m → q' l m)
    (hp : ∀ l m x, p l m x → p' l m x) : a.Accrues μ q' p' s l m := by
  induction a generalizing s l m with
  | finished x t =>
    obtain ⟨d, ht, hx⟩ := h
    exact ⟨d, ht, hp _ _ _ hx⟩
  | waiting r t k ih =>
    obtain ⟨d, ht, hl, hk⟩ := h
    exact ⟨d, ht, hq _ _ hl, fun o u => ih o u (hk o u)⟩

/-- **What follows an operation adds to what the operation has added.** -/
theorem Accrues.andThen {p' : Answers → (κ → ℕ) → β → Prop} {f : α → σ → Act σ β}
    (h : a.Accrues μ q p s l m)
    (hf : ∀ l m x t, p l m x → (f x t).Accrues μ q p' t l m) :
    (a.andThen f).Accrues μ q p' s l m := by
  induction a generalizing s l m with
  | finished x t =>
    obtain ⟨d, ht, hx⟩ := h
    exact (hf _ _ x t hx).earlier ht
  | waiting r t k ih =>
    obtain ⟨d, ht, hq, hk⟩ := h
    exact ⟨d, ht, hq, fun o u => ih o u (hk o u)⟩

/-- What has been added where an operation pauses or ends. -/
lemma Accrues.reached (h : a.Accrues μ q p s l m) :
    ∃ d, μ a.reached = μ s + d ∧ a.Accrues μ q p a.reached l (m + d) := by
  cases a with
  | finished x t =>
    obtain ⟨d, ht, hx⟩ := h
    exact ⟨d, ht, accrues_finished rfl hx⟩
  | waiting r t k =>
    obtain ⟨d, ht, hq, hk⟩ := h
    exact ⟨d, ht, 0, by rw [add_zero]; rfl, by rwa [add_zero],
      fun o u => by rw [add_zero]; exact hk o u⟩

end Act

/-! ## Sequences of operations -/

namespace Operation

variable {σ α β κ : Type} {μ : σ → κ → ℕ} {q : Answers → (κ → ℕ) → Prop} {s : σ} {l : Answers}
  {m : κ → ℕ} {x : Operation σ α} {f : α → Operation σ β}

/-- The rule for sequences: what follows a result goes on from what has been added by then. -/
lemma accrues_bind {p : Answers → (κ → ℕ) → Except Failure α → Prop}
    {p' : Answers → (κ → ℕ) → Except Failure β → Prop} (hx : (x s).Accrues μ q p s l m)
    (hok : ∀ l m a t, p l m (.ok a) → (f a t).Accrues μ q p' t l m)
    (herror : ∀ l m e, p l m (.error e) → p' l m (.error e)) :
    ((x >>= f) s).Accrues μ q p' s l m := by
  refine hx.andThen fun l m r t hr => ?_
  cases r with
  | ok a => exact hok l m a t hr
  | error e => exact Act.accrues_finished rfl (herror l m e hr)

/-- A result that is only turned into another one. -/
lemma accrues_map {g : α → β} {p : Answers → (κ → ℕ) → Except Failure β → Prop}
    (hx : (x s).Accrues μ q (fun l m r => p l m (r.map g)) s l m) :
    ((x >>= fun a => pure (g a)) s).Accrues μ q p s l m :=
  accrues_bind hx (fun _ _ _ _ h => Act.accrues_finished rfl h) fun _ _ _ h => h

/-- A change of the state, and what follows. -/
lemma accrues_update_bind {g : σ → σ} {f : Unit → Operation σ β} {d : κ → ℕ}
    {p : Answers → (κ → ℕ) → Except Failure β → Prop} (hg : μ (g s) = μ s + d)
    (hf : (f () (g s)).Accrues μ q p (g s) l (m + d)) :
    ((update g >>= f) s).Accrues μ q p s l m :=
  Act.Accrues.earlier hf hg

/-- The rule for attempts: an error that is reported is a result, and adds nothing by itself. -/
lemma accrues_attempt {p : Answers → (κ → ℕ) → Except Failure α → Prop}
    {p' : Answers → (κ → ℕ) → Except Failure (Except Error α) → Prop}
    (hx : (x s).Accrues μ q p s l m)
    (hok : ∀ l m a, p l m (.ok a) → p' l m (.ok (.ok a)))
    (herror : ∀ l m e, p l m (.error (.reported e)) → p' l m (.ok (.error e)))
    (hcrash : ∀ l m, p l m (.error .crashed) → p' l m (.error .crashed)) :
    (x.attempt s).Accrues μ q p' s l m := by
  refine hx.andThen fun l m r t hr => ?_
  rcases r with (e | ⟨⟩) | a
  · exact Act.accrues_finished rfl (herror l m e hr)
  · exact Act.accrues_finished rfl (hcrash l m hr)
  · exact Act.accrues_finished rfl (hok l m a hr)

/-- Whether an operation comes to an end without waiting, and adds nothing. -/
def IsQuick (μ : σ → κ → ℕ) (x : Operation σ α) : Prop :=
  ∀ s, ∃ r t, x s = .finished r t ∧ μ t = μ s

/-- A result does not wait and adds nothing. -/
lemma isQuick_pure (a : α) : IsQuick μ (pure a : Operation σ α) := fun s => ⟨_, s, rfl, rfl⟩

/-- Neither does a failure. -/
lemma isQuick_fail (e : Error) : IsQuick μ (fail e : Operation σ α) := fun s => ⟨_, s, rfl, rfl⟩

/-- Neither does a look at the state. -/
lemma isQuick_read (g : σ → α) : IsQuick μ (read g) := fun s => ⟨_, s, rfl, rfl⟩

/-- A change that leaves the counters adds nothing. -/
lemma isQuick_update {g : σ → σ} (h : ∀ s, μ (g s) = μ s) : IsQuick μ (update g) :=
  fun s => ⟨_, g s, rfl, h s⟩

/-- Neither does a step that leaves them, whether it succeeds or fails. -/
lemma isQuick_step {g : σ → Except Failure α × σ} (h : ∀ s, μ (g s).2 = μ s) :
    IsQuick μ (step g) :=
  fun s => ⟨_, _, rfl, h s⟩

/-- Two operations that do not wait and add nothing do neither in sequence. -/
lemma IsQuick.bind (hx : IsQuick μ x) (hf : ∀ a, IsQuick μ (f a)) : IsQuick μ (x >>= f) := by
  intro s
  obtain ⟨r, t, hrun, ht⟩ := hx s
  rw [bind_apply, hrun]
  cases r with
  | error e => exact ⟨_, t, rfl, ht⟩
  | ok a =>
    obtain ⟨r', u, hrun', hu⟩ := hf a t
    exact ⟨r', u, hrun', hu.trans ht⟩

/-- An attempt does not wait and adds nothing if the operation does not. -/
lemma IsQuick.attempt (hx : IsQuick μ x) : IsQuick μ x.attempt := by
  intro s
  obtain ⟨r, t, hrun, ht⟩ := hx s
  rw [Operation.attempt, hrun]
  rcases r with (e | ⟨⟩) | a <;> exact ⟨_, t, rfl, ht⟩

/-- Where no answer is given and nothing is added, what holds before holds afterwards. -/
lemma IsQuick.accrues {p : Answers → (κ → ℕ) → Except Failure α → Prop} (hx : IsQuick μ x)
    (h : ∀ r, p l m r) : (x s).Accrues μ q p s l m := by
  obtain ⟨r, t, hrun, ht⟩ := hx s
  rw [hrun]
  exact Act.accrues_finished ht (h r)

/-- Something quick, and what follows. -/
lemma IsQuick.accrues_bind {p : Answers → (κ → ℕ) → Except Failure β → Prop} (hx : IsQuick μ x)
    (hok : ∀ a t, (f a t).Accrues μ q p t l m) (herror : ∀ e, p l m (.error e)) :
    ((x >>= f) s).Accrues μ q p s l m := by
  obtain ⟨r, t, hrun, ht⟩ := hx s
  rw [bind_apply, hrun]
  cases r with
  | error e => exact Act.accrues_finished ht (herror e)
  | ok a => exact (hok a t).of_eq ht

/-- Something quick whose errors are looked at, and what follows. -/
lemma IsQuick.accrues_attempt_bind {g : Except Error α → Operation σ β}
    {p : Answers → (κ → ℕ) → Except Failure β → Prop} (hx : IsQuick μ x)
    (hok : ∀ r t, (g r t).Accrues μ q p t l m) (hcrash : p l m (.error .crashed)) :
    ((x.attempt >>= g) s).Accrues μ q p s l m := by
  obtain ⟨r, t, hrun, ht⟩ := hx s
  rw [bind_apply, Operation.attempt, hrun]
  rcases r with (e | ⟨⟩) | a
  · exact (hok _ t).of_eq ht
  · exact Act.accrues_finished ht hcrash
  · exact (hok _ t).of_eq ht

end Operation

/-! ## Runs -/

variable {ι σ α κ : Type} {perform : ι → Operation σ α} {idle : σ → σ → Prop}
  {μ : σ → κ → ℕ} {P : ι → σ → Answers → (κ → ℕ) → Option (Except Failure α) → Prop}

namespace Errand

/-- Whether an errand has added what it should, and whatever answers are still to come, will have
done so at each of its pauses and at its end. -/
def IsSettled (μ : σ → κ → ℕ)
    (P : ι → σ → Answers → (κ → ℕ) → Option (Except Failure α) → Prop) (e : Errand ι σ α) :
    Prop :=
  e.act.Accrues μ (fun l m => P e.demand e.begun l m none)
    (fun l m r => P e.demand e.begun l m (some r)) e.act.reached e.answers (e.added μ)

/-- What is to hold of an errand holds as it stands, whether it waits or has ended. -/
lemma IsSettled.holds {e : Errand ι σ α} (h : IsSettled μ P e) :
    P e.demand e.begun e.answers (e.added μ) e.act.result? := by
  unfold IsSettled at h
  generalize e.act = a at h ⊢
  have hzero : ∀ {m d : κ → ℕ}, m = m + d → e.added μ + d = e.added μ := by
    intro m d hd
    rw [left_eq_add.mp hd, add_zero]
  cases a with
  | finished r t =>
    obtain ⟨d, ht, hp⟩ := h
    rwa [hzero ht] at hp
  | waiting r t k =>
    obtain ⟨d, ht, hq, -⟩ := h
    rwa [hzero ht] at hq

/-- An errand that goes on adds what the state gains.

**Proof sketch.** While the errand waits, all that its beginning has gained is among what it has
added. What the state gains from the answer on is what is added by it, so the accounts are the same
whether they are made before or after. -/
lemma IsSettled.resume {e : Errand ι σ α} (h : IsSettled μ P e) {r : Http.Request} {t : σ}
    {k : Http.Outcome → σ → Act σ (Except Failure α)} (hact : e.act = .waiting r t k)
    (o : Http.Outcome) (s : σ) :
    IsSettled μ P (e.resume r o s (k o s)) ∧
      ∀ i, μ (k o s).reached i + e.added μ i = μ s i + (e.resume r o s (k o s)).added μ i := by
  have hk : (k o s).Accrues μ (fun l m => P e.demand e.begun l m none)
      (fun l m r => P e.demand e.begun l m (some r)) s (e.answers ++ [(r, o)]) (e.added μ) := by
    unfold IsSettled at h
    rw [hact] at h
    obtain ⟨d, ht, -, hk⟩ := h
    have hd : d = 0 := left_eq_add.mp ht
    rw [hd, add_zero] at hk
    exact hk o s
  obtain ⟨d, hreached, hk⟩ := hk.reached
  have hadded : (e.resume r o s (k o s)).added μ = e.added μ + d := by
    funext i
    simp [added, Errand.resume, hreached]
  refine ⟨?_, fun i => ?_⟩
  · rw [← hadded] at hk
    exact hk
  · rw [hadded, hreached, Pi.add_apply, Pi.add_apply]
    omega

/-- An errand that begins does so as well. -/
lemma isSettled_start (x : ι) (s : σ)
    (h : (perform x s).Accrues μ (fun l m => P x s l m none) (fun l m r => P x s l m (some r)) s
      [] 0) :
    IsSettled μ P (start perform x s) ∧
      ∀ i, μ (perform x s).reached i = μ s i + (start perform x s).added μ i := by
  obtain ⟨d, hreached, h⟩ := h.reached
  have hadded : (start perform x s).added μ = d := by
    funext i
    simp [added, Errand.start, hreached]
  refine ⟨?_, fun i => ?_⟩
  · rw [zero_add, ← hadded] at h
    exact h
  · rw [hadded, hreached, Pi.add_apply]

end Errand

namespace Transcript

/-- Whether the counters have grown since `s` by what the errands have added, and each errand has
added what it should, and will do so. -/
structure IsSettled (μ : σ → κ → ℕ)
    (P : ι → σ → Answers → (κ → ℕ) → Option (Except Failure α) → Prop) (s : σ)
    (n : Transcript ι σ α) : Prop where
  sum : ∀ k, μ n.state k = μ s k + (n.errands.map fun e => e.added μ k).sum
  errands : ∀ e ∈ n.errands, e.IsSettled μ P

namespace IsSettled

variable {s : σ} {n n' : Transcript ι σ α}

/-- A demand that comes adds one more errand, which has added what the state has gained. -/
lemma begin {x : ι} (h : n.IsSettled μ P s)
    (hx : (perform x n.state).Accrues μ (fun l m => P x n.state l m none)
      (fun l m r => P x n.state l m (some r)) n.state [] 0) :
    (n.begin perform x).IsSettled μ P s := by
  obtain ⟨hstart, hadded⟩ := Errand.isSettled_start x n.state hx
  refine ⟨fun k => ?_, fun e he => ?_⟩
  · simp only [Transcript.begin, List.map_append, List.sum_append, List.map_cons, List.map_nil,
      List.sum_cons, List.sum_nil]
    rw [hadded k, h.sum k]
    omega
  · obtain he | he := List.mem_append.mp he
    · exact h.errands e he
    · obtain rfl := List.mem_singleton.mp he
      exact hstart

/-- Only the errand that is given the answer changes, and by as much as the state does. -/
lemma answer (h : n.IsSettled μ P s) (i : ℕ) (o : Http.Outcome) :
    (n.answer i o).IsSettled μ P s := by
  obtain hsame | ⟨before, e, after, r, t, k, herrands, hact, hanswer⟩ := answer_eq i o n
  · rw [hsame]
    exact h
  obtain ⟨hresume, hadded⟩ := (h.errands e (by simp [herrands])).resume hact o n.state
  rw [hanswer]
  refine ⟨fun k' => ?_, fun e' he' => ?_⟩
  · have hsum := h.sum k'
    have hadded' := hadded k'
    simp only [herrands, List.map_append, List.sum_append, List.map_cons, List.sum_cons]
      at hsum ⊢
    omega
  · obtain he' | he' := List.mem_append.mp he'
    · exact h.errands e' (by simp [herrands, he'])
    · obtain rfl | he' := List.mem_cons.mp he'
      · exact hresume
      · exact h.errands e' (by simp [herrands, he'])

/-- Whatever happens, it stays so. -/
lemma step (h : n.IsSettled μ P s) (hstep : Step perform idle n n')
    (hidle : ∀ t u, idle t u → μ u = μ t)
    (hperform : ∀ x t, (perform x t).Accrues μ (fun l m => P x t l m none)
      (fun l m r => P x t l m (some r)) t [] 0) : n'.IsSettled μ P s := by
  cases hstep with
  | idle hpasses => exact ⟨fun k => by rw [hidle _ _ hpasses, h.sum], h.errands⟩
  | begin x => exact h.begin (hperform x n.state)
  | answer i o => exact h.answer i o

end IsSettled

/-- **The counters have grown by what the errands have added**, and each errand has added what its
operation adds to the counters when it is run by itself from an arbitrary state on, and finds an
arbitrary state whenever it goes on.

**Proof sketch.** By induction on the run. Whoever acts adds to its own errand what the state gains,
and the other errands stay as they are. -/
theorem Later.settled {s : σ} {n : Transcript ι σ α} (h : Later perform idle ⟨s, []⟩ n)
    (hidle : ∀ t u, idle t u → μ u = μ t)
    (hperform : ∀ x t, (perform x t).Accrues μ (fun l m => P x t l m none)
      (fun l m r => P x t l m (some r)) t [] 0) :
    (∀ k, μ n.state k = μ s k + (n.errands.map fun e => e.added μ k).sum) ∧
      ∀ e ∈ n.errands, P e.demand e.begun e.answers (e.added μ) e.act.result? := by
  have hsettled : n.IsSettled μ P s := by
    induction h with
    | refl => exact ⟨fun _ => rfl, fun e he => absurd he List.not_mem_nil⟩
    | tail _ hstep ih => exact ih.step hstep hidle hperform
  exact ⟨hsettled.sum, fun e he => (hsettled.errands e he).holds⟩

end Transcript

end ConversionScheduler
