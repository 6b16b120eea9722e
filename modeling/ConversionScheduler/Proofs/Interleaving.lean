import ConversionScheduler.Operation
import Mathlib.Logic.Relation
/-!
# Interleaved operations

Operations that share a state take turns: whenever one waits for an answer, others may start, go on
or end. A *conduct* says which states may follow which, whoever acts. If every operation observes
it between its own start, its pauses and its end, on the assumption that the others do so as well,
then the whole system observes it.

## Main definitions

* `Conduct` — which states may follow which.
* `Act.Follows` — an operation that observes a conduct if the others do.
* `Act.Observes`, `Operation.Observes` — an operation that does so whatever the others do.
* `Act.Ends` — a result that an operation can come to, and the state in which it does.
* `Configuration` — the state, and the operations that wait.
* `Configuration.Step`, `Configuration.Reachable` — what can happen, and what can come of it.

## Main results

* `Act.Follows.andThen`, `Operation.follows_bind`, `Operation.follows_attempt` — sequences.
* `Operation.ends_bind`, `Operation.ends_attempt` — the results of sequences.
* `Configuration.Reachable.leads` — a system of operations that observe a conduct observes it.
-/

namespace ConversionScheduler

/-- Which states may follow which. -/
structure Conduct (σ : Type) where
  leads : σ → σ → Prop
  refl : ∀ s, leads s s
  trans : ∀ {s t u}, leads s t → leads t u → leads s u

/-- The conduct in which a view of the state changes by certain moves only. -/
def Conduct.ofMoves {σ κ : Type} (view : σ → κ) (move : κ → κ → Prop) : Conduct σ where
  leads s t := Relation.ReflTransGen move (view s) (view t)
  refl _ := .refl
  trans := .trans

/-! ## One operation -/

namespace Act

variable {σ α β γ : Type}

/-- The request for whose outcome the operation waits, if it waits. -/
def request? : Act σ α → Option Http.Request
  | finished _ _ => none
  | waiting r _ _ => some r

/-- An operation without a request has ended. -/
lemma finished_of_request?_eq_none {a : Act σ α} (h : a.request? = none) :
    ∃ x s, a = .finished x s := by
  cases a with
  | finished x s => exact ⟨x, s, rfl⟩
  | waiting r s k => exact absurd h (by simp [request?])

/-- Three operations, one after the other. -/
lemma andThen_assoc (a : Act σ α) (f : α → σ → Act σ β) (g : β → σ → Act σ γ) :
    (a.andThen f).andThen g = a.andThen fun x s => (f x s).andThen g := by
  induction a with
  | finished x s => rfl
  | waiting r s k ih =>
    show Act.waiting r s _ = Act.waiting r s _
    congr
    funext o s'
    exact ih o s'

/-- The operation began in `s`. Each state in which it pauses or ends may follow the one in which
it began or went on, if the others observe the conduct while it waits, and it ends with `post`. -/
def Follows (c : Conduct σ) (post : α → σ → Prop) (s : σ) : Act σ α → Prop
  | finished x t => c.leads s t ∧ post x t
  | waiting _ t k => c.leads s t ∧ ∀ o u, c.leads t u → (k o u).Follows c post u

variable {c : Conduct σ} {p : α → σ → Prop} {q : β → σ → Prop} {s t : σ} {a : Act σ α}

/-- An operation may begin earlier. -/
lemma Follows.earlier (h : a.Follows c p t) (hs : c.leads s t) : a.Follows c p s := by
  cases a with
  | finished x u => exact ⟨c.trans hs h.1, h.2⟩
  | waiting r u k => exact ⟨c.trans hs h.1, h.2⟩

/-- What holds at the end may be weakened. -/
lemma Follows.mono {p' : α → σ → Prop} (h : a.Follows c p s) (hp : ∀ x t, p x t → p' x t) :
    a.Follows c p' s := by
  induction a generalizing s with
  | finished x u => exact ⟨h.1, hp x u h.2⟩
  | waiting r u k ih => exact ⟨h.1, fun o v hv => ih o v (h.2 o v hv)⟩

/-- The state in which an operation ends may follow the one in which it began. -/
lemma Follows.reached (h : a.Follows c p s) (ht : c.leads t s) :
    a.Follows c (fun x u => c.leads t u ∧ p x u) s := by
  induction a generalizing s with
  | finished x u => exact ⟨h.1, c.trans ht h.1, h.2⟩
  | waiting r u k ih =>
    exact ⟨h.1, fun o v hv => ih o v (h.2 o v hv) (c.trans ht (c.trans h.1 hv))⟩

/-- What follows an operation takes up where it ended. -/
theorem Follows.andThen {f : α → σ → Act σ β} (h : a.Follows c p s)
    (hf : ∀ x t, c.leads s t → p x t → (f x t).Follows c q t) :
    (a.andThen f).Follows c q s := by
  suffices ∀ (a : Act σ α) s, a.Follows c (fun x u => (f x u).Follows c q u) s →
      (a.andThen f).Follows c q s from
    this a s ((h.reached (c.refl s)).mono fun x t hx => hf x t hx.1 hx.2)
  intro a s h
  induction a generalizing s with
  | finished x t => exact h.2.earlier h.1
  | waiting r t k ih => exact ⟨h.1, fun o u hu => ih o u u (h.2 o u hu)⟩

/-- Whatever the others do, each state in which the operation pauses or ends may follow the one in
which it began or went on. It began in `s`. -/
def Observes (c : Conduct σ) (s : σ) : Act σ α → Prop
  | finished _ t => c.leads s t
  | waiting _ t k => c.leads s t ∧ ∀ o u, (k o u).Observes c u

/-- An operation that observes a conduct may begin earlier. -/
lemma Observes.earlier (h : a.Observes c t) (hs : c.leads s t) : a.Observes c s := by
  cases a with
  | finished x u => exact c.trans hs h
  | waiting r u k => exact ⟨c.trans hs h.1, h.2⟩

/-- Two operations that observe a conduct observe it one after the other. -/
lemma Observes.andThen {f : α → σ → Act σ β} (h : a.Observes c s)
    (hf : ∀ x t, (f x t).Observes c t) : (a.andThen f).Observes c s := by
  induction a generalizing s with
  | finished x t => exact (hf x t).earlier h
  | waiting r t k ih => exact ⟨h.1, fun o u => ih o u (h.2 o u)⟩

/-- The operation can come to the result `x` in the state `t`, if the others leave the state
`within` some bounds whenever they let it go on. -/
inductive Ends (within : σ → Prop) : Act σ α → α → σ → Prop
  | finished (x : α) (t : σ) : Ends within (.finished x t) x t
  | waiting {r : Http.Request} {s u t : σ} {k : Http.Outcome → σ → Act σ α} {o : Http.Outcome}
      {x : α} : within u → Ends within (k o u) x t → Ends within (.waiting r s k) x t

variable {within : σ → Prop}

/-- An operation that has ended has one result. -/
lemma ends_finished {x y : α} (h : (finished x s).Ends within y t) : y = x ∧ t = s := by
  cases h
  exact ⟨rfl, rfl⟩

/-- Two operations in sequence end where the second one does, which began where the first had
ended. -/
lemma ends_andThen {f : α → σ → Act σ β} {y : β} (h : (a.andThen f).Ends within y t) :
    ∃ x u, a.Ends within x u ∧ (f x u).Ends within y t := by
  induction a with
  | finished x u => exact ⟨x, u, .finished x u, h⟩
  | waiting r u k ih =>
    cases h with
    | waiting hwithin hend =>
      obtain ⟨x, v, hx, hf⟩ := ih _ _ hend
      exact ⟨x, v, .waiting hwithin hx, hf⟩

/-- An operation ends as it does with nobody else in between. -/
lemma ends_run (hwithin : ∀ u, within u) (respond : Http.Request → Http.Outcome) (a : Act σ α) :
    a.Ends within (a.run respond).1 (a.run respond).2 := by
  induction a with
  | finished x u => exact .finished x u
  | waiting r u k ih => exact .waiting (hwithin u) (ih (respond r) u)

end Act

/-! ## Sequences of operations -/

namespace Operation

variable {σ α β : Type} {c : Conduct σ} {s t : σ} {x : Operation σ α}
  {p : Except Failure α → σ → Prop}

/-- The second operation follows only if the first one succeeds; an error or a crash is the end. -/
lemma bind_apply (x : Operation σ α) (f : α → Operation σ β) (s : σ) :
    (x >>= f) s = (x s).andThen fun r t =>
      match r with
      | .ok a => f a t
      | .error e => .finished (.error e) t := rfl

/-- An operation, without what it brings. -/
lemma discard_apply (x : Operation σ α) (s : σ) :
    (x >>= fun _ => pure ()) s = (x s).andThen fun r t => .finished (r.map fun _ => ()) t := by
  rw [bind_apply]
  congr
  funext r t
  cases r <;> rfl

/-- The rule for sequences: what holds after the first operation is what the second may rely on. -/
lemma follows_bind {f : α → Operation σ β} {q : Except Failure β → σ → Prop}
    (hx : (x s).Follows c p s)
    (hf : ∀ a t, c.leads s t → p (.ok a) t → (f a t).Follows c q t)
    (he : ∀ e t, p (.error e) t → q (.error e) t) : ((x >>= f) s).Follows c q s := by
  refine hx.andThen fun r t ht hr => ?_
  cases r with
  | ok a => exact hf a t ht hr
  | error e => exact ⟨c.refl t, he e t hr⟩

/-- An operation makes the same moves if what it brings is not used. -/
lemma follows_discard (h : (x s).Follows c (fun _ _ => True) s) :
    ((x >>= fun _ => pure ()) s).Follows c (fun _ _ => True) s :=
  follows_bind h (fun _ t _ _ => ⟨c.refl t, trivial⟩) fun _ _ _ => trivial

/-- The rule for attempts: an error that is reported becomes a result, and a crash remains one. -/
lemma follows_attempt {q : Except Failure (Except Error α) → σ → Prop} (hx : (x s).Follows c p s)
    (hok : ∀ a t, p (.ok a) t → q (.ok (.ok a)) t)
    (herror : ∀ e t, p (.error (.reported e)) t → q (.ok (.error e)) t)
    (hcrash : ∀ t, p (.error .crashed) t → q (.error .crashed) t) :
    (x.attempt s).Follows c q s := by
  refine hx.andThen fun r t _ hr => ?_
  cases r with
  | ok a => exact ⟨c.refl t, hok a t hr⟩
  | error e =>
    cases e with
    | reported e => exact ⟨c.refl t, herror e t hr⟩
    | crashed => exact ⟨c.refl t, hcrash t hr⟩

variable {within : σ → Prop}

/-- A sequence that has a result has one of each part. -/
lemma ends_bind {f : α → Operation σ β} {b : β} (h : ((x >>= f) s).Ends within (.ok b) t) :
    ∃ a u, (x s).Ends within (.ok a) u ∧ (f a u).Ends within (.ok b) t := by
  obtain ⟨r, u, hx, hf⟩ := Act.ends_andThen h
  cases r with
  | ok a => exact ⟨a, u, hx, hf⟩
  | error e => exact absurd (Act.ends_finished hf).1 (by simp)

/-- An attempt that has a result ends as the operation does. -/
lemma ends_attempt {a : α} (h : (x.attempt s).Ends within (.ok (.ok a)) t) :
    (x s).Ends within (.ok a) t := by
  obtain ⟨r, u, hx, hf⟩ := Act.ends_andThen h
  rcases r with (e | ⟨⟩) | b
  · exact absurd (Act.ends_finished hf).1 (by simp)
  · exact absurd (Act.ends_finished hf).1 (by simp)
  · obtain ⟨hb, rfl⟩ := Act.ends_finished hf
    obtain rfl := Except.ok.inj (Except.ok.inj hb)
    exact hx

/-- Whether an operation observes a conduct of its own accord, whatever the others do. -/
def Observes (c : Conduct σ) (x : Operation σ α) : Prop := ∀ s, (x s).Observes c s

section Observes

variable {x : Operation σ α} {f : α → Operation σ β}

/-- A result leads nowhere. -/
lemma observes_pure (a : α) : Observes c (pure a : Operation σ α) := c.refl

/-- Neither does a failure. -/
lemma observes_fail (e : Error) : Observes c (fail e : Operation σ α) := c.refl

/-- To look at the state does not change it. -/
lemma observes_read (f : σ → α) : Observes c (read f) := c.refl

/-- A change of the state observes a conduct that allows it. -/
lemma observes_update {f : σ → σ} (h : ∀ s, c.leads s (f s)) : Observes c (update f) := h

/-- So does a step, whether it succeeds or fails. -/
lemma observes_step {f : σ → Except Failure α × σ} (h : ∀ s, c.leads s (f s).2) :
    Observes c (step f) := h

/-- Sending a request changes nothing before the outcome comes in. -/
lemma observes_send (r : Http.Request) : Observes c (send r) := fun s => ⟨c.refl s, fun _ => c.refl⟩

/-- Two operations that observe a conduct observe it in sequence. -/
lemma Observes.bind (hx : Observes c x) (hf : ∀ a, Observes c (f a)) : Observes c (x >>= f) := by
  refine fun s => (hx s).andThen fun r t => ?_
  cases r with
  | ok a => exact hf a t
  | error e => exact c.refl t

/-- An attempt observes what the operation observes. -/
lemma Observes.attempt (hx : Observes c x) : Observes c x.attempt := by
  refine fun s => (hx s).andThen fun r t => ?_
  rcases r with (e | ⟨⟩) | a <;> exact c.refl t

end Observes

end Operation

/-! ## The whole system -/

/-- An operation that waits: for what, and what follows. -/
structure Waiting (σ : Type) where
  request : Http.Request
  resume : Http.Outcome → σ → Act σ (Except Failure Unit)

/-- The state, and the operations that wait. -/
structure Configuration (σ : Type) where
  state : σ
  waiting : List (Waiting σ) := []

namespace Configuration

variable {σ : Type}

/-- The configuration when one more operation has got as far as it can by itself. -/
def enrol (ws : List (Waiting σ)) : Act σ (Except Failure Unit) → Configuration σ
  | .finished _ s => ⟨s, ws⟩
  | .waiting r s k => ⟨s, ws ++ [⟨r, k⟩]⟩

/-- An operation starts. -/
def start (c : Configuration σ) (x : Operation σ Unit) : Configuration σ :=
  enrol c.waiting (x c.state)

/-- The outcome of a request comes in, and the operation that waits for it goes on. -/
def resume (c : Configuration σ) (i : Nat) (o : Http.Outcome) : Configuration σ :=
  match c.waiting[i]? with
  | some w => enrol (c.waiting.eraseIdx i) (w.resume o c.state)
  | none => c

variable (idle : σ → σ → Prop) (admits : Operation σ Unit → Prop)

/-- What can happen: something outside of the operations, the start of one that is admitted, or
the outcome of a request that one of them waits for. -/
inductive Step : Configuration σ → Configuration σ → Prop
  | idle {c : Configuration σ} {s : σ} : idle c.state s → Step c { c with state := s }
  | start {c : Configuration σ} {x : Operation σ Unit} : admits x → Step c (c.start x)
  | resume {c : Configuration σ} (i : Nat) (o : Http.Outcome) : Step c (c.resume i o)

/-- What can come of a state in which no operation waits. -/
def Reachable (s : σ) (c : Configuration σ) : Prop :=
  Relation.ReflTransGen (Step idle admits) ⟨s, []⟩ c

variable {idle admits} {conduct : Conduct σ}

/-- Whether the operations that wait will observe a conduct, from any state that may follow. -/
def IsReady (conduct : Conduct σ) (c : Configuration σ) : Prop :=
  ∀ w ∈ c.waiting, ∀ o s, conduct.leads c.state s →
    (w.resume o s).Follows conduct (fun _ _ => True) s

/-- Operations that are ready remain so in any state that may follow. -/
lemma IsReady.later {c : Configuration σ} (h : c.IsReady conduct) {s : σ}
    (hs : conduct.leads c.state s) : IsReady conduct { c with state := s } :=
  fun w hw o t ht => h w hw o t (conduct.trans hs ht)

/-- An operation that observes a conduct and is begun, or goes on, leads on, and joins those that
are ready. -/
lemma IsReady.enrol {c : Configuration σ} (h : c.IsReady conduct) {ws : List (Waiting σ)}
    (hws : ∀ w ∈ ws, w ∈ c.waiting) {a : Act σ (Except Failure Unit)}
    (ha : a.Follows conduct (fun _ _ => True) c.state) :
    conduct.leads c.state (enrol ws a).state ∧ (Configuration.enrol ws a).IsReady conduct := by
  cases a with
  | finished x s => exact ⟨ha.1, fun w hw o t ht => h w (hws w hw) o t (conduct.trans ha.1 ht)⟩
  | waiting r s k =>
    refine ⟨ha.1, fun w hw o t ht => ?_⟩
    rcases List.mem_append.mp hw with hw | hw
    · exact h w (hws w hw) o t (conduct.trans ha.1 ht)
    · obtain rfl := List.mem_singleton.mp hw
      exact ha.2 o t ht

/-- **A system of operations that observe a conduct observes it**, however they take turns.

**Proof sketch.** Induction on the run. What is carried along is that the operations that wait are
ready: each of them will observe the conduct from any state that may follow the present one. -/
theorem Reachable.leads {s : σ} (hidle : ∀ t u, idle t u → conduct.leads t u)
    (hadmits : ∀ x, admits x → ∀ t, conduct.leads s t →
      (x t).Follows conduct (fun _ _ => True) t)
    {c : Configuration σ} (h : Reachable idle admits s c) : conduct.leads s c.state := by
  suffices conduct.leads s c.state ∧ c.IsReady conduct from this.1
  induction h with
  | refl => exact ⟨conduct.refl s, fun w hw => absurd hw (by simp)⟩
  | tail _ hstep ih =>
    obtain ⟨hlead, hready⟩ := ih
    cases hstep with
    | idle h => exact ⟨conduct.trans hlead (hidle _ _ h), hready.later (hidle _ _ h)⟩
    | start h =>
      obtain ⟨hnext, hready'⟩ := hready.enrol (fun _ hw => hw) (hadmits _ h _ hlead)
      exact ⟨conduct.trans hlead hnext, hready'⟩
    | resume i o =>
      unfold Configuration.resume
      split
      · rename_i w hw
        have hfollows := hready w (List.mem_of_getElem? hw) o _ (conduct.refl _)
        obtain ⟨hnext, hready'⟩ := hready.enrol (fun _ hw => List.mem_of_mem_eraseIdx hw) hfollows
        exact ⟨conduct.trans hlead hnext, hready'⟩
      · exact ⟨hlead, hready⟩

end Configuration

end ConversionScheduler
