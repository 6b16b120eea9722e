import ConversionScheduler.Proofs.Demands
/-!
# Operations one at a time

If an operation starts only when no other one waits, then whatever happens while it waits happens
outside. What each operation keeps from its start to its end, although maybe not in between, is then
kept by the whole system, whenever no operation waits.

## Main definitions

* `Act.Yields` — what an operation comes to if nobody else acts while it waits.
* `Operation.Keeps` — what an operation keeps in this case.
* `Configuration.Serial` — what can come of operations that do not overlap.
* `Scheduler.Serial` — the same for the demands on a scheduler.

## Main results

* `Act.Yields.andThen`, `Operation.yields_bind`, `Operation.Keeps.bind` — sequences.
* `Configuration.Serial.keeps` — what each operation keeps, the system keeps.
-/

namespace ConversionScheduler

open Relation (ReflTransGen)

/-! ## One operation -/

namespace Act

variable {σ α β : Type} {idle : σ → σ → Prop} {p : α → σ → Prop} {q : β → σ → Prop} {a : Act σ α}

/-- Whether an operation can only end with `post` if nothing but `idle` happens while it waits. -/
def Yields (idle : σ → σ → Prop) (post : α → σ → Prop) : Act σ α → Prop
  | finished x t => post x t
  | waiting _ t k => ∀ o u, ReflTransGen idle t u → (k o u).Yields idle post

/-- What an operation can end with may be weakened. -/
lemma Yields.mono {p' : α → σ → Prop} (h : a.Yields idle p) (hp : ∀ x t, p x t → p' x t) :
    a.Yields idle p' := by
  induction a with
  | finished x t => exact hp x t h
  | waiting r t k ih => exact fun o u hu => ih o u (h o u hu)

/-- What follows an operation takes up where it ended. -/
theorem Yields.andThen {f : α → σ → Act σ β} (h : a.Yields idle p)
    (hf : ∀ x t, p x t → (f x t).Yields idle q) : (a.andThen f).Yields idle q := by
  induction a with
  | finished x t => exact hf x t h
  | waiting r t k ih => exact fun o u hu => ih o u (h o u hu)

end Act

namespace Operation

variable {σ α β : Type} {idle : σ → σ → Prop} {s : σ} {x : Operation σ α}
  {p : Except Failure α → σ → Prop}

/-- The rule for sequences: the second operation may rely on what the first one ends with. -/
lemma yields_bind {f : α → Operation σ β} {q : Except Failure β → σ → Prop}
    (hx : (x s).Yields idle p) (hf : ∀ a t, p (.ok a) t → (f a t).Yields idle q)
    (he : ∀ e t, p (.error e) t → q (.error e) t) : ((x >>= f) s).Yields idle q := by
  refine hx.andThen fun r t hr => ?_
  cases r with
  | ok a => exact hf a t hr
  | error e => exact he e t hr

/-- Whether an operation keeps `inv` if nothing but `idle` happens while it waits. -/
def Keeps (idle : σ → σ → Prop) (inv : σ → Prop) (x : Operation σ α) : Prop :=
  ∀ s, inv s → (x s).Yields idle fun _ t => inv t

section Keeps

variable {inv : σ → Prop} {f : α → Operation σ β}

/-- A result keeps everything. -/
lemma keeps_pure (a : α) : Keeps idle inv (pure a : Operation σ α) := fun _ hs => hs

/-- So does a failure. -/
lemma keeps_fail (e : Error) : Keeps idle inv (fail e : Operation σ α) := fun _ hs => hs

/-- So does a look at the state. -/
lemma keeps_read (f : σ → α) : Keeps idle inv (read f) := fun _ hs => hs

/-- A change keeps what it keeps, as it does not wait. -/
lemma keeps_update {f : σ → σ} (h : ∀ s, inv s → inv (f s)) : Keeps idle inv (update f) := h

/-- So does a step, whether it succeeds or fails. -/
lemma keeps_step {f : σ → Except Failure α × σ} (h : ∀ s, inv s → inv (f s).2) :
    Keeps idle inv (step f) := h

/-- Two operations keep in sequence what both of them keep. -/
lemma Keeps.bind (hx : Keeps idle inv x) (hf : ∀ a, Keeps idle inv (f a)) :
    Keeps idle inv (x >>= f) :=
  fun s hs => yields_bind (hx s hs) (fun a t => hf a t) fun _ _ ht => ht

/-- An attempt keeps what the operation keeps. -/
lemma Keeps.attempt (hx : Keeps idle inv x) : Keeps idle inv x.attempt := by
  refine fun s hs => (hx s hs).andThen fun r t ht => ?_
  rcases r with (e | ⟨⟩) | a <;> exact ht

end Keeps

end Operation

/-! ## The whole system -/

namespace Configuration

variable {σ : Type} {idle : σ → σ → Prop} {admits : Operation σ Unit → Prop} {s : σ}
  {n : Configuration σ}

/-- What can come of a state if an operation starts only when none waits. -/
inductive Serial (idle : σ → σ → Prop) (admits : Operation σ Unit → Prop) (s : σ) :
    Configuration σ → Prop
  | refl : Serial idle admits s ⟨s, []⟩
  | idle {n : Configuration σ} {t : σ} (run : Serial idle admits s n) (passes : idle n.state t) :
    Serial idle admits s { n with state := t }
  | start {n : Configuration σ} {x : Operation σ Unit} (run : Serial idle admits s n)
    (alone : n.waiting = []) (admitted : admits x) : Serial idle admits s (n.start x)
  | resume {n : Configuration σ} (run : Serial idle admits s n) (i : Nat) (o : Http.Outcome) :
    Serial idle admits s (n.resume i o)

/-- A run in which operations do not overlap is a run. -/
lemma Serial.reachable {idle' : σ → σ → Prop} (hidle : ∀ t u, idle t u → idle' t u)
    (h : Serial idle admits s n) : Reachable idle' admits s n := by
  induction h with
  | refl => exact .refl
  | idle _ passes ih => exact .tail ih (.idle (hidle _ _ passes))
  | start _ _ admitted ih => exact .tail ih (.start admitted)
  | resume _ i o ih => exact .tail ih (.resume i o)

/-- **What each operation keeps, the system keeps**, whenever no operation waits.

**Proof sketch.** Induction on the run. There is at most one operation that waits, and what is
carried along is that it will end as it should from any state to which things have gone on by
themselves. -/
theorem Serial.keeps {inv : σ → Prop} (hidle : ∀ t u, idle t u → inv t → inv u)
    (hadmits : ∀ n, Serial idle admits s n → n.waiting = [] → inv n.state →
      ∀ x, admits x → (x n.state).Yields idle fun _ t => inv t)
    (h : Serial idle admits s n) (hs : inv s) (hn : n.waiting = []) : inv n.state := by
  have hended : ∀ a : Act σ (Except Failure Unit), a.Yields idle (fun _ t => inv t) →
      ((enrol [] a).waiting = [] ∧ inv (enrol [] a).state) ∨
        ∃ w, (enrol [] a).waiting = [w] ∧ ∀ o u, ReflTransGen idle (enrol [] a).state u →
          (w.resume o u).Yields idle fun _ t => inv t := by
    intro a ha
    cases a with
    | finished x t => exact .inl ⟨rfl, ha⟩
    | waiting r t k => exact .inr ⟨⟨r, k⟩, rfl, ha⟩
  -- while an operation waits, the invariant need not hold; what does is that it will when it ends
  suffices (n.waiting = [] ∧ inv n.state) ∨ ∃ w, n.waiting = [w] ∧
      ∀ o u, ReflTransGen idle n.state u → (w.resume o u).Yields idle fun _ t => inv t by
    obtain ⟨-, hinv⟩ | ⟨w, hw, -⟩ := this
    · exact hinv
    · exact absurd (hn.symm.trans hw) (by simp)
  clear hn
  induction h with
  | refl => exact .inl ⟨rfl, hs⟩
  | idle _ passes ih =>
    obtain ⟨hnone, hinv⟩ | ⟨w, hw, hresume⟩ := ih
    · exact .inl ⟨hnone, hidle _ _ passes hinv⟩
    · exact .inr ⟨w, hw, fun o u hu => hresume o u (.head passes hu)⟩
  | @start n x run alone admitted ih =>
    obtain ⟨-, hinv⟩ | ⟨w, hw, -⟩ := ih
    · rw [Configuration.start, alone]
      exact hended _ (hadmits n run alone hinv x admitted)
    · exact absurd (alone.symm.trans hw) (by simp)
  | @resume n _ i o ih =>
    -- an answer to an operation that does not wait changes nothing
    have hself : n.waiting[i]? = none → n.resume i o = n := fun hnone => by
      rw [Configuration.resume, hnone]
    obtain ⟨hnone, hinv⟩ | ⟨w, hw, hresume⟩ := ih
    · rw [hself (by rw [hnone]; rfl)]
      exact .inl ⟨hnone, hinv⟩
    · cases i with
      | zero =>
        have hnext : n.resume 0 o = enrol [] (w.resume o n.state) := by
          rw [Configuration.resume, hw]
          rfl
        rw [hnext]
        exact hended _ (hresume o _ .refl)
      | succ i =>
        rw [hself (by rw [hw]; rfl)]
        exact .inr ⟨w, hw, hresume⟩

end Configuration

/-! ## A scheduler -/

namespace Scheduler

open Manager (State)

variable {ω : Type} {c : Scheduler ω} {idle : ω → ω → Prop} {s : State ω}
  {n : Configuration (State ω)}

/-- What can come of a state when demands come one at a time, while outside the world may change as
`idle` says. -/
def Serial (c : Scheduler ω) (idle : ω → ω → Prop) : State ω → Configuration (State ω) → Prop :=
  Configuration.Serial (fun s t => ∃ w, idle s.world w ∧ t = { s with world := w })
    fun x => ∃ d : Demand, d.isSized = true ∧ x = d.run c

/-- Each worker's cached proxy is one for that worker, whatever happens outside. -/
lemma Serial.isKeyed (h : c.Serial idle s n) (hs : s.pool = .empty) : n.state.pool.IsKeyed := by
  have hruns : c.Runs (fun _ _ => True) s n :=
    Configuration.Serial.reachable (fun _ _ ⟨w, _, ht⟩ => ⟨w, trivial, ht⟩) h
  exact hruns.isKeyed ⟨fun _ _ => trivial, fun _ => trivial, fun _ => trivial⟩ hs

end Scheduler

end ConversionScheduler
