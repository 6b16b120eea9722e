import ConversionScheduler.Proofs.Interleaving
/-!
# Sessions

Who asked for what, and what became of it: a session is the shared state together with the
operations that wait in it, each of which knows by which demand it was started, and with everything
that has happened so far. Between two steps of a session all operations that have not ended wait for
an answer, so what a step does is done by one operation on its way from one pause to the next.

## Main definitions

* `Paused` — an operation that waits, with the demand by which it was started.
* `Occurrence` — what can happen: a demand, an answer, or something outside of the operations.
* `Session`, `Session.begin`, `Session.answer` — a session, and its steps as functions.
* `Conditions` — what demands are, when one may come, and what may happen outside.
* `Session.Step`, `Session.Later` — one step, and any number of them.

## Main results

* `Session.answer_eq` — an answer takes one operation out of those that wait.
-/

namespace ConversionScheduler

/-- An operation that waits: the demand by which it was started, the state in which it began to
wait, for what, and what follows. -/
structure Paused (ι σ : Type) where
  demand : ι
  since : σ
  request : Http.Request
  resume : Http.Outcome → σ → Act σ (Except Failure Unit)

/-- What can happen in a session. -/
inductive Occurrence (ι σ : Type)
  | idle
  | demanded (x : ι)
  | answered (p : Paused ι σ) (o : Http.Outcome)

/-- The state, what has happened, the last first, and the operations that wait. -/
structure Session (ι σ : Type) where
  state : σ
  history : List (Occurrence ι σ) := []
  paused : List (Paused ι σ) := []

/-- What demands are, when one may come, and what may happen outside of the operations. -/
structure Conditions (ι σ : Type) where
  run : ι → Operation σ Unit
  admits : List (Occurrence ι σ) → ι → Prop
  idle : σ → σ → Prop

namespace Session

variable {ι σ : Type}

/-- The session when the operation of a demand has got as far as it can by itself. -/
def enrol (x : ι) (history : List (Occurrence ι σ)) (paused : List (Paused ι σ)) :
    Act σ (Except Failure Unit) → Session ι σ
  | .finished _ s => ⟨s, history, paused⟩
  | .waiting r s k => ⟨s, history, paused ++ [⟨x, s, r, k⟩]⟩

/-- An operation that has got as far as it can by itself leaves the history. -/
@[simp] lemma history_enrol (x : ι) (history : List (Occurrence ι σ)) (paused : List (Paused ι σ))
    (a : Act σ (Except Failure Unit)) : (enrol x history paused a).history = history := by
  cases a <;> rfl

/-- A demand comes. -/
def begin (run : ι → Operation σ Unit) (x : ι) (n : Session ι σ) : Session ι σ :=
  enrol x (.demanded x :: n.history) n.paused (run x n.state)

/-- An answer comes, and the operation that waits for it goes on. -/
def answer (i : Nat) (o : Http.Outcome) (n : Session ι σ) : Session ι σ :=
  match n.paused[i]? with
  | some p => enrol p.demand (.answered p o :: n.history) (n.paused.eraseIdx i) (p.resume o n.state)
  | none => n

/-- What can happen. -/
inductive Step (conditions : Conditions ι σ) : Session ι σ → Session ι σ → Prop
  | idle {n : Session ι σ} {s : σ} (h : conditions.idle n.state s) :
    Step conditions n { n with state := s, history := .idle :: n.history }
  | begin {n : Session ι σ} {x : ι} (h : conditions.admits n.history x) :
    Step conditions n (n.begin conditions.run x)
  | answer {n : Session ι σ} {i : Nat} (h : i < n.paused.length) (o : Http.Outcome) :
    Step conditions n (n.answer i o)

/-- What can come of a session. -/
def Later (conditions : Conditions ι σ) : Session ι σ → Session ι σ → Prop :=
  Relation.ReflTransGen (Step conditions)

/-- An answer takes one operation out of those that wait. -/
lemma answer_eq {n : Session ι σ} {i : Nat} (h : i < n.paused.length) (o : Http.Outcome) :
    ∃ before p after, n.paused = before ++ p :: after ∧
      n.answer i o = enrol p.demand (.answered p o :: n.history) (before ++ after)
        (p.resume o n.state) := by
  refine ⟨n.paused.take i, n.paused[i], n.paused.drop (i + 1), ?_, ?_⟩
  · rw [List.getElem_cons_drop, List.take_append_drop]
  · rw [answer, List.getElem?_eq_getElem h, List.eraseIdx_eq_take_drop_succ]

end Session

end ConversionScheduler
