import ConversionScheduler.Proofs.Addresses
import ConversionScheduler.Proofs.Demands
/-!
# The cache of proxies may be lost at any time

A proxy carries nothing that an operation depends on, except for the errors by which a sweep judges
its worker: whom a request goes to is read from the store each time anew. Two schedulers that find
the same in their stores, and whose balancers have counted alike, therefore make the same requests
and come to the same results, whatever proxies each of them has cached.

## Main definitions

* `Act.Alike` — operations that make the same requests, and go on and end alike.
* `Manager.State.Agrees` — states with the same world and the same balancer.

## Main results

* `Manager.alike_getWorker`, `Manager.alike_heartbeat`, `Manager.alike_listWorkers`,
  `Manager.alike_selectWorker` — the operations of the manager.
* `Scheduler.alike_schedule`, `Scheduler.alike_status` — the operations on tasks.
* `cache_transparent` — any two schedulers over the same stores.
-/

namespace ConversionScheduler

open Manager (State)
open Manager.State (query resolve change observe note count call)

/-! ## Operations that proceed alike -/

namespace Act

variable {σ α β : Type}

/-- Two operations proceed alike: they make the same requests, and whatever the outcome of each of
these is, they go on alike from any two states that are alike and to which a conduct may have led
meanwhile. They end with results of which `post` holds. Wherever they pause or end, their states are
alike. -/
inductive Alike (c : Conduct σ) (like : σ → σ → Prop) (post : α → σ → α → σ → Prop) :
    Act σ α → Act σ α → Prop
  | finished {x y : α} {s t : σ} (states : like s t) (results : post x s y t) :
    Alike c like post (.finished x s) (.finished y t)
  | waiting {r : Http.Request} {s t : σ} {k k' : Http.Outcome → σ → Act σ α} (states : like s t)
    (resumed : ∀ o u v, c.leads s u → c.leads t v → like u v →
      Alike c like post (k o u) (k' o v)) :
    Alike c like post (.waiting r s k) (.waiting r t k')

variable {c : Conduct σ} {like : σ → σ → Prop} {p : α → σ → α → σ → Prop} {q : β → σ → β → σ → Prop}
  {a b : Act σ α} {f g : α → σ → Act σ β}

/-- What follows two operations takes up where they ended. -/
theorem Alike.andThen (h : a.Alike c like p b)
    (hf : ∀ x s y t, like s t → p x s y t → (f x s).Alike c like q (g y t)) :
    (a.andThen f).Alike c like q (b.andThen g) := by
  induction h with
  | finished states results => exact hf _ _ _ _ states results
  | waiting states _ ih => exact .waiting states ih

end Act

namespace Operation

variable {σ α β : Type} {c : Conduct σ} {like : σ → σ → Prop}

/-- Whether two operations have failed alike, or both have results of which `p` holds. -/
def Agree (p : α → σ → α → σ → Prop) (x : Except Failure α) (s : σ) (y : Except Failure α) (t : σ) :
    Prop :=
  (∃ e, x = .error e ∧ y = .error e) ∨ ∃ a b, x = .ok a ∧ y = .ok b ∧ p a s b t

/-- Whether two results are the same. -/
def Same (a : α) (_ : σ) (b : α) (_ : σ) : Prop := a = b

/-- A result agrees with itself. -/
lemma agree_same (x : Except Failure α) (s t : σ) : Agree Same x s x t := by
  cases x with
  | error e => exact .inl ⟨e, rfl, rfl⟩
  | ok a => exact .inr ⟨a, a, rfl, rfl, rfl⟩

variable {p : α → σ → α → σ → Prop} {q : β → σ → β → σ → Prop} {x y : Operation σ α} {s t : σ}

/-- The rule for sequences: what goes on after results that agree has to proceed alike. -/
lemma alike_bind {f g : α → Operation σ β} (h : (x s).Alike c like (Agree p) (y t))
    (hf : ∀ a u b v, like u v → p a u b v → (f a u).Alike c like (Agree q) (g b v)) :
    ((x >>= f) s).Alike c like (Agree q) ((y >>= g) t) := by
  refine h.andThen fun r u r' v huv hr => ?_
  obtain ⟨e, rfl, rfl⟩ | ⟨a, b, rfl, rfl, hab⟩ := hr
  · exact .finished huv (.inl ⟨e, rfl, rfl⟩)
  · exact hf a u b v huv hab

/-- An attempt proceeds as the operation does, whose failures are alike. -/
lemma alike_attempt (h : (x s).Alike c like (Agree Same) (y t)) :
    (x.attempt s).Alike c like (Agree Same) (y.attempt t) := by
  refine h.andThen fun r u r' v huv hr => ?_
  obtain ⟨e, rfl, rfl⟩ | ⟨a, b, rfl, rfl, rfl⟩ := hr
  · cases e <;> exact .finished huv (agree_same _ u v)
  · exact .finished huv (agree_same _ u v)

/-- Two results from states that are alike. -/
lemma alike_pure {a b : α} (h : like s t) (hab : p a s b t) :
    ((pure a : Operation σ α) s).Alike c like (Agree p) ((pure b : Operation σ α) t) :=
  .finished h (.inr ⟨a, b, rfl, rfl, hab⟩)

/-- Two failures with the same error. -/
lemma alike_fail (e : Error) (h : like s t) :
    ((fail e : Operation σ α) s).Alike c like (Agree p) ((fail e : Operation σ α) t) :=
  .finished h (.inl ⟨_, rfl, rfl⟩)

end Operation

namespace Manager

open Operation (Agree Same)

variable {ω α : Type} {m : Manager ω} {s t : State ω}

/-! ## States that agree -/

/-- Two states with the same world and the same balancer. The proxies may be any, as long as each
worker's cached proxy is one for that worker. -/
structure State.Agrees (s t : State ω) : Prop where
  world : s.world = t.world
  balancer : s.balancer = t.balancer
  keyed : s.pool.IsKeyed
  keyed' : t.pool.IsKeyed

/-- The conduct in which proxies stay for good. -/
def State.growing : Conduct (State ω) where
  leads s t := s.pool.Extends t.pool
  refl s := .refl s.pool
  trans := .trans

/-- Whether two operations on a manager's state proceed alike, and end alike or with results of
which `p` holds. -/
abbrev State.Alike (p : α → State ω → α → State ω → Prop)
    (a b : Act (State ω) (Except Failure α)) : Prop :=
  a.Alike State.growing State.Agrees (Agree p) b

/-- Two proxies for the same worker at the same address. -/
structure SameProxy (n : Nat) (s : State ω) (n' : Nat) (t : State ω) : Prop where
  made : n < s.pool.made.length
  made' : n' < t.pool.made.length
  id : (s.pool.proxy n).id = (t.pool.proxy n').id
  addr : (s.pool.proxy n).addr = (t.pool.proxy n').addr

/-- No proxy, or two for the same worker at the same address. -/
inductive SameChoice : Option Nat → State ω → Option Nat → State ω → Prop
  | none {s t : State ω} : SameChoice .none s .none t
  | some {n n' : Nat} {s t : State ω} : SameProxy n s n' t → SameChoice (.some n) s (.some n') t

namespace State

/-- Proxies may change in everything but their workers and their addresses. -/
lemma Agrees.change (h : s.Agrees t) {f : Proxy → Proxy}
    (hf : ∀ x, (f x).id = x.id ∧ (f x).addr = x.addr) (n n' : Nat) :
    Agrees { s with pool := s.pool.change n f } { t with pool := t.pool.change n' f } :=
  ⟨h.world, h.balancer, h.keyed.change hf n, h.keyed'.change hf n'⟩

/-- A call of a store depends on the world only. -/
lemma alike_query (h : s.Agrees t) (q : Query ω α) : Alike Same (query q s) (query q t) := by
  rcases hq : q s.world with ⟨r, w⟩
  rw [query_eq hq, query_eq (h.world ▸ hq)]
  exact .finished ⟨rfl, h.balancer, h.keyed, h.keyed'⟩ (Operation.agree_same r _ _)

/-- The proxies of a record are for its worker at its address. -/
lemma alike_resolve (h : s.Agrees t) (r : WorkerRecord) :
    Alike SameProxy (resolve r s) (resolve r t) := by
  obtain ⟨hmade, hcontact⟩ := Pool.contact_resolve h.keyed r
  obtain ⟨hmade', hcontact'⟩ := Pool.contact_resolve h.keyed' r
  refine .finished ⟨h.world, h.balancer, h.keyed.resolve r, h.keyed'.resolve r⟩
    (.inr ⟨_, _, rfl, rfl, hmade, hmade', ?_, ?_⟩)
  · exact (congrArg Contact.id hcontact).trans (congrArg Contact.id hcontact').symm
  · exact (congrArg Contact.addr hcontact).trans (congrArg Contact.addr hcontact').symm

/-- A change that leaves the name of a proxy is made alike. -/
lemma alike_change (h : s.Agrees t) {f : Proxy → Proxy}
    (hf : ∀ x, (f x).id = x.id ∧ (f x).addr = x.addr) (n n' : Nat) :
    Alike Same (change n f s) (change n' f t) :=
  .finished (h.change hf n n') (Operation.agree_same _ _ _)

/-- Balancers that are the same are told the same. -/
lemma alike_observe (h : s.Agrees t) (r : WorkerRecord) :
    Alike Same (observe r s) (observe r t) :=
  .finished ⟨h.world, congrArg (fun b => Balancer.observe b r.id r.weight) h.balancer, h.keyed,
    h.keyed'⟩ (Operation.agree_same _ _ _)

/-- Counters may differ. -/
lemma alike_count (h : s.Agrees t) (f : Metrics → Metrics) :
    Alike Same (count f s) (count f t) :=
  .finished ⟨h.world, h.balancer, h.keyed, h.keyed'⟩ (Operation.agree_same _ _ _)

/-- Notes may differ. -/
lemma alike_note (h : s.Agrees t) (f g : State ω → Note) :
    Alike Same (note f s) (note g t) :=
  .finished ⟨h.world, h.balancer, h.keyed, h.keyed'⟩ (Operation.agree_same _ _ _)

/-- Whether what a call requests and what it brings depends on the name of the proxy only. -/
def IsNamed (c : Proxy → Call α) : Prop :=
  ∀ p p', p.id = p'.id → p.addr = p'.addr → (c p).request = (c p').request ∧
    ∀ body q q', ((c p).finish body q).1 = ((c p').finish body q').1

/-- Whom a task is handed over to depends on the name of the proxy only, and so does what comes of
it. -/
lemma isNamed_dispatch (t : Task) : IsNamed fun p => p.dispatch t := by
  rintro ⟨id, addr, errors, status⟩ ⟨id', addr', errors', status'⟩ rfl rfl
  refine ⟨rfl, fun body q q' => ?_⟩
  simp only [Proxy.dispatch]
  cases Proxy.decoded Proxy.acknowledgement? body with
  | error fault => rfl
  | ok remoteId =>
    by_cases hempty : remoteId = ""
    · simp only [if_pos hempty]
    · simp only [if_neg hempty]
      cases t.assign id remoteId <;> rfl

/-- The same for a question about a task. -/
lemma isNamed_taskStatus (remoteId : String) : IsNamed fun p => p.taskStatus remoteId := by
  rintro ⟨id, addr, errors, status⟩ ⟨id', addr', errors', status'⟩ rfl rfl
  refine ⟨rfl, fun body q q' => ?_⟩
  simp only [Proxy.taskStatus]
  cases Proxy.decoded WorkerReport.read? body <;> rfl

/-- The end of a service leaves states that agree. -/
lemma Agrees.settled {c c' : Call α} (hc : IsService c) (hc' : IsService c')
    (hsame : ∀ body q q', (c.finish body q).1 = (c'.finish body q').1) (h : s.Agrees t) (n n' : Nat)
    (body : Except CallFault (List UInt8)) :
    Agrees { s with pool := s.pool.change n fun _ => (c.finish body (s.pool.proxy n)).2 }
      { t with pool := t.pool.change n' fun _ => (c'.finish body (t.pool.proxy n')).2 } := by
  have heq := hsame body (s.pool.proxy n) (t.pool.proxy n')
  obtain ⟨e, hfinish⟩ | ⟨a, hfinish⟩ := hc body (s.pool.proxy n) <;>
    obtain ⟨e', hfinish'⟩ | ⟨a', hfinish'⟩ := hc' body (t.pool.proxy n')
  · rw [hfinish, hfinish', Pool.change_const n fun p => p, Pool.change_const n' fun p => p]
    exact h.change (fun _ => ⟨rfl, rfl⟩) n n'
  · rw [hfinish, hfinish'] at heq
    exact absurd heq (by simp)
  · rw [hfinish, hfinish'] at heq
    exact absurd heq (by simp)
  · rw [hfinish, hfinish', Pool.change_const, Pool.change_const]
    exact h.change Proxy.resetErrors_name n n'

/-- A service that is asked for through proxies for the same worker at the same address.

**Proof sketch.** The request is made of what names the proxy, so it is the same for both, or it
cannot be written for either. The outcome settles the same for both, and both proxies are changed in
the same way. -/
lemma alike_call (h : s.Agrees t) {n n' : Nat} (hn : SameProxy n s n' t) {c : Proxy → Call α}
    (hservice : ∀ p, IsService (c p)) (hnamed : IsNamed c) :
    Alike Same (call n c s) (call n' c t) := by
  obtain ⟨hrequest, hfinish⟩ := hnamed _ _ hn.id hn.addr
  have hend : ∀ body (u v : State ω), u.Agrees v → Alike Same
      (.finished (((c (s.pool.proxy n)).finish body (u.pool.proxy n)).1.mapError .reported)
        { u with pool := u.pool.change n fun _ =>
          ((c (s.pool.proxy n)).finish body (u.pool.proxy n)).2 })
      (.finished (((c (t.pool.proxy n')).finish body (v.pool.proxy n')).1.mapError .reported)
        { v with pool := v.pool.change n' fun _ =>
          ((c (t.pool.proxy n')).finish body (v.pool.proxy n')).2 }) := by
    intro body u v huv
    rw [hfinish body (u.pool.proxy n) (v.pool.proxy n')]
    exact .finished (huv.settled (hservice _) (hservice _) hfinish n n' body)
      (Operation.agree_same _ _ _)
  cases hsent : (c (s.pool.proxy n)).request with
  | error fault =>
    rw [call_of_fault hsent, call_of_fault (hrequest ▸ hsent)]
    exact hend (.error (.transport fault)) s t h
  | ok r =>
    rw [call_of_request hsent, call_of_request (hrequest ▸ hsent)]
    exact .waiting h fun o u v _ _ huv => hend (Proxy.answer r.url o) u v huv

end State

open State

/-! ## The manager -/

/-- A record is found in both states, or in neither. -/
lemma alike_find? (h : s.Agrees t) (id : String) :
    State.Alike Same (m.find? id s) (m.find? id t) := by
  refine Operation.alike_bind (Operation.alike_attempt (alike_query h (m.workers.get id)))
    fun r u r' v huv hr => ?_
  obtain rfl : r = r' := hr
  rcases r with e | record
  · cases e with
    | workerNotFound id' => exact Operation.alike_pure huv rfl
    | _ => exact Operation.alike_fail _ huv
  · exact Operation.alike_pure huv rfl

/-- The same worker is chosen among the ids, if one is.

**Proof sketch.** Both balancers choose the same id, and its record is found in both states or in
neither. If it is found, its proxies are for the same worker at the same address; if not, the rounds
that follow are alike by induction. -/
lemma alike_selectFrom (rounds : Nat) (ids : List String) (h : s.Agrees t) :
    State.Alike SameChoice (m.selectFrom rounds ids s) (m.selectFrom rounds ids t) := by
  induction rounds generalizing ids s t with
  | zero => exact Operation.alike_pure h .none
  | succ rounds ih =>
    refine Operation.alike_bind (p := Same) ?_ fun choice u choice' v huv hchoice => ?_
    · refine .finished ⟨h.world, ?_, h.keyed, h.keyed'⟩ ?_
      · exact congrArg (fun b => (Balancer.select b ids).2) h.balancer
      · exact .inr ⟨_, _, rfl, rfl, congrArg (fun b => (Balancer.select b ids).1) h.balancer⟩
    obtain rfl : choice = choice' := hchoice
    cases choice with
    | none => exact Operation.alike_pure huv .none
    | some id =>
      refine Operation.alike_bind (alike_find? huv id) fun r u r' v huv hr => ?_
      obtain rfl : r = r' := hr
      cases r with
      | none => exact ih _ huv
      | some record =>
        exact Operation.alike_bind (alike_resolve huv record) fun n u n' v huv hn =>
          Operation.alike_pure huv (.some hn)

/-- The worker that is selected does not depend on what is cached. -/
lemma alike_selectWorker (h : s.Agrees t) :
    State.Alike SameChoice (m.selectWorker s) (m.selectWorker t) := by
  refine Operation.alike_bind (alike_query h m.workers.ids) fun ids u ids' v huv hids => ?_
  obtain rfl : ids = ids' := hids
  exact alike_selectFrom ids.length ids huv

/-- Neither does the worker that is found. -/
lemma alike_getWorker (h : s.Agrees t) (id : String) :
    State.Alike SameProxy (m.getWorker id s) (m.getWorker id t) := by
  refine Operation.alike_bind (alike_query h (m.workers.get id)) fun r u r' v huv hr => ?_
  obtain rfl : r = r' := hr
  exact alike_resolve huv r

/-- A sign of life does not depend on what is cached. -/
lemma alike_heartbeat (h : s.Agrees t) (id : String) :
    State.Alike Same (m.heartbeat id s) (m.heartbeat id t) := by
  refine Operation.alike_bind (alike_query h (m.workers.get id)) fun r u r' v huv hr => ?_
  obtain rfl : r = r' := hr
  refine Operation.alike_bind (alike_query huv (m.workers.heartbeat r)) fun r u r' v huv hr => ?_
  obtain rfl : r = r' := hr
  refine Operation.alike_bind (alike_resolve huv r) fun n u n' v huv _ => ?_
  refine Operation.alike_bind (alike_change huv Proxy.resetErrors_name n n') fun _ u _ v huv _ => ?_
  refine Operation.alike_bind (alike_observe huv r) fun _ u _ v huv _ => ?_
  exact Operation.alike_bind (alike_note huv _ _) fun _ u _ v huv _ => Operation.alike_pure huv rfl

/-- Whether two summaries are the same up to the errors and the status of the worker. -/
def SameSummary (a b : WorkerSummary) : Prop :=
  a.id = b.id ∧ a.addr = b.addr ∧ a.lastHeartbeat = b.lastHeartbeat ∧ a.weight = b.weight

/-- Whether two lists of summaries are the same up to the errors and the status of each worker. -/
def SameSummaries (as : List WorkerSummary) (_ : State ω) (bs : List WorkerSummary)
    (_ : State ω) : Prop :=
  List.Forall₂ SameSummary as bs

/-- What is told about workers is the same, up to what only the proxies know. -/
lemma alike_summaries (ids : List String) (h : s.Agrees t) :
    State.Alike SameSummaries (m.summaries ids s) (m.summaries ids t) := by
  induction ids generalizing s t with
  | nil => exact Operation.alike_pure h .nil
  | cons id ids ih =>
    refine Operation.alike_bind (alike_find? h id) fun r u r' v huv hr => ?_
    obtain rfl : r = r' := hr
    cases r with
    | none => exact ih huv
    | some record =>
      refine Operation.alike_bind (alike_resolve huv record) fun n u n' v huv _ => ?_
      refine Operation.alike_bind (p := fun _ _ _ _ => True)
        (.finished huv (.inr ⟨_, _, rfl, rfl, trivial⟩)) fun p u p' v huv _ => ?_
      exact Operation.alike_bind (ih huv) fun rest u rest' v huv hrest =>
        Operation.alike_pure huv (.cons ⟨rfl, rfl, rfl, rfl⟩ hrest)

/-- So is their list. -/
lemma alike_listWorkers (h : s.Agrees t) :
    State.Alike SameSummaries (m.listWorkers s) (m.listWorkers t) := by
  refine Operation.alike_bind (alike_query h m.workers.ids) fun ids u ids' v huv hids => ?_
  obtain rfl : ids = ids' := hids
  exact alike_summaries ids huv

end Manager

namespace Scheduler

open Manager (SameProxy SameChoice SameSummaries)
open Manager.State
open Operation (Same)

variable {ω : Type} {c : Scheduler ω} {s t : State ω}

/-! ## Tasks -/

/-- A task is handed over to the same worker. -/
lemma alike_execute (h : s.Agrees t) (task : Task) :
    State.Alike Same (c.execute task s) (c.execute task t) := by
  refine Operation.alike_bind (Manager.alike_selectWorker h) fun n u n' v huv hn => ?_
  cases hn with
  | none => exact Operation.alike_fail _ huv
  | some hn =>
    refine Operation.alike_bind (alike_call huv hn (fun p => Manager.isService_dispatch p task)
      (isNamed_dispatch task)) fun a u a' v huv ha => ?_
    exact Operation.alike_bind (alike_note huv _ _) fun _ u _ v huv _ =>
      Operation.alike_pure huv ha

/-- The same worker is asked about a task. -/
lemma alike_remoteStatus (h : s.Agrees t) (remoteId workerId : String) :
    State.Alike Same (c.remoteStatus remoteId workerId s) (c.remoteStatus remoteId workerId t) := by
  refine Operation.alike_bind (Manager.alike_getWorker h workerId) fun n u n' v huv hn => ?_
  refine Operation.alike_bind (alike_call huv hn (fun p => Manager.isService_taskStatus p remoteId)
    (isNamed_taskStatus remoteId)) fun r u r' v huv hr => ?_
  exact Operation.alike_bind (alike_note huv _ _) fun _ u _ v huv _ => Operation.alike_pure huv hr

/-- Taking the record of a task back does not depend on what is cached. -/
lemma alike_rollBack (h : s.Agrees t) (id : String) :
    State.Alike Same (c.rollBack id s) (c.rollBack id t) := by
  unfold rollBack
  split
  · exact Operation.alike_bind (Operation.alike_attempt (alike_query h _))
      fun _ u _ v huv _ => Operation.alike_pure huv rfl
  · exact Operation.alike_pure h rfl

/-- **A task is offered to the same worker**, and comes to the same. -/
theorem alike_schedule (h : s.Agrees t) (task : Task) :
    State.Alike Same (c.schedule task s) (c.schedule task t) := by
  refine Operation.alike_bind (alike_query h (c.stores.tasks.add task)) fun _ u _ v huv _ => ?_
  refine Operation.alike_bind (Operation.alike_attempt (alike_execute huv task))
    fun r u r' v huv hr => ?_
  obtain rfl : r = r' := hr
  cases r with
  | error e =>
    refine Operation.alike_bind (alike_count huv _) fun _ u _ v huv _ => ?_
    exact Operation.alike_bind (alike_rollBack huv task.id) fun _ u _ v huv _ =>
      Operation.alike_fail e huv
  | ok assigned =>
    refine Operation.alike_bind (alike_query huv (c.stores.tasks.update assigned))
      fun _ u _ v huv _ => ?_
    exact Operation.alike_bind (alike_count huv _) fun _ u _ v huv _ => Operation.alike_pure huv rfl

/-- What the worker says becomes of the task in the same way. -/
lemma alike_inquire (h : s.Agrees t) (id : String) (task : Task) (a : Assignment) :
    State.Alike Same (c.inquire id task a s) (c.inquire id task a t) := by
  refine Operation.alike_bind (alike_remoteStatus h a.remoteId a.workerId) fun r u r' v huv hr => ?_
  obtain rfl : r = r' := hr
  dsimp only
  split
  · exact Operation.alike_bind (alike_query huv _) fun _ u _ v huv _ =>
      Operation.alike_pure huv rfl
  · exact Operation.alike_pure huv rfl

/-- **The same worker is asked about a task**, and the same is reported. -/
theorem alike_status (h : s.Agrees t) (id : String) :
    State.Alike Same (c.status id s) (c.status id t) := by
  refine Operation.alike_bind (alike_query h (c.stores.tasks.get id))
    fun task u task' v huv htask => ?_
  obtain rfl : task = task' := htask
  cases task.assignment with
  | none => exact Operation.alike_pure huv rfl
  | some a => exact alike_inquire huv id task a

end Scheduler

/-! ## Two schedulers -/

section Transparency

open Manager (SameProxy SameSummaries)
open Operation (Same)

variable {ω : Type}

/-- **The cache of proxies is transparent.** Two schedulers over the same stores, each of which has
been doing whatever it was asked to since it was started without proxies, find the same world, and
their balancers have counted alike. Then whatever proxies, errors and statuses each of them keeps,
possibly none at all: asking for a task, submitting one, and a sign of life make the same requests
at the same points, in the same world; as long as each request has the same outcome for both, and
the world and the balancer are the same for both when it comes, they have the same result or the
same error, and leave the same world. So it is with a look for a worker, up to the number of its
proxy, and with the list of workers, up to errors and statuses.

And in every state, every request that a demand leads to goes to the address in the record that was
read last.

**Proof sketch.** All that an operation takes from a proxy besides its errors and its status is the
worker and the address, and these are those of the record it has just read: a cached proxy is one
for the worker under whose id it is cached, and it is used only if its address is the record's. So
the two runs keep in step, operation by operation. -/
theorem cache_transparent {c c' : Scheduler ω} (hstores : c.stores = c'.stores)
    (hrollback : c.rollback = c'.rollback) {s₀ t₀ : State ω} (hs₀ : s₀.pool = .empty)
    (ht₀ : t₀.pool = .empty) {n n' : Configuration (State ω)}
    (hn : c.Runs (fun _ _ => True) s₀ n) (hn' : c'.Runs (fun _ _ => True) t₀ n')
    (hworld : n.state.world = n'.state.world)
    (hbalancer : n.state.balancer = n'.state.balancer) :
    (∀ id, State.Alike Same (c.status id n.state) (c'.status id n'.state)) ∧
      (∀ t, State.Alike Same (c.schedule t n.state) (c'.schedule t n'.state)) ∧
      (∀ id, State.Alike Same (c.manager.heartbeat id n.state)
        (c'.manager.heartbeat id n'.state)) ∧
      (∀ id, State.Alike SameProxy (c.manager.getWorker id n.state)
        (c'.manager.getWorker id n'.state)) ∧
      State.Alike SameSummaries (c.manager.listWorkers n.state)
        (c'.manager.listWorkers n'.state) ∧
      ∀ (d : Scheduler.Demand) (s : State ω), (d.run c s).Sends c.manager.IsAddressed := by
  have hwithin : ∀ stores : Stores ω, stores.Within fun _ _ => True :=
    fun _ => ⟨fun _ _ => trivial, fun _ => trivial, fun _ => trivial⟩
  have hagrees : n.state.Agrees n'.state :=
    ⟨hworld, hbalancer, hn.isKeyed (hwithin _) hs₀, hn'.isKeyed (hwithin _) ht₀⟩
  obtain ⟨stores, settings', rollback⟩ := c'
  obtain rfl : c.stores = stores := hstores
  obtain rfl : c.rollback = rollback := hrollback
  -- How workers are evicted does not matter for these operations.
  have hselect : Manager.selectWorker ⟨c.stores.workers, c.stores.now, settings'⟩ =
      c.manager.selectWorker := Manager.selectWorker_congr rfl rfl
  have hlist : Manager.listWorkers ⟨c.stores.workers, c.stores.now, settings'⟩ =
      c.manager.listWorkers := Manager.listWorkers_congr rfl rfl
  refine ⟨fun id => ?_, fun t => ?_, fun id => ?_, fun id => ?_, ?_, fun d s => d.sends_addressed s⟩
  · exact Scheduler.alike_status hagrees id
  · have hsame : Scheduler.schedule ⟨c.stores, settings', c.rollback⟩ t = c.schedule t := by
      simp only [Scheduler.schedule, Scheduler.execute, Scheduler.manager, hselect]
      rfl
    rw [hsame]
    exact Scheduler.alike_schedule hagrees t
  · exact Manager.alike_heartbeat hagrees id
  · exact Manager.alike_getWorker hagrees id
  · exact hlist ▸ Manager.alike_listWorkers hagrees

namespace Scheduler

/-- A worker has registered, and then again at another address with somebody else who uses the same
stores. -/
def relocated : State (Faulty Site) :=
  { staffed with
    world := (((basic false).register ⟨"w", "b:2", 3⟩ staffed).run fun _ => .unanswered).2.world }

/-- The same after a restart: nothing is cached any more. -/
def restarted : State (Faulty Site) := { relocated with pool := .empty }

/-- A run gets to the state in which the worker has moved. -/
lemma runs_relocated : (basic false).Runs (fun _ _ => True) initialFaulty ⟨relocated, []⟩ := by
  have hregister : (⟨initialFaulty, []⟩ : Configuration (State (Faulty Site))).start
      ((Demand.manage (.register ⟨"w", "a:1", 3⟩)).run (basic false)) = ⟨staffed, []⟩ := by
    obtain ⟨x, u, hrun⟩ := (basic false).manager.addWorker_finished ⟨"w", "a:1", 3⟩ initialFaulty
    have hfinished : (basic false).register ⟨"w", "a:1", 3⟩ initialFaulty =
        .finished (x.map fun _ => ()) u := by
      show ((basic false).manager.addWorker _ >>= fun _ => pure ()) initialFaulty = _
      rw [Operation.discard_apply, hrun]
      rfl
    have hstaffed : staffed = u := by
      rw [staffed, hfinished]
      rfl
    show Configuration.enrol [] ((basic false).register ⟨"w", "a:1", 3⟩ initialFaulty) = _
    rw [hfinished, hstaffed]
    rfl
  have hstart : (basic false).Runs (fun _ _ => True) initialFaulty ⟨staffed, []⟩ :=
    hregister ▸ Relation.ReflTransGen.single (.start ⟨_, rfl, rfl⟩)
  exact .tail hstart (.idle ⟨relocated.world, trivial, rfl⟩)

end Scheduler

/-- A worker has moved without a scheduler's notice: its proxy is still cached at the old address.
Whoever looks for the worker is given one at the new address all the same, as after a restart. -/
theorem cache_transparent_relocated :
    (Scheduler.basic false).Runs (fun _ _ => True) Scheduler.initialFaulty
        ⟨Scheduler.relocated, []⟩ ∧
      (Scheduler.relocated.pool.lookup? "w").map Proxy.addr = some "a:1" ∧
      Scheduler.restarted.pool.lookup? "w" = none ∧
      State.Alike SameProxy ((Scheduler.basic false).manager.getWorker "w" Scheduler.relocated)
        ((Scheduler.basic false).manager.getWorker "w" Scheduler.restarted) ∧
      ∃ n u, (Scheduler.basic false).manager.getWorker "w" Scheduler.relocated =
        .finished (.ok n) u ∧ (u.pool.proxy n).addr = "b:2" := by
  obtain ⟨-, -, -, hget, -⟩ := cache_transparent
    (show (Scheduler.basic false).stores = (Scheduler.basic false).stores from rfl) rfl
    (show Scheduler.initialFaulty.pool = .empty from rfl)
    (show Scheduler.restarted.pool = .empty from rfl) Scheduler.runs_relocated
    (Relation.ReflTransGen.refl) rfl rfl
  refine ⟨Scheduler.runs_relocated, by decide +kernel, rfl, hget "w", ?_⟩
  obtain ⟨e, u, hrun, -⟩ | ⟨r, n, u, hread, hrun, haddr⟩ :=
    getWorker_cases (Scheduler.basic false).manager "w" Scheduler.relocated
  · have hfound : (((Scheduler.basic false).manager.getWorker "w" Scheduler.relocated).run
        fun _ => .unanswered).1.isOk = true := by
      decide +kernel
    rw [hrun] at hfound
    exact absurd hfound (by simp [Act.run, Except.isOk, Except.toBool])
  · have hrecord : ((Scheduler.basic false).manager.workers.get "w" Scheduler.relocated.world).1 =
        .ok ⟨"w", "b:2", .epoch, 3⟩ := by
      decide +kernel
    rw [hread] at hrecord
    obtain rfl := Except.ok.inj hrecord
    exact ⟨n, u, hrun, haddr⟩

end Transparency

end ConversionScheduler
