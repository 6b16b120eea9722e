import ConversionScheduler.Proofs.Conduct
import ConversionScheduler.Proofs.Faults
import ConversionScheduler.Proofs.WorkerStores
/-!
# When a worker is evicted for its health

A sweep evicts a worker when the proxy through which it has just asked has enough errors. The errors
are those of the proxy: they are the health checks that failed through it since a success through
it. Whether they are also those of the worker, at the address at which it is registered and since
its own last success, depends on whether it has moved meanwhile or has been talked to through
another proxy.

## Main definitions

* `Journal.failures` — the failed health checks since a success, each through certain contacts.
* `Journal.isBypassed` — whether a worker showed that it is well, but not through a given proxy.
* `WorkerStore.KeepsIds` — a store that answers with what was asked for.
* `Manager.Ledger.IsCounted` — errors are failed health checks, and evictions have enough of them.

## Main results

* `Journal.failures_split` — the failures of a worker, through one proxy and through the others.
* `Manager.Move.counted` — every move keeps the count.
* `WorkerBackend.keepsIds`, `WorkerStore.KeepsIds.withFaults` — the stores of either kind answer
  with what was asked for, also if some of their calls fail.
* `eviction_count` — what an eviction says about the worker.
-/

namespace ConversionScheduler

/-! ## Counting failures -/

namespace Note

/-- The contact that a note is about, if it is about one. -/
def contact? : Note → Option Contact
  | registered _ via | heard via | examined _ _ via | checked via _ | dispatched via _
  | reported via _ | evicted _ (.unhealthy via) => some via
  | renewed _ | removed _ | evicted _ .stale => none

/-- A note of a success through a contact is about the contact. -/
lemma contact?_of_success? {n : Note} {via : Contact} (h : n.success? = some via) :
    n.contact? = some via := by
  cases n with
  | checked via' passed =>
    cases passed with
    | true => exact h
    | false => exact absurd h (by simp [success?])
  | evicted id cause => exact absurd h (by simp [success?])
  | examined | renewed | removed => exact absurd h (by simp [success?])
  | _ => exact h

/-- A note of a failure through a contact is about the contact. -/
lemma contact?_of_failure? {n : Note} {via : Contact} (h : n.failure? = some via) :
    n.contact? = some via := by
  cases n with
  | checked via' passed =>
    cases passed with
    | true => exact absurd h (by simp [failure?])
    | false => exact h
  | _ => exact absurd h (by simp [failure?])

end Note

namespace Journal

/-- The failed health checks through a contact that counts, since the last success through a
contact that ends the counting. -/
def failures (ends counts : Contact → Bool) : List Note → Nat
  | [] => 0
  | n :: older =>
    if n.success?.any ends then 0
    else failures ends counts older + if n.failure?.any counts then 1 else 0

/-- The failed health checks through a proxy since the last success through it. -/
def failuresThrough (number : Nat) : List Note → Nat :=
  failures (·.number = number) (·.number = number)

/-- The failed health checks of a worker at an address since the worker's last success. -/
def failuresOf (id addr : String) : List Note → Nat :=
  failures (·.id = id) fun via => via.id = id ∧ via.addr = addr

/-- The failed health checks through a proxy since the worker's last success. -/
def failuresVia (id : String) (number : Nat) : List Note → Nat :=
  failures (·.id = id) (·.number = number)

/-- The failed health checks of a worker at an address since the worker's last success, through
other proxies than the given one. -/
def failuresBeside (id addr : String) (number : Nat) : List Note → Nat :=
  failures (·.id = id) fun via => via.id = id ∧ via.addr = addr ∧ via.number ≠ number

/-- Whether a worker had a success since the last one through a proxy, but not through that one. -/
def isBypassed (id : String) (number : Nat) : List Note → Bool
  | [] => false
  | n :: older =>
    match n.success? with
    | none => isBypassed id number older
    | some via =>
      if via.number = number then false
      else if via.id = id then true
      else isBypassed id number older

variable {ends counts : Contact → Bool} {journal : List Note} {via : Contact}

/-- A note that is neither a success that ends the counting nor a failure that counts. -/
lemma failures_cons {n : Note} (hends : n.success?.any ends = false)
    (hcounts : n.failure?.any counts = false) :
    failures ends counts (n :: journal) = failures ends counts journal := by
  rw [failures, hends, hcounts]
  rfl

/-- The failures of a worker at an address are those through a proxy, if that is for this address,
and those through the others.

**Proof sketch.** Induction on the journal, from the latest note back. A success of the worker ends
the count on both sides; a failure is through the proxy in question, and then for its address, or
through another one. -/
lemma failures_split (hnames : ∀ n ∈ journal, ∀ v, n.failure? = some v → v.number = via.number →
    v = via) (addr : String) :
    failuresOf via.id addr journal =
      (if via.addr = addr then failuresVia via.id via.number journal else 0) +
        failuresBeside via.id addr via.number journal := by
  induction journal with
  | nil => simp [failuresOf, failuresVia, failuresBeside, failures]
  | cons n older ih =>
    have ih := ih fun n hn => hnames n (List.mem_cons_of_mem _ hn)
    have hname := hnames n (List.mem_cons_self ..)
    unfold failuresOf failuresVia failuresBeside at ih ⊢
    simp only [failures]
    by_cases hends : n.success?.any (fun v => decide (v.id = via.id)) = true
    · simp [hends]
    · rw [if_neg hends, if_neg hends, if_neg hends, ih]
      cases hfailure : n.failure? with
      | none => simp
      | some v =>
        by_cases hnumber : v.number = via.number
        · have hv : v = via := hname v hfailure hnumber
          by_cases haddr : via.addr = addr
          · simp [hv, haddr]
            omega
          · simp [hv, haddr]
        · by_cases hv : v.id = via.id ∧ v.addr = addr
          · simp [hv, hnumber]
            omega
          · simp [hv, hnumber]

/-- A proxy counts the failures since the worker's last success unless it is bypassed.

**Proof sketch.** Induction on the journal. A success through the proxy ends both counts; one of the
worker through another proxy, before that, would have bypassed this one, so a success of somebody
else is passed over by both. -/
lemma failuresThrough_eq (hnames : ∀ n ∈ journal, ∀ v, n.success? = some v →
    v.number = via.number → v = via) (h : isBypassed via.id via.number journal = false) :
    failuresVia via.id via.number journal = failuresThrough via.number journal := by
  induction journal with
  | nil => rfl
  | cons n older ih =>
    have hname := hnames n (List.mem_cons_self ..)
    unfold failuresVia failuresThrough at ih ⊢
    simp only [failures]
    rw [isBypassed] at h
    cases hsuccess : n.success? with
    | none =>
      rw [hsuccess] at h
      have ih := ih (fun n hn => hnames n (List.mem_cons_of_mem _ hn)) h
      simp [ih]
    | some v =>
      rw [hsuccess] at h
      by_cases hnumber : v.number = via.number
      · have hv : v = via := hname v hsuccess hnumber
        simp [hv]
      · by_cases hid : v.id = via.id
        · simp [hnumber, hid] at h
        · have ih := ih (fun n hn => hnames n (List.mem_cons_of_mem _ hn))
            (by simpa [hnumber, hid] using h)
          simp [hnumber, hid, ih]

end Journal

/-! ## The count of a manager -/

/-- A store that answers with what was asked for, as long as its world is good. -/
structure WorkerStore.KeepsIds {ω : Type} (store : WorkerStore ω) (good : ω → Prop) : Prop where
  kept : ∀ (call : WorkerCall) {w : ω}, call.isSized = true → good w → good (call.perform store w).2
  get : ∀ {id : String} {r : WorkerRecord} {w : ω}, good w →
    ((WorkerCall.get id).perform store w).1 = .ok (.record r) →
    r.id = id ∧ r.weight < Dialect.bound32
  heartbeat : ∀ {r r' : WorkerRecord} {w : ω}, r.weight < Dialect.bound32 → good w →
    ((WorkerCall.heartbeat r).perform store w).1 = .ok (.record r') →
    r'.id = r.id ∧ r'.addr = r.addr

namespace WorkerStore.KeepsIds

variable {ω : Type} {store : WorkerStore ω} {good : ω → Prop} {w w' : ω}

/-- A call in a good world leads to a good one. -/
lemma kept_of_run (h : store.KeepsIds good) {call : WorkerCall} {a : Except Failure WorkerAnswer}
    (hsized : call.isSized = true) (hrun : call.perform store w = (a, w')) (hw : good w) :
    good w' := by
  have hgood := h.kept call hsized hw
  rw [hrun] at hgood
  exact hgood

/-- What is read is the record that was asked for. -/
lemma get_of_run (h : store.KeepsIds good) {id : String} {r : WorkerRecord}
    (hrun : (WorkerCall.get id).perform store w = (.ok (.record r), w')) (hw : good w) :
    r.id = id ∧ r.weight < Dialect.bound32 :=
  h.get hw (by rw [hrun])

end WorkerStore.KeepsIds

namespace Manager

variable {ω : Type} {m : Manager ω} {idle : ω → ω → Prop} {good : ω → Prop} {l l' : Ledger ω}

/-- What a manager's ledger is like at all times: the journal names the proxies as they are, a
proxy has no more errors than there were failures through it, and those were enough for each
eviction. -/
structure Ledger.IsCounted (m : Manager ω) (good : ω → Prop) (l : Ledger ω) : Prop where
  world : good l.world
  keyed : l.pool.IsKeyed
  named : ∀ n ∈ l.journal, ∀ via, n.contact? = some via →
    via.number < l.pool.made.length ∧ l.pool.contact via.number = via
  registered : ∀ q via, .registered q via ∈ l.journal → via.id = q.id ∧ via.addr = q.addr
  examined : ∀ id r via, .examined id r via ∈ l.journal → via.id = id ∧ r.weight < Dialect.bound32
  errors : ∀ n, (l.pool.proxy n).errorCount.toNat ≤ Journal.failuresThrough n l.journal
  evicted : ∀ newer older id via, l.journal = newer ++ .evicted id (.unhealthy via) :: older →
    via.id = id ∧ m.settings.maxErrorCount ≤ Journal.failuresThrough via.number older

/-- Where nothing has happened, nothing is counted. -/
lemma Ledger.IsCounted.start {w : ω} (hw : good w) :
    Ledger.IsCounted m good ⟨w, .empty, []⟩ where
  world := hw
  keyed := Pool.isKeyed_empty
  named _ hn := absurd hn (by simp)
  registered _ _ hn := absurd hn (by simp)
  examined _ _ _ hn := absurd hn (by simp)
  errors _ := Nat.zero_le _
  evicted newer _ _ _ hjournal := absurd hjournal.symm (by simp)

/-- Another world and another pool that extends the one before. -/
lemma Ledger.IsCounted.extend (h : l.IsCounted m good) {w : ω} {pool : Pool} (hw : good w)
    (hkeyed : pool.IsKeyed) (hpool : l.pool.Extends pool)
    (herrors : ∀ n, (pool.proxy n).errorCount.toNat ≤ (l.pool.proxy n).errorCount.toNat) :
    Ledger.IsCounted m good ⟨w, pool, l.journal⟩ where
  world := hw
  keyed := hkeyed
  named n hn via hvia := by
    obtain ⟨hlt, hcontact⟩ := h.named n hn via hvia
    exact ⟨Nat.lt_of_lt_of_le hlt hpool.length, (hpool.contact _ hlt).trans hcontact⟩
  registered := h.registered
  examined := h.examined
  errors n := Nat.le_trans (herrors n) (h.errors n)
  evicted := h.evicted

/-- One more note.

**Proof sketch.** The earlier notes have what is asked of them, as contacts stay when the pool
grows. What is asked of the new one is assumed. -/
lemma Ledger.IsCounted.note (h : l.IsCounted m good) {pool : Pool} {n : Note}
    (hkeyed : pool.IsKeyed) (hpool : l.pool.Extends pool)
    (hnamed : ∀ via, n.contact? = some via →
      via.number < pool.made.length ∧ pool.contact via.number = via)
    (hregistered : ∀ q via, n = .registered q via → via.id = q.id ∧ via.addr = q.addr)
    (hexamined : ∀ id r via, n = .examined id r via → via.id = id ∧ r.weight < Dialect.bound32)
    (herrors : ∀ k, (pool.proxy k).errorCount.toNat ≤ Journal.failuresThrough k (n :: l.journal))
    (hevicted : ∀ id via, n = .evicted id (.unhealthy via) →
      via.id = id ∧ m.settings.maxErrorCount ≤ Journal.failuresThrough via.number l.journal) :
    Ledger.IsCounted m good ⟨l.world, pool, n :: l.journal⟩ where
  world := h.world
  keyed := hkeyed
  named x hx via hvia := by
    rcases List.mem_cons.mp hx with rfl | hx
    · exact hnamed via hvia
    · obtain ⟨hlt, hcontact⟩ := h.named x hx via hvia
      exact ⟨Nat.lt_of_lt_of_le hlt hpool.length, (hpool.contact _ hlt).trans hcontact⟩
  registered q via hq := by
    rcases List.mem_cons.mp hq with hq | hq
    · exact hregistered q via hq.symm
    · exact h.registered q via hq
  examined id r via hr := by
    rcases List.mem_cons.mp hr with hr | hr
    · exact hexamined id r via hr.symm
    · exact h.examined id r via hr
  errors := herrors
  evicted newer older id via hjournal := by
    cases newer with
    | nil =>
      obtain ⟨hn, rfl⟩ := List.cons.inj hjournal
      exact hevicted id via hn
    | cons x newer =>
      obtain ⟨-, hrest⟩ := List.cons.inj hjournal
      exact h.evicted newer older id via hrest

/-- A success through a proxy, which has no errors any more.

**Proof sketch.** The proxy changed has no errors, and the others have as many as before, since the
note is no failure and a success of this proxy alone. -/
lemma Ledger.IsCounted.succeed (h : l.IsCounted m good) {k : Nat} {f : Proxy → Proxy} {n : Note}
    (hk : k < l.pool.made.length) (hf : ∀ p, (f p).id = p.id ∧ (f p).addr = p.addr)
    (hreset : ∀ p, (f p).errorCount = 0) (hn : n.success? = some (l.pool.contact k))
    (hregistered : ∀ q via, n = .registered q via → via.id = q.id ∧ via.addr = q.addr) :
    Ledger.IsCounted m good ⟨l.world, l.pool.change k f, n :: l.journal⟩ := by
  have hpool := Pool.extends_change (n := k) (p := l.pool) hf
  refine h.note (h.keyed.change hf k) hpool (fun via hvia => ?_) hregistered
    (fun id r via hn' => ?_) (fun i => ?_) fun id via hn' => ?_
  · rw [Note.contact?_of_success? hn] at hvia
    obtain rfl := Option.some.inj hvia
    exact ⟨Nat.lt_of_lt_of_le hk hpool.length, hpool.contact k hk⟩
  · rw [hn'] at hn
    exact absurd hn (by simp [Note.success?])
  · by_cases hi : i = k
    · subst hi
      rw [Pool.proxy_change_self hk, hreset]
      exact Nat.zero_le _
    · have hfailure : n.failure? = none := by
        cases n with
        | checked via passed =>
          cases passed with
          | true => rfl
          | false => exact absurd hn (by simp [Note.success?])
        | _ => rfl
      have hother : ¬ (l.pool.contact k).number = i := fun heq => hi heq.symm
      rw [Pool.proxy_change_of_ne hi, Journal.failuresThrough, Journal.failures_cons]
      · exact h.errors i
      · rw [hn]
        simpa using hother
      · rw [hfailure]
        rfl
  · rw [hn'] at hn
    exact absurd hn (by simp [Note.success?])

/-- A failed health check.

**Proof sketch.** The proxy changed has at most one error more, as its counter can only wrap round,
and one more failure is noted; nothing changes for the others. -/
lemma Ledger.IsCounted.fail (h : l.IsCounted m good) {k : Nat} (hk : k < l.pool.made.length) :
    Ledger.IsCounted m good ⟨l.world, l.pool.change k Proxy.countError,
      .checked (l.pool.contact k) false :: l.journal⟩ := by
  have hname : ∀ p : Proxy, p.countError.id = p.id ∧ p.countError.addr = p.addr :=
    fun _ => ⟨rfl, rfl⟩
  have hpool := Pool.extends_change (n := k) (p := l.pool) hname
  refine h.note (h.keyed.change hname k) hpool (fun via hvia => ?_) (fun _ _ hn => by cases hn)
    (fun _ _ _ hn => by cases hn) (fun i => ?_) fun _ _ hn => by cases hn
  · obtain rfl := Option.some.inj hvia
    exact ⟨Nat.lt_of_lt_of_le hk hpool.length, hpool.contact k hk⟩
  · by_cases hi : i = k
    · subst hi
      have hcount : Journal.failuresThrough i (.checked (l.pool.contact i) false :: l.journal) =
          Journal.failuresThrough i l.journal + 1 := by
        simp [Journal.failuresThrough, Journal.failures, Note.success?, Note.failure?, Pool.contact]
      have hwrap : (l.pool.proxy i).countError.errorCount.toNat ≤
          (l.pool.proxy i).errorCount.toNat + 1 := by
        rw [Proxy.countError, UInt32.toNat_add]
        exact Nat.mod_le _ _
      rw [Pool.proxy_change_self hk, hcount]
      exact Nat.le_trans hwrap (Nat.succ_le_succ (h.errors i))
    · have hother : ¬ (l.pool.contact k).number = i := fun heq => hi heq.symm
      rw [Pool.proxy_change_of_ne hi, Journal.failuresThrough, Journal.failures_cons rfl]
      · exact h.errors i
      · simpa [Note.failure?] using hother

/-- A note that is about no success and no failure. -/
lemma Ledger.IsCounted.quiet (h : l.IsCounted m good) {n : Note} (hsuccess : n.success? = none)
    (hfailure : n.failure? = none)
    (hnamed : ∀ via, n.contact? = some via →
      via.number < l.pool.made.length ∧ l.pool.contact via.number = via)
    (hexamined : ∀ id r via, n = .examined id r via → via.id = id ∧ r.weight < Dialect.bound32)
    (hevicted : ∀ id via, n = .evicted id (.unhealthy via) →
      via.id = id ∧ m.settings.maxErrorCount ≤ Journal.failuresThrough via.number l.journal) :
    Ledger.IsCounted m good { l with journal := n :: l.journal } := by
  refine h.note h.keyed (.refl _) hnamed (fun q via hn => ?_) hexamined (fun i => ?_) hevicted
  · rw [hn] at hsuccess
    exact absurd hsuccess (by simp [Note.success?])
  · rw [Journal.failuresThrough, Journal.failures_cons]
    · exact h.errors i
    · rw [hsuccess]
      rfl
    · rw [hfailure]
      rfl

/-- Resolving a record gives back the cached proxy, or makes one without errors. -/
lemma Ledger.IsCounted.resolve (h : l.IsCounted m good) {w : ω} (hw : good w) (r : WorkerRecord) :
    Ledger.IsCounted m good ⟨w, (l.pool.resolve r).2, l.journal⟩ := by
  refine h.extend hw (h.keyed.resolve r) Pool.extends_resolve fun n => ?_
  obtain heq | hzero := Pool.errorCount_resolve (p := l.pool) (r := r) n
  · exact Nat.le_of_eq (congrArg UInt32.toNat heq)
  · rw [hzero]
    exact Nat.zero_le _

/-- A worker that showed that it is there. -/
lemma Ledger.IsCounted.greet (h : l.IsCounted m good) {w : ω} (hw : good w) (r : WorkerRecord)
    {note : Contact → Note} (hnote : ∀ via, (note via).success? = some via)
    (hregistered : ∀ q via via', note via' = .registered q via → via = via' ∧ r.id = q.id ∧
      r.addr = q.addr) : (l.greet w r note).IsCounted m good := by
  obtain ⟨hmade, hcontact⟩ := Pool.contact_resolve h.keyed r
  have hname := (Pool.extends_change (n := (l.pool.resolve r).1) (p := (l.pool.resolve r).2)
    Proxy.resetErrors_name).contact _ hmade
  unfold Ledger.greet
  simp only [hname]
  refine (h.resolve hw r).succeed hmade Proxy.resetErrors_name (fun _ => rfl) (hnote _)
    fun q via hn => ?_
  obtain ⟨rfl, hid, haddr⟩ := hregistered q via _ hn
  rw [hcontact]
  exact ⟨hid, haddr⟩

/-- Dropping a proxy from the cache leaves it what it has counted. -/
lemma Ledger.IsCounted.drop (h : l.IsCounted m good) {w : ω} (hw : good w) (id : String) :
    Ledger.IsCounted m good ⟨w, l.pool.drop id, l.journal⟩ :=
  h.extend hw (h.keyed.drop id) (Pool.extends_drop _ _) fun _ => Nat.le_refl _

/-! ### What each kind of move does to the count -/

section Moves

variable {id : String} {r r' : WorkerRecord} {w w₁ w₂ : ω}

/-- Only the world changes. -/
lemma Ledger.IsCounted.elsewhere (h : l.IsCounted m good) (hw : good w) :
    Ledger.IsCounted m good { l with world := w } :=
  h.extend hw h.keyed (.refl _) fun _ => Nat.le_refl _

/-- A call that changes nothing but the world. -/
lemma Ledger.IsCounted.call (h : l.IsCounted m good) (hstore : m.workers.KeepsIds good)
    {call : WorkerCall} {a : Except Failure WorkerAnswer} (hsized : call.isSized = true)
    (hrun : call.perform m.workers l.world = (a, w)) :
    Ledger.IsCounted m good { l with world := w } :=
  h.elsewhere (hstore.kept_of_run hsized hrun h.world)

/-- A worker registers. The note is about the worker that registered, at its address. -/
lemma Ledger.IsCounted.register (h : l.IsCounted m good) (hstore : m.workers.KeepsIds good)
    {q : Registration} {t : Timestamp} (hq : q.weight < Dialect.bound32)
    (hadd : (WorkerCall.add (.ofRegistration q t)).perform m.workers l.world = (.ok .nothing, w₁))
    (hheard : (WorkerCall.heartbeat (.ofRegistration q t)).perform m.workers w₁ =
      (.ok (.record r), w₂)) :
    (l.greet w₂ r (.registered q)).IsCounted m good := by
  obtain ⟨hadded, hsized⟩ := isSized_ofRegistration t hq
  have hw₁ := hstore.kept_of_run hadded hadd h.world
  obtain ⟨hid, haddr⟩ := hstore.heartbeat (of_decide_eq_true hsized) hw₁ (by rw [hheard])
  refine h.greet (hstore.kept_of_run hsized hheard hw₁) r (fun _ => rfl) fun q' via via' hn => ?_
  obtain ⟨rfl, rfl⟩ := Note.registered.inj hn
  exact ⟨rfl, hid, haddr⟩

/-- A worker gives a sign of life. -/
lemma Ledger.IsCounted.hear (h : l.IsCounted m good) (hstore : m.workers.KeepsIds good)
    (hread : (WorkerCall.get id).perform m.workers l.world = (.ok (.record r), w₁))
    (hheard : (WorkerCall.heartbeat r).perform m.workers w₁ = (.ok (.record r'), w₂)) :
    (l.greet w₂ r' .heard).IsCounted m good := by
  have hw₁ := hstore.kept_of_run rfl hread h.world
  have hsized : (WorkerCall.heartbeat r).isSized = true :=
    decide_eq_true (hstore.get_of_run hread h.world).2
  exact h.greet (hstore.kept_of_run hsized hheard hw₁) r' (fun _ => rfl)
    fun _ _ _ hn => by cases hn

/-- A record is read whose worker is going to be checked. The note names the worker that was asked
for. -/
lemma Ledger.IsCounted.examine (h : l.IsCounted m good) (hstore : m.workers.KeepsIds good)
    (hread : (WorkerCall.get id).perform m.workers l.world = (.ok (.record r), w)) :
    (l.examine w id r).IsCounted m good := by
  obtain ⟨hid, hsized⟩ := hstore.get_of_run hread h.world
  obtain ⟨hmade, hcontact⟩ := Pool.contact_resolve h.keyed r
  refine (h.resolve (hstore.kept_of_run rfl hread h.world) r).quiet rfl rfl (fun via hvia => ?_)
    (fun id' r' via hn => ?_) fun _ _ hn => by cases hn
  · obtain rfl := Option.some.inj hvia
    exact ⟨hmade, rfl⟩
  · obtain ⟨rfl, rfl, rfl⟩ := Note.examined.inj hn
    rw [hcontact]
    exact ⟨hid, hsized⟩

/-- A health check ends, with the worker's status or without. -/
lemma Ledger.IsCounted.check (h : l.IsCounted m good) {k : Nat} (hk : k < l.pool.made.length)
    (status? : Option WorkerStatus) :
    Ledger.IsCounted m good { l with
      pool := l.pool.change k (Proxy.judged status?)
      journal := .checked (l.pool.contact k) status?.isSome :: l.journal } := by
  cases status? with
  | none => exact h.fail hk
  | some status =>
    exact h.succeed hk (Proxy.judged_name (some status)) (fun _ => rfl) rfl
      fun _ _ hn => by cases hn

/-- A worker answers a task or a question about one. -/
lemma Ledger.IsCounted.serve (h : l.IsCounted m good) {k : Nat} {note : Note}
    (hk : k < l.pool.made.length) (hservice : note.service? = some (l.pool.contact k)) :
    Ledger.IsCounted m good { l with
      pool := l.pool.change k Proxy.resetErrors
      journal := note :: l.journal } := by
  have hsuccess : note.success? = some (l.pool.contact k) ∧
      ∀ q via, note ≠ .registered q via := by
    cases note with
    | dispatched | reported => exact ⟨hservice, fun _ _ hn => by cases hn⟩
    | _ => exact absurd hservice (by simp [Note.service?])
  exact h.succeed hk Proxy.resetErrors_name (fun _ => rfl) hsuccess.1
    fun q via hn => absurd hn (hsuccess.2 q via)

/-- A healthy worker's record is written again, or is gone. -/
lemma Ledger.IsCounted.renew (h : l.IsCounted m good) (hstore : m.workers.KeepsIds good)
    {via : Contact} {a : Except Failure WorkerAnswer} (hexamined : .examined id r via ∈ l.journal)
    (hheard : (WorkerCall.heartbeat r).perform m.workers l.world = (a, w)) :
    Ledger.IsCounted m good { l with world := w } :=
  have hsized : (WorkerCall.heartbeat r).isSized = true :=
    decide_eq_true (h.examined id r via hexamined).2
  h.call hstore hsized hheard

/-- A worker is removed, and its proxy is dropped. -/
lemma Ledger.IsCounted.withdraw (h : l.IsCounted m good) (hstore : m.workers.KeepsIds good)
    (hrun : (WorkerCall.remove id).perform m.workers l.world = (.ok .nothing, w)) :
    Ledger.IsCounted m good ⟨w, l.pool.drop id, l.journal⟩ :=
  h.drop (hstore.kept_of_run rfl hrun h.world) id

/-- A worker is evicted. If that is for its errors, there were as many failures through the proxy
that was asked. -/
lemma Ledger.IsCounted.evict (h : l.IsCounted m good) (hstore : m.workers.KeepsIds good)
    {cause : EvictionCause} (hcause : l.Justifies m id cause)
    (hrun : (WorkerCall.remove id).perform m.workers l.world = (.ok .nothing, w)) :
    Ledger.IsCounted m good ⟨w, l.pool.drop id, .evicted id cause :: l.journal⟩ := by
  refine (h.withdraw hstore hrun).quiet rfl rfl (fun via hvia => ?_) (fun _ _ _ hn => by cases hn)
    fun id' via hn => ?_
  · cases cause with
    | stale => exact absurd hvia (by simp [Note.contact?])
    | unhealthy via' =>
      obtain rfl := Option.some.inj hvia
      obtain ⟨r, hexamined, -⟩ := hcause
      exact h.named _ hexamined _ rfl
  · obtain ⟨rfl, rfl⟩ := Note.evicted.inj hn
    obtain ⟨r, hexamined, -, herrors⟩ := hcause
    exact ⟨(h.examined _ r via hexamined).1, Nat.le_trans herrors (h.errors via.number)⟩

end Moves

/-- **Every move keeps the count**, if the store answers with what was asked for.

**Proof sketch.** Most moves add no note that counts, and lead to a pool that extends the one before
and has no more errors in it. A success ends the counting and clears the errors of its proxy, a
failed health check adds one to both sides, and an eviction finds the errors counted already. -/
theorem Move.counted (hstore : m.workers.KeepsIds good)
    (hidle : ∀ w w', idle w w' → good w → good w') (hmove : Move m idle l l')
    (h : l.IsCounted m good) : l'.IsCounted m good := by
  cases hmove with
  | idle hi => exact h.elsewhere (hidle _ _ hi h.world)
  | looked call hread => exact h.call hstore (WorkerCall.isSized_of_isRead hread) rfl
  | refused call hsized hrun => exact h.call hstore hsized hrun
  | unheard hq hadd hheard =>
    obtain ⟨hadded, hsized⟩ := isSized_ofRegistration _ hq
    have hw₁ := hstore.kept_of_run hadded hadd h.world
    exact h.elsewhere (hstore.kept_of_run hsized hheard hw₁)
  | registered hq hadd hheard => exact h.register hstore hq hadd hheard
  | heard hread hheard => exact h.hear hstore hread hheard
  | @unnoticed id r e w₁ w₂ hread hheard =>
    have hsized : (WorkerCall.heartbeat r).isSized = true :=
      decide_eq_true (hstore.get_of_run hread h.world).2
    have hw₁ := hstore.kept_of_run rfl hread h.world
    exact h.elsewhere (hstore.kept_of_run hsized hheard hw₁)
  | resolved r => exact h.resolve h.world r
  | examined hread => exact h.examine hstore hread
  | checked status? hn => exact h.check hn status?
  | served hn hservice => exact h.serve hn hservice
  | renewed hexamined hheard =>
    exact (h.renew hstore hexamined hheard).quiet rfl rfl (fun _ hvia => by cases hvia)
      (fun _ _ _ hn => by cases hn) fun _ _ hn => by cases hn
  | unrenewed hexamined hheard => exact h.renew hstore hexamined hheard
  | removed hrun =>
    exact (h.withdraw hstore hrun).quiet rfl rfl (fun _ hvia => by cases hvia)
      (fun _ _ _ hn => by cases hn) fun _ _ hn => by cases hn
  | evicted hcause hrun => exact h.evict hstore hcause hrun
  | forgotten id => exact h.drop h.world id

end Manager

/-! ## The stores answer with what was asked for -/

/-- Whether the live records of a registry are under their own ids, with weights of 32 bits. -/
def Registry.IsKeyed (ttl : Duration) (now : Clock) (m : Registry) : Prop :=
  ∀ id l, m.live? ttl now id = some l → l.record.id = id ∧ l.record.weight < Dialect.bound32

/-- An empty registry has no records under wrong ids. -/
lemma Registry.isKeyed_empty (ttl : Duration) (now : Clock) : Registry.empty.IsKeyed ttl now :=
  fun _ _ h => absurd h (by simp [live?, empty])

/-- A lease under the id of its record may be entered, and any may be withdrawn. -/
lemma Registry.IsKeyed.write {ttl : Duration} {now : Clock} {m : Registry} (h : m.IsKeyed ttl now)
    {id : String} {x : Option Lease}
    (hx : ∀ l, x = some l → l.record.id = id ∧ l.record.weight < Dialect.bound32) :
    Registry.IsKeyed ttl now (Function.update m id x) := by
  intro id' l hl
  rw [live?_update] at hl
  split at hl
  · rename_i heq
    rw [heq]
    exact hx l (Option.filter_eq_some_iff.mp hl).1
  · exact h id' l hl

/-- Every call with weights of 32 bits leaves the records under their own ids. -/
lemma Registry.IsKeyed.next {ttl : Duration} {now : Clock} {m : Registry} (h : m.IsKeyed ttl now)
    (call : WorkerCall) (hsized : call.isSized = true) : (m.next ttl now call).IsKeyed ttl now := by
  cases call with
  | add r =>
    refine h.write fun l hl => ?_
    obtain rfl := Option.some.inj hl
    exact ⟨rfl, of_decide_eq_true hsized⟩
  | remove id => exact h.write fun l hl => absurd hl (by simp)
  | get _ | ids => exact h
  | heartbeat r =>
    rw [Registry.next]
    split
    · refine h.write fun l hl => ?_
      obtain rfl := Option.some.inj hl
      exact ⟨rfl, of_decide_eq_true hsized⟩
    · exact h

namespace WorkerBackend

/-- Whether a site holds workers, each under its own id. -/
def IsGood (b : WorkerBackend) (s : Site) : Prop :=
  ∃ m : Registry, b.Holds m s ∧ m.IsKeyed b.lease s.clock ∧
    (s.clock.deadline? b.lease).isSome = true

variable {b : WorkerBackend}

/-- **A store of either kind answers with what was asked for.** -/
theorem keepsIds (hb : b.IsValid) : b.store.KeepsIds b.IsGood where
  kept call s hsized hgood := by
    obtain ⟨m, hholds, hkeyed, hdeadline⟩ := hgood
    obtain ⟨-, hholds', hclock⟩ := (refines hb).perform call hholds hdeadline hsized
    refine ⟨_, hholds', ?_, ?_⟩
    · rw [hclock]
      exact hkeyed.next call hsized
    · rw [hclock]
      exact hdeadline
  get {id r s} hgood hanswer := by
    obtain ⟨m, hholds, hkeyed, hdeadline⟩ := hgood
    obtain ⟨hanswers, -⟩ := (refines hb).perform (.get id) hholds hdeadline rfl
    rw [hanswer] at hanswers
    obtain ⟨l, hl, rfl⟩ := Registry.live?_of_get hanswers
    exact hkeyed id l hl
  heartbeat {r r' s} hr hgood hanswer := by
    obtain ⟨m, hholds, hkeyed, hdeadline⟩ := hgood
    obtain ⟨hanswers, -⟩ := (refines hb).perform (.heartbeat r) hholds hdeadline
      (decide_eq_true hr)
    rw [hanswer] at hanswers
    obtain ⟨rfl, -⟩ := Registry.next_of_heartbeat hanswers
    exact ⟨rfl, rfl⟩

/-- A good site is still good later, as long as deadlines can be represented. -/
lemma isGood_later {s t : Site} (hb : b.IsValid) (h : Site.Later b.lease s t) (hs : b.IsGood s) :
    b.IsGood t := by
  obtain ⟨c, rfl, hc, hdeadline⟩ := h
  obtain ⟨m, hholds, hkeyed, -⟩ := hs
  refine ⟨m, (refines hb).later c hholds hc, fun id l hl => ?_, hdeadline⟩
  have hl' : m.live? b.lease c id = some l := hl
  rw [Registry.live?_later hc] at hl'
  exact hkeyed id l (Option.filter_eq_some_iff.mp hl').1

end WorkerBackend

/-! ## Stores that fail -/

/-- **A store that answers with what was asked for still does so if some of its calls fail.** -/
theorem WorkerStore.KeepsIds.withFaults {ω : Type} {stores : Stores ω} {good : ω → Prop}
    (h : stores.workers.KeepsIds good) :
    stores.withFaults.workers.KeepsIds fun w => good w.base where
  kept call w hsized hw := by
    obtain ⟨hbase, -⟩ | ⟨hbase, -⟩ := WorkerCall.perform_withFaults stores call w
    · rw [hbase]
      exact hw
    · rw [hbase]
      exact h.kept call hsized hw
  get {id r w} hw hanswer := by
    obtain ⟨-, e, he⟩ | ⟨-, hr⟩ := WorkerCall.perform_withFaults stores (.get id) w
    · exact absurd (he.symm.trans hanswer) (by simp)
    · exact h.get hw ((hr (by simp)).symm.trans hanswer)
  heartbeat {r r' w} hsized hw hanswer := by
    obtain ⟨-, e, he⟩ | ⟨-, hr⟩ := WorkerCall.perform_withFaults stores (.heartbeat r) w
    · exact absurd (he.symm.trans hanswer) (by simp)
    · exact h.heartbeat hsized hw ((hr (by simp)).symm.trans hanswer)

/-! ## What an eviction says -/

open Manager (State)

/-- **A worker is evicted for its health only after enough failed checks through the proxy that was
asked last, since the last success through this proxy.** Of the failed checks of the worker at an
address since its own last success, those through this proxy count if it is for this address, and
so do those through others. Hence there are enough of them if the worker has not moved and the
proxy was not bypassed; and if nobody else was asked, there are enough only if the worker has not
moved and enough checks failed since its last success.

**Proof sketch.** Every move keeps it that a proxy has no more errors than failures are noted since
a success, and that the journal names proxies as they are, so that two contacts with one number are
the same. -/
theorem eviction_count {ω : Type} {c : Scheduler ω} {good : ω → Prop}
    (hstore : c.stores.workers.KeepsIds good) {idle : ω → ω → Prop}
    (hidle : ∀ w w', idle w w' → good w → good w') {s : State ω} (hpool : s.pool = .empty)
    (hjournal : s.journal = []) (hworld : good s.world) (hpos : 1 ≤ c.settings.maxErrorCount)
    {config : Configuration (State ω)} (h : c.Reaches idle s config) {newer older : List Note}
    {id : String} {via : Contact}
    (hevicted : config.state.journal = newer ++ .evicted id (.unhealthy via) :: older) :
    via.id = id ∧ c.settings.maxErrorCount ≤ Journal.failuresThrough via.number older ∧
      ∀ addr, Journal.failuresOf id addr older =
          (if via.addr = addr then Journal.failuresVia id via.number older else 0) +
            Journal.failuresBeside id addr via.number older ∧
        (via.addr = addr → Journal.isBypassed id via.number older = false →
          c.settings.maxErrorCount ≤ Journal.failuresOf id addr older) ∧
        (Journal.failuresBeside id addr via.number older = 0 →
          (c.settings.maxErrorCount ≤ Journal.failuresOf id addr older ↔
            via.addr = addr ∧
              c.settings.maxErrorCount ≤ Journal.failuresVia id via.number older)) := by
  have hledger : s.ledger = ⟨s.world, .empty, []⟩ := by rw [State.ledger, hpool, hjournal]
  have hstart : s.ledger.IsCounted c.manager good := by
    rw [hledger]
    exact .start hworld
  have hcounted : config.state.ledger.IsCounted c.manager good :=
    Manager.keeps_of_leads (fun _ _ hmove => hmove.counted hstore hidle) (h.leads hstart.keyed)
      hstart
  obtain ⟨rfl, henough⟩ := hcounted.evicted newer older id via hevicted
  have hvia : config.state.pool.contact via.number = via := by
    refine (hcounted.named (.evicted via.id (.unhealthy via)) ?_ via rfl).2
    show _ ∈ config.state.journal
    rw [hevicted]
    simp
  -- a number names one proxy throughout the journal, with the address that it has now
  have hnames : ∀ n ∈ older, ∀ v, n.contact? = some v → v.number = via.number → v = via := by
    intro n hn v hv hnumber
    have hmem : n ∈ config.state.journal := by
      rw [hevicted]
      simp [hn]
    have hcontact : config.state.pool.contact v.number = v := (hcounted.named n hmem v hv).2
    rw [← hcontact, hnumber, hvia]
  refine ⟨rfl, henough, fun addr => ?_⟩
  have hsplit := Journal.failures_split
    (fun n hn v hv => hnames n hn v (Note.contact?_of_failure? hv)) addr
  refine ⟨hsplit, fun haddr hbypassed => ?_, fun hbeside => ?_⟩
  · have hthrough := Journal.failuresThrough_eq
      (fun n hn v hv => hnames n hn v (Note.contact?_of_success? hv)) hbypassed
    rw [hsplit, if_pos haddr, hthrough]
    exact Nat.le_trans henough (Nat.le_add_right _ _)
  · rw [hsplit, hbeside, Nat.add_zero]
    by_cases haddr : via.addr = addr
    · simp [haddr]
    · simp only [haddr, if_false, false_and, iff_false]
      omega

/-- A worker that fails a health check while nothing else happens is evicted for that. -/
theorem eviction_of_failing_worker :
    let config := Scheduler.swept .unanswered
    ∃ older, config.state.journal = .evicted "w" (.unhealthy ⟨0, "w", "a:1"⟩) :: older ∧
      Scheduler.strict.settings.maxErrorCount ≤ Journal.failuresOf "w" "a:1" older := by
  have hstore : Scheduler.strict.stores.workers.KeepsIds
      (WorkerBackend.IsGood (.memory (.ofSeconds 60))) :=
    WorkerBackend.keepsIds (b := .memory _) trivial
  have hworld : WorkerBackend.IsGood (.memory (.ofSeconds 60)) Scheduler.initial.world :=
    ⟨.empty, MemoryWorkers.holds_empty _ rfl, Registry.isKeyed_empty _ _, rfl⟩
  have hjournal : (Scheduler.swept .unanswered).state.journal =
      [] ++ .evicted "w" (.unhealthy ⟨0, "w", "a:1"⟩) ::
        (Scheduler.swept .unanswered).state.journal.tail := by decide +kernel
  obtain ⟨-, -, hsound⟩ := eviction_count hstore
    (fun _ _ hlater => WorkerBackend.isGood_later (b := .memory _) trivial hlater) rfl rfl hworld
    (by decide) (Scheduler.reaches_swept _) hjournal
  exact ⟨_, hjournal, (hsound "a:1").2.1 rfl (by decide +kernel)⟩

/-- A worker that registers anew at another address during its health check is evicted because it
does not answer at the old one, although it was not asked at the new one at all. -/
theorem eviction_of_moved_worker :
    let config := Scheduler.moved .unanswered
    Scheduler.strict.Reaches (Site.Later (.ofSeconds 60)) Scheduler.initial config ∧
      ∃ older, config.state.journal = .evicted "w" (.unhealthy ⟨0, "w", "a:1"⟩) :: older ∧
        Journal.lastRegistration? "w" older = some ⟨"w", "b:2", 9⟩ ∧
        Journal.failuresOf "w" "b:2" older < Scheduler.strict.settings.maxErrorCount :=
  ⟨Scheduler.reaches_moved _, (Scheduler.moved .unanswered).state.journal.tail, by decide +kernel,
    by decide +kernel, by decide +kernel⟩

end ConversionScheduler
