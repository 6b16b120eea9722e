import ConversionScheduler.Proofs.Conduct
import ConversionScheduler.Proofs.WorkerStores
/-!
# What becomes of a registration

A worker's record is written by a registration, by a sign of life, which writes the record that has
just been read, and by a sweep, which writes the record that it read before it asked the worker how
it is. Meanwhile the worker may have registered anew. So the address and the weight in a record are
always those of a registration, but not always of the last one: a sweep may bring back an earlier
one.

## Main definitions

* `WorkerRecord.IsOf` — a record with the address and the weight of a registration.
* `Journal.renewedSince?` — what a sweep wrote last, if it wrote after the last registration.
* `Journal.Restored` — a record that was read before the last registration and written after it.
* `Journal.IsFounded` — what sweeps read and write comes from older notes.
* `Manager.Tallies` — the store holds what was written last.
* `Manager.Ledger.IsAttested` — both.

## Main results

* `Journal.IsFounded.accounted` — what sweeps write is up to date unless they read it before the
  last registration.
* `Manager.Move.attested` — every move keeps the store and the journal in step.
* `registration_kept_iff` — when the record of a worker is that of its last registration.
-/

namespace ConversionScheduler

/-- Whether a record has the address and the weight of a registration. -/
def WorkerRecord.IsOf (r : WorkerRecord) (q : Registration) : Prop :=
  r.addr = q.addr ∧ r.weight = max q.weight 1

/-- Whether two records are the same but for the last sign of life. -/
def WorkerRecord.Renews (r r₀ : WorkerRecord) : Prop :=
  r.id = r₀.id ∧ r.addr = r₀.addr ∧ r.weight = r₀.weight

namespace WorkerRecord

variable {r r₀ r₁ : WorkerRecord}

/-- A sign of life changes nothing else in a record. -/
lemma renews_touch (r : WorkerRecord) (now : Timestamp) : (r.touch now).Renews r := ⟨rfl, rfl, rfl⟩

/-- Neither do two. -/
lemma Renews.trans (h : r.Renews r₁) (h' : r₁.Renews r₀) : r.Renews r₀ :=
  ⟨h.1.trans h'.1, h.2.1.trans h'.2.1, h.2.2.trans h'.2.2⟩

/-- Records that differ in the last sign of life only are of the same registrations. -/
lemma Renews.isOf_iff (h : r.Renews r₀) (q : Registration) : r.IsOf q ↔ r₀.IsOf q := by
  unfold IsOf
  rw [h.2.1, h.2.2]

end WorkerRecord

/-! ## The journal -/

namespace Note

/-- The record that a sweep wrote for a worker, if that is what happened. -/
def renewal? (id : String) : Note → Option WorkerRecord
  | renewed r => if r.id = id then some r else none
  | _ => none

/-- A note is a registration of the worker or it is not. -/
lemma registration?_cases (n : Note) (id : String) :
    n.registration? id = none ∨ ∃ q via, n = .registered q via ∧ q.id = id := by
  cases n with
  | registered q via =>
    by_cases hid : q.id = id
    · exact .inr ⟨q, via, rfl, hid⟩
    · exact .inl (if_neg hid)
  | _ => exact .inl rfl

end Note

namespace Journal

/-- The notes since the last registration of a worker. -/
def since (id : String) (journal : List Note) : List Note :=
  journal.takeWhile fun n => (n.registration? id).isNone

/-- The notes up to the last registration of a worker. -/
def upTo (id : String) (journal : List Note) : List Note :=
  journal.dropWhile fun n => (n.registration? id).isNone

/-- What a sweep wrote last for a worker, if it did so after the last registration. -/
def renewedSince? (id : String) (journal : List Note) : Option WorkerRecord :=
  (since id journal).findSome? (Note.renewal? id)

/-- Whether there was a registration with the id, the address and the weight of a record. -/
def Registered (journal : List Note) (r : WorkerRecord) : Prop :=
  ∃ q via, .registered q via ∈ journal ∧ q.id = r.id ∧ r.IsOf q

/-- Whether a sweep read a record before the last registration of its worker, and one wrote it back
after that. -/
def Restored (journal : List Note) (r : WorkerRecord) : Prop :=
  ∃ r₀ via r₁, .examined r.id r₀ via ∈ upTo r.id journal ∧ .renewed r₁ ∈ since r.id journal ∧
    r₁.Renews r₀ ∧ r.Renews r₀

/-- Whether a record has what was written last for its worker: by a sweep, or else by a
registration. -/
def WroteLast (journal : List Note) (r : WorkerRecord) : Prop :=
  ∃ q, lastRegistration? r.id journal = some q ∧
    match renewedSince? r.id journal with
    | some r' => r.Renews r'
    | none => r.IsOf q

/-- Whether what a note says about a record comes from older notes: a sweep reads what was written
last, and writes what was read. -/
def Founds (older : List Note) : Note → Prop
  | .registered q _ => q.weight < Dialect.bound32
  | .examined id r _ => r.id = id ∧ WroteLast older r
  | .renewed r => ∃ r₀ via, .examined r.id r₀ via ∈ older ∧ r.Renews r₀
  | _ => True

/-- What sweeps read and write comes from older notes throughout. -/
inductive IsFounded : List Note → Prop
  | nil : IsFounded []
  | cons {n : Note} {older : List Note} :
      Founds older n → IsFounded older → IsFounded (n :: older)

variable {journal journal' : List Note} {id : String} {r r₀ : WorkerRecord} {n : Note}
  {q : Registration} {via : Contact}

/-! ### The last registration -/

/-- A registration is the last one when it is made. -/
lemma lastRegistration?_registered (hid : q.id = id) :
    lastRegistration? id (.registered q via :: journal) = some q := by
  have hq : (Note.registered q via).registration? id = some q := if_pos hid
  rw [lastRegistration?, List.findSome?_cons, hq]

/-- Any other note leaves the last registration what it was. -/
lemma lastRegistration?_cons (hq : n.registration? id = none) :
    lastRegistration? id (n :: journal) = lastRegistration? id journal := by
  rw [lastRegistration?, List.findSome?_cons, hq]
  rfl

/-- Nothing has happened since a registration that has just been made. -/
lemma since_registered (hid : q.id = id) : since id (.registered q via :: journal) = [] := by
  have hq : (Note.registered q via).registration? id = some q := if_pos hid
  exact List.takeWhile_cons_of_neg (by simp [hq])

/-- Any other note has happened since the last registration. -/
lemma since_cons (hq : n.registration? id = none) :
    since id (n :: journal) = n :: since id journal :=
  List.takeWhile_cons_of_pos (by simp [hq])

/-- Any other note does not change what had happened up to the last registration. -/
lemma upTo_cons (hq : n.registration? id = none) : upTo id (n :: journal) = upTo id journal :=
  List.dropWhile_cons_of_pos (by simp [hq])

/-- The last registration divides the journal. -/
lemma since_append_upTo (id : String) (journal : List Note) :
    since id journal ++ upTo id journal = journal :=
  List.takeWhile_append_dropWhile

/-- A note that is no registration is the last renewal, or leaves the one there was. -/
lemma renewedSince?_cons (hq : n.registration? id = none) :
    renewedSince? id (n :: journal) = (n.renewal? id).or (renewedSince? id journal) := by
  rw [renewedSince?, since_cons hq, List.findSome?_cons]
  cases n.renewal? id <;> rfl

/-- The last renewal is in the journal, after the last registration. -/
lemma mem_of_renewedSince? (h : renewedSince? id journal = some r) :
    .renewed r ∈ since id journal ∧ r.id = id := by
  obtain ⟨n, hn, hr⟩ := List.exists_of_findSome?_eq_some h
  cases n with
  | renewed r' =>
    rw [Note.renewal?] at hr
    split at hr
    · rename_i hid
      obtain rfl := Option.some.inj hr
      exact ⟨hn, hid⟩
    · exact absurd hr (by simp)
  | _ => exact absurd hr (by simp [Note.renewal?])

/-- The last registration is in the journal. -/
lemma mem_of_lastRegistration? (h : lastRegistration? id journal = some q) :
    ∃ via, .registered q via ∈ journal ∧ q.id = id := by
  obtain ⟨n, hn, hq⟩ := List.exists_of_findSome?_eq_some h
  obtain hnone | ⟨q', via, rfl, hid⟩ := n.registration?_cases id
  · exact absurd (hnone.symm.trans hq) (by simp)
  · obtain rfl := Option.some.inj ((if_pos hid).symm.trans hq)
    exact ⟨via, hn, hid⟩

/-- A worker that has registered has a last registration. -/
lemma lastRegistration?_isSome (h : .registered q via ∈ journal) :
    (lastRegistration? q.id journal).isSome = true := by
  rw [lastRegistration?, List.findSome?_isSome_iff]
  exact ⟨_, h, by simp [Note.registration?]⟩

/-! ### What was written last -/

/-- A note that is neither a registration nor a renewal of the worker changes nothing for it. -/
lemma WroteLast.cons (h : WroteLast journal r) (hq : n.registration? r.id = none)
    (hr : n.renewal? r.id = none) : WroteLast (n :: journal) r := by
  rw [WroteLast, lastRegistration?_cons hq, renewedSince?_cons hq, hr, Option.none_or]
  exact h

/-- What a registration wrote is the last that was written. -/
lemma wroteLast_registered (hid : r.id = q.id) (hr : r.IsOf q) :
    WroteLast (.registered q via :: journal) r := by
  refine ⟨q, lastRegistration?_registered hid.symm, ?_⟩
  rw [renewedSince?, since_registered hid.symm]
  exact hr

/-- So is what a sweep wrote, if the worker has ever registered. -/
lemma wroteLast_renewed (h : Registered journal r) : WroteLast (.renewed r :: journal) r := by
  obtain ⟨q, via, hq, hid, -⟩ := h
  obtain ⟨q', hq'⟩ := Option.isSome_iff_exists.mp (lastRegistration?_isSome hq)
  have hrenewal : (Note.renewed r).renewal? r.id = some r := if_pos rfl
  refine ⟨q', ?_, ?_⟩
  · rw [lastRegistration?_cons rfl, ← hid]
    exact hq'
  · rw [renewedSince?_cons rfl, hrenewal]
    exact ⟨rfl, rfl, rfl⟩

/-- A record that only has another sign of life has what was written last as well. -/
lemma WroteLast.renews (h : WroteLast journal r₀) (hr : r.Renews r₀) : WroteLast journal r := by
  obtain ⟨q, hq, hlast⟩ := h
  rw [← hr.1] at hq hlast
  refine ⟨q, hq, ?_⟩
  cases hsince : renewedSince? r.id journal with
  | none =>
    rw [hsince] at hlast
    exact (hr.isOf_iff q).mpr hlast
  | some r' =>
    rw [hsince] at hlast
    exact hr.trans hlast

/-! ### Where it comes from -/

/-- A registration remains one as the journal grows. -/
lemma Registered.mono (h : Registered journal r) (hsub : journal ⊆ journal') :
    Registered journal' r := by
  obtain ⟨q, via, hq, hid, hr⟩ := h
  exact ⟨q, via, hsub hq, hid, hr⟩

/-- A record that only has another sign of life goes back to the same registration. -/
lemma Registered.renews (h : Registered journal r₀) (hr : r.Renews r₀) : Registered journal r := by
  obtain ⟨q, via, hq, hid, hof⟩ := h
  exact ⟨q, via, hq, hid.trans hr.1.symm, (hr.isOf_iff q).mpr hof⟩

/-- What was written last goes back to a registration, if what sweeps wrote does. -/
lemma WroteLast.registered_of (h : WroteLast journal r)
    (hj : ∀ r', .renewed r' ∈ journal → Registered journal r') : Registered journal r := by
  obtain ⟨q, hq, hlast⟩ := h
  cases hsince : renewedSince? r.id journal with
  | none =>
    rw [hsince] at hlast
    obtain ⟨via, hmem, hid⟩ := mem_of_lastRegistration? hq
    exact ⟨q, via, hmem, hid, hlast⟩
  | some r' =>
    rw [hsince] at hlast
    have hmem := (List.takeWhile_sublist _).subset (mem_of_renewedSince? hsince).1
    exact (hj r' hmem).renews hlast

/-- Registrations have weights of 32 bits. -/
lemma IsFounded.sized (h : IsFounded journal) (hq : .registered q via ∈ journal) :
    q.weight < Dialect.bound32 := by
  induction h with
  | nil => exact absurd hq (by simp)
  | cons hn _ ih =>
    rcases List.mem_cons.mp hq with rfl | hq
    · exact hn
    · exact ih hq

/-- What sweeps read and write comes from registrations. -/
lemma IsFounded.registered (h : IsFounded journal) :
    (∀ id r via, .examined id r via ∈ journal → r.id = id ∧ Registered journal r) ∧
      ∀ r, .renewed r ∈ journal → Registered journal r := by
  induction h with
  | nil => exact ⟨fun _ _ _ h => absurd h (by simp), fun _ h => absurd h (by simp)⟩
  | @cons n older hn _ ih =>
    have hsub : older ⊆ n :: older := List.subset_cons_self ..
    refine ⟨fun id r via hr => ?_, fun r hr => ?_⟩
    · rcases List.mem_cons.mp hr with rfl | hr
      · obtain ⟨hid, hlast⟩ := hn
        exact ⟨hid, (hlast.registered_of ih.2).mono hsub⟩
      · exact (ih.1 id r via hr).imp_right fun h => h.mono hsub
    · rcases List.mem_cons.mp hr with rfl | hr
      · obtain ⟨r₀, via, hr₀, hrenews⟩ := hn
        exact ((ih.1 _ r₀ via hr₀).2.renews hrenews).mono hsub
      · exact (ih.2 r hr).mono hsub

/-- What was written last comes from a registration. -/
lemma WroteLast.registered (h : WroteLast journal r) (hj : IsFounded journal) :
    Registered journal r :=
  h.registered_of hj.registered.2

/-- So have the records that go back to them. -/
lemma Registered.weight_lt (h : Registered journal r) (hj : IsFounded journal) :
    r.weight < Dialect.bound32 := by
  obtain ⟨q, via, hq, -, -, hweight⟩ := h
  rw [hweight]
  exact Nat.max_lt.mpr ⟨hj.sized hq, by decide⟩

/-! ### How it can be out of date -/

/-- Whether a record is that of the last registration, or was read before that and written back
after it. -/
def Accounted (journal : List Note) (r : WorkerRecord) : Prop :=
  (∃ q, lastRegistration? r.id journal = some q ∧ r.IsOf q) ∨ Restored journal r

/-- A record that is accounted for is so after any note but a registration. -/
lemma Accounted.cons (h : Accounted journal r) (hq : n.registration? r.id = none) :
    Accounted (n :: journal) r := by
  unfold Accounted Restored
  rw [lastRegistration?_cons hq, upTo_cons hq, since_cons hq]
  rcases h with h | ⟨r₀, via, r₁, hread, hwritten, hrenews⟩
  · exact .inl h
  · exact .inr ⟨r₀, via, r₁, hread, List.mem_cons_of_mem _ hwritten, hrenews⟩

/-- So is a record that only has another sign of life. -/
lemma Accounted.renews (h : Accounted journal r₀) (hr : r.Renews r₀) : Accounted journal r := by
  unfold Accounted Restored
  rw [hr.1]
  rcases h with ⟨q, hq, hof⟩ | ⟨r₁, via, r₂, hread, hwritten, hrenews, hr₀⟩
  · exact .inl ⟨q, hq, (hr.isOf_iff q).mpr hof⟩
  · exact .inr ⟨r₁, via, r₂, hread, hwritten, hrenews, hr.trans hr₀⟩

/-- What was written last is accounted for, if what sweeps wrote since the last registration is. -/
lemma WroteLast.accounted_of (h : WroteLast journal r)
    (hj : ∀ r', .renewed r' ∈ since r'.id journal → Accounted journal r') :
    Accounted journal r := by
  obtain ⟨q, hq, hlast⟩ := h
  cases hsince : renewedSince? r.id journal with
  | none =>
    rw [hsince] at hlast
    exact .inl ⟨q, hq, hlast⟩
  | some r' =>
    rw [hsince] at hlast
    obtain ⟨hmem, hid⟩ := mem_of_renewedSince? hsince
    rw [← hid] at hmem
    exact (hj r' hmem).renews hlast

/-- What sweeps have read and written since the last registration of a worker is accounted for.

**Proof sketch.** By induction on the journal. What a sweep reads was written last, which is
accounted for. What a sweep writes it has read: either since the last registration, and then the
record was accounted for, or before it, and then it has been restored. -/
lemma IsFounded.accounted (h : IsFounded journal) :
    (∀ r via, .examined r.id r via ∈ since r.id journal → Accounted journal r) ∧
      ∀ r, .renewed r ∈ since r.id journal → Accounted journal r := by
  induction h with
  | nil => exact ⟨fun _ _ h => absurd h (by simp [since]), fun _ h => absurd h (by simp [since])⟩
  | @cons n older hn _ ih =>
    refine ⟨fun r via hr => ?_, fun r hr => ?_⟩
    · obtain hq | ⟨q, via', rfl, hid⟩ := n.registration?_cases r.id
      · rw [since_cons hq] at hr
        rcases List.mem_cons.mp hr with rfl | hr
        · exact (hn.2.accounted_of ih.2).cons hq
        · exact (ih.1 r via hr).cons hq
      · rw [since_registered hid] at hr
        exact absurd hr (by simp)
    · obtain hq | ⟨q, via', rfl, hid⟩ := n.registration?_cases r.id
      · have hsince : since r.id (n :: older) = n :: since r.id older := since_cons hq
        rw [hsince] at hr
        rcases List.mem_cons.mp hr with rfl | hr
        · obtain ⟨r₀, via, hread, hrenews⟩ := hn
          rw [← since_append_upTo r.id older] at hread
          rcases List.mem_append.mp hread with hread | hread
          -- what is written was read since the last registration as well
          · rw [hrenews.1] at hread
            exact ((ih.1 r₀ via hread).renews hrenews).cons hq
          -- the worker has registered in between
          · refine .inr ⟨r₀, via, r, ?_, ?_, hrenews, hrenews⟩
            · rw [upTo_cons hq]
              exact hread
            · rw [hsince]
              exact List.mem_cons_self ..
        · exact (ih.2 r hr).cons hq
      · rw [since_registered hid] at hr
        exact absurd hr (by simp)

/-- What was written last is accounted for. -/
lemma WroteLast.accounted (h : WroteLast journal r) (hj : IsFounded journal) :
    Accounted journal r :=
  h.accounted_of hj.accounted.2

end Journal

/-! ## The store and the journal -/

namespace Manager

/-- A site at which the workers are those of a registry, each with what was written last. -/
structure Tallies (b : WorkerBackend) (reg : Registry) (w : Site) (journal : List Note) : Prop where
  holds : b.Holds reg w
  deadline : (w.clock.deadline? b.lease).isSome = true
  live : ∀ id l, reg.live? b.lease w.clock id = some l →
    l.record.id = id ∧ Journal.WroteLast journal l.record

variable {b : WorkerBackend} {reg : Registry} {w w' : Site} {journal : List Note} {n : Note}

/-- A note that is about no writing. -/
lemma Tallies.cons (h : Tallies b reg w journal) (hq : ∀ id, n.registration? id = none)
    (hr : ∀ id, n.renewal? id = none) : Tallies b reg w (n :: journal) where
  holds := h.holds
  deadline := h.deadline
  live id l hl := (h.live id l hl).imp_right fun h => h.cons (hq _) (hr _)

/-- A record that was written, and the note about it. -/
lemma Tallies.write (h : Tallies b reg w journal) {r : WorkerRecord} {x : Option Lease}
    (hx : ∀ l, x = some l → l.record.id = r.id ∧ Journal.WroteLast (n :: journal) l.record)
    (hq : ∀ id, id ≠ r.id → n.registration? id = none)
    (hr : ∀ id, id ≠ r.id → n.renewal? id = none)
    (hholds : b.Holds (Function.update reg r.id x) w') (hclock : w'.clock = w.clock) :
    Tallies b (Function.update reg r.id x) w' (n :: journal) where
  holds := hholds
  deadline := hclock ▸ h.deadline
  live id l hl := by
    rw [hclock, Registry.live?_update] at hl
    split at hl
    · rename_i hid
      rw [hid]
      exact hx l (Option.filter_eq_some_iff.mp hl).1
    · rename_i hid
      obtain ⟨hlid, hlast⟩ := h.live id l hl
      rw [← hlid] at hid
      exact ⟨hlid, hlast.cons (hq _ hid) (hr _ hid)⟩

section Calls

variable (hb : b.IsValid) (h : Tallies b reg w journal)

include hb

/-- A sign of life that is written. -/
lemma holds_of_heartbeat (hholds : b.Holds reg w)
    (hdeadline : (w.clock.deadline? b.lease).isSome = true) {r r' : WorkerRecord}
    (hr : r.weight < Dialect.bound32)
    (hrun : (WorkerCall.heartbeat r).perform b.store w = (.ok (.record r'), w')) :
    r' = r.touch w.clock.wall ∧ b.Holds (Function.update reg r.id (some (.start w.clock r'))) w' ∧
      w'.clock = w.clock := by
  obtain ⟨hanswers, hholds', hclock⟩ := WorkerBackend.answers_of_perform hb hholds hdeadline
    (.heartbeat r) (decide_eq_true hr) hrun
  obtain ⟨rfl, hnext⟩ := Registry.next_of_heartbeat hanswers
  rw [hnext] at hholds'
  exact ⟨rfl, hholds', hclock⟩

include h

/-- A call that is made at such a site is answered from the registry, and leads to what follows from
it. -/
lemma Tallies.answers (call : WorkerCall) (hsized : call.isSized = true)
    {a : Except Failure WorkerAnswer} (hrun : call.perform b.store w = (a, w')) :
    reg.Answers b.lease w.clock call a ∧ b.Holds (reg.next b.lease w.clock call) w' ∧
      w'.clock = w.clock :=
  WorkerBackend.answers_of_perform hb h.holds h.deadline call hsized hrun

/-- As time passes, leases end, and the others are those there were. -/
lemma Tallies.later {c : Clock} (hc : w.clock.uptime.nanos ≤ c.uptime.nanos)
    (hdeadline : (c.deadline? b.lease).isSome = true) : Tallies b reg (w.at c) journal := by
  refine ⟨(WorkerBackend.refines hb).later c h.holds hc, hdeadline, fun id x hx => ?_⟩
  have hx' : reg.live? b.lease c id = some x := hx
  rw [Registry.live?_later hc] at hx'
  exact h.live id x (Option.filter_eq_some_iff.mp hx').1

/-- A call that leaves the registry leaves the site in step with the journal. -/
lemma Tallies.unchanged (call : WorkerCall) (hsized : call.isSized = true)
    {a : Except Failure WorkerAnswer} (hrun : call.perform b.store w = (a, w'))
    (hnext : reg.next b.lease w.clock call = reg) : Tallies b reg w' journal := by
  obtain ⟨-, hholds, hclock⟩ := h.answers hb call hsized hrun
  rw [hnext] at hholds
  refine ⟨hholds, by rw [hclock]; exact h.deadline, fun id l hl => h.live id l ?_⟩
  rw [← hclock]
  exact hl

/-- So does a call that fails. -/
lemma Tallies.refused (call : WorkerCall) (hsized : call.isSized = true) {e : Failure}
    (hrun : call.perform b.store w = (.error e, w')) : Tallies b reg w' journal :=
  h.unchanged hb call hsized hrun (Registry.next_of_error (h.answers hb call hsized hrun).1)

/-- A record that is read has what was written last. -/
lemma Tallies.get {id : String} {r : WorkerRecord}
    (hrun : (WorkerCall.get id).perform b.store w = (.ok (.record r), w')) :
    r.id = id ∧ Journal.WroteLast journal r ∧ Tallies b reg w' journal := by
  obtain ⟨hanswers, -, -⟩ := h.answers hb (.get id) rfl hrun
  obtain ⟨l, hl, rfl⟩ := Registry.live?_of_get hanswers
  obtain ⟨hid, hlast⟩ := h.live id l hl
  exact ⟨hid, hlast, h.unchanged hb (.get id) rfl hrun (Registry.next_of_isRead rfl)⟩

end Calls

/-- What a manager's ledger is like at all times: the store holds what was written last, and that
comes from registrations. -/
structure Ledger.IsAttested (b : WorkerBackend) (l : Ledger Site) : Prop where
  founded : Journal.IsFounded l.journal
  tallies : ∃ reg, Tallies b reg l.world l.journal

/-- A note that is about no writing keeps the store and the journal in step. -/
lemma Ledger.IsAttested.cons {b : WorkerBackend} {l : Ledger Site} (h : l.IsAttested b)
    {pool : Pool} {n : Note} (hn : Journal.Founds l.journal n)
    (hq : ∀ id, n.registration? id = none) (hr : ∀ id, n.renewal? id = none) :
    Ledger.IsAttested b ⟨l.world, pool, n :: l.journal⟩ where
  founded := .cons hn h.founded
  tallies := by
    obtain ⟨reg, htallies⟩ := h.tallies
    exact ⟨reg, htallies.cons hq hr⟩

section Moves

variable {l : Ledger Site} (hb : b.IsValid) (h : l.IsAttested b)

include hb h

/-- A registration whose record is gone before its first sign of life is written.

**Proof sketch.** That the sign of life fails means that the record has run out already. So the
registry has no lease for the worker although one was written, and the others are as they were. -/
lemma Ledger.IsAttested.unheard {r : WorkerRecord} {e : Failure} {w₁ w₂ : Site}
    (hr : r.weight < Dialect.bound32)
    (hadd : (WorkerCall.add r).perform b.store l.world = (.ok .nothing, w₁))
    (hheard : (WorkerCall.heartbeat r).perform b.store w₁ = (.error e, w₂)) :
    Ledger.IsAttested b { l with world := w₂ } := by
  obtain ⟨hfounded, reg, htallies⟩ := h
  obtain ⟨-, hholds, hclock⟩ := htallies.answers hb (.add r) (decide_eq_true hr) hadd
  have hdeadline : (w₁.clock.deadline? b.lease).isSome = true := by
    rw [hclock]
    exact htallies.deadline
  obtain ⟨hanswers, hholds', hclock'⟩ := WorkerBackend.answers_of_perform hb hholds hdeadline
    (.heartbeat r) (decide_eq_true hr) hheard
  rw [Registry.next_of_error hanswers] at hholds'
  rw [hclock] at hanswers hclock'
  obtain ⟨reg', hreg'⟩ : ∃ reg', reg' = reg.next b.lease l.world.clock (.add r) := ⟨_, rfl⟩
  rw [← hreg'] at hanswers hholds'
  have hgone : reg'.live? b.lease l.world.clock r.id = none := by
    rw [Registry.Answers] at hanswers
    split at hanswers
    · exact absurd hanswers (by simp)
    · rename_i hnot
      exact Option.not_isSome_iff_eq_none.mp hnot
  refine ⟨hfounded, reg', hholds', by rw [hclock']; exact htallies.deadline, fun id x hx => ?_⟩
  rw [hclock'] at hx
  have hid : id ≠ r.id := by
    rintro rfl
    exact absurd (hgone.symm.trans hx) (by simp)
  rw [hreg', Registry.next, Registry.live?_update, if_neg hid] at hx
  exact htallies.live id x hx

/-- A registration writes its own record, and its first sign of life writes it again.

**Proof sketch.** The sign of life writes the record of the registration with the same time to live,
in place of the one that was just written. So what was written last for the worker is what it has
registered with. -/
lemma Ledger.IsAttested.registered {q : Registration} {t : Timestamp} {r : WorkerRecord}
    {w₁ w₂ : Site} (hq : q.weight < Dialect.bound32)
    (hadd : (WorkerCall.add (.ofRegistration q t)).perform b.store l.world = (.ok .nothing, w₁))
    (hheard : (WorkerCall.heartbeat (.ofRegistration q t)).perform b.store w₁ =
      (.ok (.record r), w₂)) : (l.greet w₂ r (.registered q)).IsAttested b := by
  obtain ⟨hfounded, reg, htallies⟩ := h
  obtain ⟨record, hrecord⟩ : ∃ r, r = WorkerRecord.ofRegistration q t := ⟨_, rfl⟩
  rw [← hrecord] at hadd hheard
  have hsized : record.weight < Dialect.bound32 := by
    rw [hrecord]
    exact weight_ofRegistration_lt t hq
  obtain ⟨-, hholds, hclock⟩ := htallies.answers hb (.add record) (decide_eq_true hsized) hadd
  have hdeadline : (w₁.clock.deadline? b.lease).isSome = true := by
    rw [hclock]
    exact htallies.deadline
  obtain ⟨hr, hholds', hclock'⟩ := holds_of_heartbeat hb hholds hdeadline hsized hheard
  have hwrite : Function.update (reg.next b.lease l.world.clock (.add record)) record.id
      (some (.start w₁.clock r)) = Function.update reg r.id (some (.start w₁.clock r)) := by
    rw [hr]
    exact Function.update_idem _ _ _
  rw [hwrite] at hholds'
  have hid : r.id = q.id := by
    rw [hr, hrecord]
    rfl
  have hof : r.IsOf q := by
    rw [hr, hrecord]
    exact ⟨rfl, rfl⟩
  refine ⟨.cons hq hfounded, _, htallies.write (fun x hx => ?_)
    (fun id hne => if_neg fun heq => hne (heq.symm.trans hid.symm)) (fun _ _ => rfl) hholds'
    (hclock'.trans hclock)⟩
  obtain rfl := Option.some.inj hx
  exact ⟨rfl, Journal.wroteLast_registered hid hof⟩

/-- A sign of life writes the record that has just been read, which has what was written last. -/
lemma Ledger.IsAttested.heard {id : String} {r₀ r : WorkerRecord} {w₁ w₂ : Site}
    (hget : (WorkerCall.get id).perform b.store l.world = (.ok (.record r₀), w₁))
    (hheard : (WorkerCall.heartbeat r₀).perform b.store w₁ = (.ok (.record r), w₂)) :
    (l.greet w₂ r .heard).IsAttested b := by
  obtain ⟨hfounded, reg, htallies⟩ := h
  obtain ⟨hid, hlast, htallies'⟩ := htallies.get hb hget
  have hsized := (hlast.registered hfounded).weight_lt hfounded
  obtain ⟨hr, hholds, hclock⟩ := holds_of_heartbeat hb htallies'.holds htallies'.deadline hsized
    hheard
  have hrenews : r.Renews r₀ := by
    rw [hr]
    exact r₀.renews_touch _
  rw [← hrenews.1] at hholds
  refine ⟨.cons trivial hfounded, _, htallies'.write (fun x hx => ?_) (fun _ _ => rfl)
    (fun _ _ => rfl) hholds hclock⟩
  obtain rfl := Option.some.inj hx
  exact ⟨rfl, (hlast.renews hrenews).cons rfl rfl⟩

/-- A sweep writes the record that it read. -/
lemma Ledger.IsAttested.renewed {id : String} {r r' : WorkerRecord} {via : Contact} {w : Site}
    (hexamined : .examined id r via ∈ l.journal)
    (hheard : (WorkerCall.heartbeat r).perform b.store l.world = (.ok (.record r'), w)) :
    Ledger.IsAttested b { l with world := w, journal := .renewed r' :: l.journal } := by
  obtain ⟨hfounded, reg, htallies⟩ := h
  obtain ⟨hid, hregistered⟩ := hfounded.registered.1 id r via hexamined
  obtain ⟨hr, hholds, hclock⟩ := holds_of_heartbeat hb htallies.holds htallies.deadline
    (hregistered.weight_lt hfounded) hheard
  have hrenews : r'.Renews r := by
    rw [hr]
    exact r.renews_touch _
  rw [← hrenews.1] at hholds
  have hread : .examined r'.id r via ∈ l.journal := by
    rw [hrenews.1, hid]
    exact hexamined
  refine ⟨.cons ⟨r, via, hread, hrenews⟩ hfounded, _, htallies.write (fun x hx => ?_)
    (fun _ _ => rfl) (fun id hne => if_neg fun heq => hne heq.symm) hholds hclock⟩
  obtain rfl := Option.some.inj hx
  exact ⟨rfl, Journal.wroteLast_renewed (hregistered.renews hrenews)⟩

/-- A sign of life that fails leaves the record that was read before it. -/
lemma Ledger.IsAttested.unnoticed {id : String} {r : WorkerRecord} {e : Failure} {w₁ w₂ : Site}
    (hget : (WorkerCall.get id).perform b.store l.world = (.ok (.record r), w₁))
    (hheard : (WorkerCall.heartbeat r).perform b.store w₁ = (.error e, w₂)) :
    Ledger.IsAttested b { l with world := w₂ } := by
  obtain ⟨hfounded, reg, htallies⟩ := h
  obtain ⟨-, hlast, htallies'⟩ := htallies.get hb hget
  have hsized := (hlast.registered hfounded).weight_lt hfounded
  exact ⟨hfounded, reg, htallies'.refused hb (.heartbeat r) (decide_eq_true hsized) hheard⟩

/-- What a sweep reads of a worker has what was written last. -/
lemma Ledger.IsAttested.examined {id : String} {r : WorkerRecord} {w : Site} {pool : Pool}
    {via : Contact} (hget : (WorkerCall.get id).perform b.store l.world = (.ok (.record r), w)) :
    Ledger.IsAttested b ⟨w, pool, .examined id r via :: l.journal⟩ := by
  obtain ⟨hfounded, reg, htallies⟩ := h
  obtain ⟨hid, hlast, htallies'⟩ := htallies.get hb hget
  exact Ledger.IsAttested.cons (l := ⟨w, pool, l.journal⟩) ⟨hfounded, reg, htallies'⟩
    ⟨hid, hlast⟩ (fun _ => rfl) fun _ => rfl

/-- A sweep that cannot write the record that it read leaves the one that is there. -/
lemma Ledger.IsAttested.unrenewed {id : String} {r : WorkerRecord} {via : Contact} {e : Failure}
    {w : Site} (hexamined : .examined id r via ∈ l.journal)
    (hheard : (WorkerCall.heartbeat r).perform b.store l.world = (.error e, w)) :
    Ledger.IsAttested b { l with world := w } := by
  obtain ⟨hfounded, reg, htallies⟩ := h
  have hsized := (hfounded.registered.1 id r via hexamined).2.weight_lt hfounded
  exact ⟨hfounded, reg, htallies.refused hb (.heartbeat r) (decide_eq_true hsized) hheard⟩

/-- A worker that is taken out of the store. -/
lemma Ledger.IsAttested.withdrawn {id : String} {w : Site} {pool : Pool} {n : Note}
    (hrun : (WorkerCall.remove id).perform b.store l.world = (.ok .nothing, w))
    (hn : Journal.Founds l.journal n) (hq : ∀ id, n.registration? id = none)
    (hr : ∀ id, n.renewal? id = none) :
    Ledger.IsAttested b ⟨w, pool, n :: l.journal⟩ := by
  obtain ⟨hfounded, reg, htallies⟩ := h
  obtain ⟨-, hholds, hclock⟩ := htallies.answers hb (.remove id) rfl hrun
  have htallies' : Tallies b (Function.update reg id none) w l.journal := by
    refine ⟨hholds, by rw [hclock]; exact htallies.deadline, fun id' x hx => ?_⟩
    rw [hclock, Registry.live?_update] at hx
    split at hx
    · exact absurd hx (by simp)
    · exact htallies.live id' x hx
  exact Ledger.IsAttested.cons (l := ⟨w, pool, l.journal⟩) ⟨hfounded, _, htallies'⟩ hn hq hr

end Moves

/-- **Every move keeps the store and the journal in step.**

**Proof sketch.** By cases on the move. A move that writes nothing leaves the registry; one that
writes a record writes one that was registered, read just now, or read by a sweep; and one that
removes a worker leaves the others. -/
theorem Move.attested {m : Manager Site} (hb : b.IsValid) (hm : m.workers = b.store)
    {l l' : Ledger Site} (hmove : Move m (Site.Later b.lease) l l') (h : l.IsAttested b) :
    l'.IsAttested b := by
  obtain ⟨hfounded, reg, htallies⟩ := id h
  cases hmove with
  | idle hlater =>
    obtain ⟨c, rfl, hc, hdeadline⟩ := hlater
    exact ⟨hfounded, reg, htallies.later hb hc hdeadline⟩
  | looked call hread =>
    rw [hm]
    exact ⟨hfounded, reg, htallies.unchanged hb call (WorkerCall.isSized_of_isRead hread) rfl
      (Registry.next_of_isRead hread)⟩
  | refused call hsized hrun =>
    rw [hm] at hrun
    exact ⟨hfounded, reg, htallies.refused hb call hsized hrun⟩
  | unheard hq hadd hheard =>
    rw [hm] at hadd hheard
    exact h.unheard hb (weight_ofRegistration_lt _ hq) hadd hheard
  | registered hq hadd hheard =>
    rw [hm] at hadd hheard
    exact h.registered hb hq hadd hheard
  | heard hget hheard =>
    rw [hm] at hget hheard
    exact h.heard hb hget hheard
  | unnoticed hget hheard =>
    rw [hm] at hget hheard
    exact h.unnoticed hb hget hheard
  | resolved r => exact ⟨hfounded, reg, htallies⟩
  | examined hget =>
    rw [hm] at hget
    exact h.examined hb hget
  | checked status? => exact h.cons trivial (fun _ => rfl) fun _ => rfl
  | @served n note _ hservice =>
    cases note with
    | dispatched | reported => exact h.cons trivial (fun _ => rfl) fun _ => rfl
    | _ => exact absurd hservice (by simp [Note.service?])
  | renewed hexamined hheard =>
    rw [hm] at hheard
    exact h.renewed hb hexamined hheard
  | unrenewed hexamined hheard =>
    rw [hm] at hheard
    exact h.unrenewed hb hexamined hheard
  | removed hrun | evicted _ hrun =>
    rw [hm] at hrun
    exact h.withdrawn hb hrun trivial (fun _ => rfl) fun _ => rfl
  | forgotten id => exact ⟨hfounded, reg, htallies⟩

/-- The state of a manager that has done nothing yet, with a store in which there is nothing. -/
structure State.IsFresh (b : WorkerBackend) (s : State Site) : Prop where
  pool : s.pool = .empty
  journal : s.journal = []
  vacant : b.IsVacant s.world
  deadline : (s.world.clock.deadline? b.lease).isSome = true

/-- Where nothing has been done, the journal and the store are both empty. -/
lemma State.IsFresh.attested {b : WorkerBackend} {s : State Site} (h : s.IsFresh b) :
    s.ledger.IsAttested b where
  founded := by
    show Journal.IsFounded s.journal
    rw [h.journal]
    exact .nil
  tallies := ⟨.empty, WorkerBackend.holds_empty h.vacant, h.deadline, fun _ _ hl => by cases hl⟩

end Manager

open Manager (State)

/-- **A worker's record is that of its last registration unless a sweep has written another one
since.** Such a sweep has read it before that registration, and what it wrote back is still that of
a registration, but of an earlier one.

**Proof sketch.** Every move keeps it that the record that can be read for a worker is what was
written last, by a sweep or by a registration, that what a sweep reads is what was written last at
that time, and that what it writes is what it read. -/
theorem registration_kept_iff {b : WorkerBackend} (hb : b.IsValid) {c : Scheduler Site}
    (hc : c.stores.workers = b.store) {s : State Site} (hs : s.IsFresh b)
    {config : Configuration (State Site)} (h : c.Reaches (Site.Later b.lease) s config)
    {id : String} {r : WorkerRecord}
    (hget : (c.stores.workers.get id config.state.world).1 = .ok r) :
    ∃ q, Journal.lastRegistration? id config.state.journal = some q ∧
      (r.IsOf q ↔ ∀ r', Journal.renewedSince? id config.state.journal = some r' → r'.IsOf q) ∧
      (r.IsOf q ∨ Journal.Restored config.state.journal r) ∧
      ∃ q' via, .registered q' via ∈ config.state.journal ∧ q'.id = id ∧ r.IsOf q' := by
  have hkeyed : s.pool.IsKeyed := by
    rw [hs.pool]
    exact Pool.isKeyed_empty
  have hattested : config.state.ledger.IsAttested b :=
    Manager.keeps_of_leads (fun _ _ hmove => hmove.attested hb hc) (h.leads hkeyed) hs.attested
  obtain ⟨hfounded, reg, htallies⟩ := hattested
  rcases hrun : c.stores.workers.get id config.state.world with ⟨a, w⟩
  rw [hrun] at hget
  obtain rfl : a = .ok r := hget
  have hperform : (WorkerCall.get id).perform b.store config.state.world =
      (.ok (.record r), w) := by
    rw [hc] at hrun
    rw [WorkerCall.perform, Query.map_apply, hrun]
    rfl
  obtain ⟨rfl, hlast, -⟩ := htallies.get hb hperform
  have haccounted := hlast.accounted hfounded
  obtain ⟨q', via, hmem, hqid, hof⟩ := hlast.registered hfounded
  obtain ⟨q, hq, hwrote⟩ := hlast
  refine ⟨q, hq, ?_, ?_, q', via, hmem, hqid, hof⟩
  -- the record is the one registered, or the one that a sweep has written since
  · have hjournal : config.state.ledger.journal = config.state.journal := rfl
    rw [hjournal] at hwrote
    cases hsince : Journal.renewedSince? r.id config.state.journal with
    | none =>
      rw [hsince] at hwrote
      exact ⟨fun _ _ hr => absurd hr (by simp), fun _ => hwrote⟩
    | some r' =>
      rw [hsince] at hwrote
      have hiff : r.IsOf q ↔ r'.IsOf q := hwrote.isOf_iff q
      refine ⟨fun hr r'' hr'' => ?_, fun hall => hiff.mpr (hall r' rfl)⟩
      obtain rfl := Option.some.inj hr''
      exact hiff.mp hr
  · refine haccounted.imp_left fun hlatest => ?_
    obtain ⟨q'', hq'', hof''⟩ := hlatest
    obtain rfl := Option.some.inj (hq.symm.trans hq'')
    exact hof''

/-- A sweep during which nothing else happens leaves a registration as it is. -/
theorem registration_kept_by_sweep :
    let config := Scheduler.swept Scheduler.wellAnswer
    (Scheduler.strict.stores.workers.get "w" config.state.world).1 = .ok ⟨"w", "a:1", .epoch, 3⟩ ∧
      ∃ q, Journal.lastRegistration? "w" config.state.journal = some q ∧
        (WorkerRecord.IsOf ⟨"w", "a:1", .epoch, 3⟩ q ↔
          ∀ r', Journal.renewedSince? "w" config.state.journal = some r' → r'.IsOf q) ∧
        (WorkerRecord.IsOf ⟨"w", "a:1", .epoch, 3⟩ q ∨
          Journal.Restored config.state.journal ⟨"w", "a:1", .epoch, 3⟩) := by
  have hget : (Scheduler.strict.stores.workers.get "w"
      (Scheduler.swept Scheduler.wellAnswer).state.world).1 = .ok ⟨"w", "a:1", .epoch, 3⟩ := by
    decide +kernel
  obtain ⟨q, hq, hiff, hor, -⟩ := registration_kept_iff (b := .memory (.ofSeconds 60)) trivial rfl
    (s := Scheduler.initial) ⟨rfl, rfl, rfl, rfl⟩ (Scheduler.reaches_swept _) hget
  exact ⟨hget, q, hq, hiff, hor⟩

/-- A worker that registers anew during its health check, at another address and with another
weight, is put back to where it was when the check is passed. -/
theorem registration_lost_to_sweep :
    let config := Scheduler.moved Scheduler.wellAnswer
    Scheduler.strict.Reaches (Site.Later (.ofSeconds 60)) Scheduler.initial config ∧
      Journal.lastRegistration? "w" config.state.journal = some ⟨"w", "b:2", 9⟩ ∧
      (Scheduler.strict.stores.workers.get "w" config.state.world).1 =
        .ok ⟨"w", "a:1", .epoch, 3⟩ :=
  ⟨Scheduler.reaches_moved _, by decide +kernel, by decide +kernel⟩

end ConversionScheduler
