import ConversionScheduler.Proofs.Records
import ConversionScheduler.Proofs.RedisServer
import ConversionScheduler.Proofs.Registry
/-!
# The workers in Redis are a registry

In Redis a lease is a key that runs out, and a set lists the ids. The two drift apart: a record runs
out without leaving the set, and is struck off whenever it is met. What holds all the time is that
the keys alone are the registry and that the set lists every id whose lease has not run out.

## Main definitions

* `RedisWorkers.Holds` — a server holds the workers of a registry.
* `RedisWorkers.HoldsAt` — the same for a site with a plain line.

## Main results

* `RedisWorkers.infoKey_injective`, `RedisWorkers.infoKey_ne_setKey` — the keys do not collide.
* `RedisWorkers.run_add`, `RedisWorkers.run_remove`, `RedisWorkers.run_get`, `RedisWorkers.run_ids`,
  `RedisWorkers.run_heartbeat` — the operations.
* `RedisWorkers.refines` — the workers in Redis answer as the registry does.
-/

namespace ConversionScheduler

open Redis (Server Reply Dialogue Line)

namespace RedisWorkers

variable (w : RedisWorkers)

/-! ## Keys -/

/-- Workers with different ids have records under different keys. -/
lemma infoKey_injective : Function.Injective w.infoKey := by
  intro a b h
  have hlist := congrArg String.toList h
  simp only [infoKey, Redis.Connection.key, String.toList_append,
    List.append_cancel_left_eq] at hlist
  exact String.toList_inj.mp hlist

/-- No id makes the key of a record that of the set. -/
lemma infoKey_ne_setKey (id : String) : w.infoKey id ≠ w.setKey := by
  intro h
  have hlist := congrArg String.toList h
  simp only [infoKey, setKey, Redis.Connection.key, String.toList_append, List.append_assoc,
    List.append_cancel_left_eq] at hlist
  simp at hlist

/-! ## What the server holds -/

/-- How long a record lasts in Redis: the time to live, in whole seconds. -/
def lease : Duration := .ofSeconds w.expiry

/-- A record lasts at least a second, as the server refuses an expiry of zero. -/
lemma expiry_pos : 0 < w.expiry := Nat.lt_of_lt_of_le Nat.zero_lt_one (Nat.le_max_right _ _)

/-- A lease that begins now has not run out. -/
lemma lt_lease (now : Clock) : now.uptime.nanos < now.uptime.nanos + w.lease.nanos := by
  have hpos : 0 < w.expiry * 1000000000 := Nat.mul_pos w.expiry_pos (by decide)
  exact Nat.lt_add_of_pos_right hpos

/-- The entry of a lease. -/
def entryOf (l : Lease) : Redis.Entry :=
  ⟨.text (payload l.record), some ⟨l.written.nanos + w.lease.nanos⟩⟩

/-- Whether a server holds the workers of a registry. The set may list ids whose records have run
out. -/
structure Holds (m : Registry) (now : Clock) (server : Server) : Prop where
  clock : server.clock = now.uptime
  listed : ∃ ms, ms.Nodup ∧ server.HoldsSet w.setKey ms ∧
    ∀ id, (m.live? w.lease now id).isSome = true → id ∈ ms
  live : ∀ id, server.entry? (w.infoKey id) = (m.live? w.lease now id).map w.entryOf
  sized : ∀ id l, m.live? w.lease now id = some l → l.record.weight < Dialect.bound32

variable {w} {m : Registry} {now : Clock} {server : Server}

/-- An entry on the server lives as long as its lease. -/
lemma isLive_entryOf (h : server.clock = now.uptime) (l : Lease) :
    server.isLive (w.entryOf l) = decide (now.uptime.nanos < l.written.nanos + w.lease.nanos) := by
  rw [← h]
  rfl

/-- A server that holds a registry goes on holding it as time passes. Records run out, and the ids
they leave in the set do no harm.

**Proof sketch.** The records that are live later are live now, so the listing and the bounds still
cover them. An entry that has run out is the one of a lease that is over. -/
lemma Holds.later (h : w.Holds m now server) {c : Clock}
    (hc : now.uptime.nanos ≤ c.uptime.nanos) : w.Holds m c { server with clock := c.uptime } := by
  have hclock : server.clock.nanos ≤ c.uptime.nanos := by rw [h.clock]; exact hc
  have hlive : ∀ id, m.live? w.lease c id = (m.live? w.lease now id).filter fun l =>
      c.uptime.nanos < l.written.nanos + w.lease.nanos := fun id => Registry.live?_later hc id
  have hsub : ∀ id l, m.live? w.lease c id = some l → m.live? w.lease now id = some l := by
    intro id l hl
    rw [hlive id] at hl
    exact (Option.filter_eq_some_iff.mp hl).1
  refine ⟨rfl, ?_, fun id => ?_, fun id l hl => h.sized id l (hsub id l hl)⟩
  · obtain ⟨ms, hnodup, hset, hmem⟩ := h.listed
    refine ⟨ms, hnodup, hset.later hclock, fun id hid => ?_⟩
    obtain ⟨l, hl⟩ := Option.isSome_iff_exists.mp hid
    exact hmem id (by rw [hsub id l hl]; rfl)
  · rw [Server.entry?_later server hclock, h.live id, hlive id]
    cases m.live? w.lease now id with
    | none => rfl
    | some l =>
      have hl : { server with clock := c.uptime }.isLive (w.entryOf l) =
          decide (c.uptime.nanos < l.written.nanos + w.lease.nanos) := isLive_entryOf rfl l
      by_cases hc : c.uptime.nanos < l.written.nanos + w.lease.nanos <;>
        simp [Option.filter_some, hl, hc]

/-! ## The operations -/

/-- A record that is written now is there. -/
lemma Holds.isLive_start (h : w.Holds m now server) (r : WorkerRecord) :
    server.isLive (w.entryOf (.start now r)) = true := by
  rw [isLive_entryOf h.clock]
  exact decide_eq_true (lt_lease w now)

/-- A registration gives the worker a lease at once and leaves the others. -/
lemma live?_update_start (r : WorkerRecord) (id : String) :
    Registry.live? w.lease now (Function.update m r.id (some (.start now r))) id =
      if id = r.id then some (.start now r) else m.live? w.lease now id := by
  rw [Registry.live?_update]
  simp [Option.filter_some, Lease.start, lt_lease w now]

/-- A server on which one record was written, and on which its id is listed.

**Proof sketch.** The live records afterwards are the one written and the others that were live
before, and for each of them the entry, the listing and the bound on the weight are told apart by
its id. -/
lemma Holds.write (h : w.Holds m now server) {r : WorkerRecord} (hr : r.weight < Dialect.bound32)
    {server' : Server} (hclock : server'.clock = server.clock)
    (hlisted : ∃ ms, ms.Nodup ∧ server'.HoldsSet w.setKey ms ∧ r.id ∈ ms ∧
      ∀ id, (m.live? w.lease now id).isSome = true → id ∈ ms)
    (hentries : ∀ id, server'.entry? (w.infoKey id) =
      if id = r.id then some (w.entryOf (.start now r)) else server.entry? (w.infoKey id)) :
    w.Holds (Function.update m r.id (some (.start now r))) now server' := by
  have hwrite : ∀ id, Registry.live? w.lease now (Function.update m r.id (some (.start now r))) id =
      if id = r.id then some (.start now r) else m.live? w.lease now id :=
    live?_update_start r
  refine ⟨hclock.trans h.clock, ?_, fun id => ?_, fun id l hl => ?_⟩
  · obtain ⟨ms, hnodup, hset, hid, hmem⟩ := hlisted
    refine ⟨ms, hnodup, hset, fun id hlive => ?_⟩
    rw [hwrite id] at hlive
    split at hlive
    · rename_i heq
      exact heq ▸ hid
    · exact hmem id hlive
  · rw [hentries id, hwrite id]
    split
    · rfl
    · exact h.live id
  · rw [hwrite id] at hl
    split at hl
    · obtain rfl := Option.some.inj hl
      exact hr
    · exact h.sized id l hl

section Operations

variable (hmax : w.expiry < Server.maxExpiry)

include hmax

/-- A record that is there may be written, and so may one that need not be. -/
lemma set_record (h : w.Holds m now server) (r : WorkerRecord) (onlyPresent : Bool)
    (hp : onlyPresent = false ∨ (m.live? w.lease now r.id).isSome = true) :
    server.execute (.set (w.infoKey r.id) (payload r) (some w.expiry) onlyPresent) =
      (.status "OK", server.put (w.infoKey r.id) (w.entryOf (.start now r))) := by
  have hpresent : onlyPresent = false ∨ (server.entry? (w.infoKey r.id)).isSome = true := by
    rw [h.live r.id]
    simpa using hp
  have hdeadline : w.entryOf (.start now r) =
      ⟨.text (payload r), some ⟨server.clock.nanos + w.expiry * 1000000000⟩⟩ := by
    rw [entryOf, h.clock]
    rfl
  rw [Server.execute, Server.set_of_expiry w.expiry_pos hmax hpresent, hdeadline]

/-- A registration succeeds, and the server then holds the registry with the new lease.

**Proof sketch.** The transaction sets the record and adds the id to the set. The set lists the id
from then on, and the entries are those of before but for the one of the worker, so `Holds.write`
applies. -/
lemma run_add (h : w.Holds m now server) {r : WorkerRecord} (hr : r.weight < Dialect.bound32) :
    ∃ server', (w.add r).run server = (.ok (), server') ∧
      w.Holds (Function.update m r.id (some (.start now r))) now server' := by
  obtain ⟨ms, hnodup, hset, hmem⟩ := h.listed
  have hput := Server.entry?_put server (h.isLive_start r) (w.infoKey r.id)
  have hset' : (server.put (w.infoKey r.id) (w.entryOf (.start now r))).HoldsSet w.setKey ms := by
    rw [Server.HoldsSet, hput, if_neg (infoKey_ne_setKey w r.id).symm]
    exact hset
  obtain ⟨k, server', hsadd, hlisted, hother, hclock⟩ := Server.execute_sadd hset' r.id
  have hexec : server.executeAll [.set (w.infoKey r.id) (payload r) (some w.expiry) false,
      .sadd w.setKey [r.id]] = ([.status "OK", .integer k], server') := by
    simp only [Server.executeAll, set_record hmax h r false (.inl rfl), hsadd]
  refine ⟨server', Dialogue.run_transact hexec rfl, h.write hr hclock ?_ fun id => ?_⟩
  · refine ⟨_, ?_, hlisted, ?_, fun id hid => ?_⟩
    · split
      · exact hnodup
      · rename_i hnotin
        refine (sortIds_perm _).nodup_iff.mpr (List.nodup_append.mpr ⟨hnodup, by simp, ?_⟩)
        rintro a ha b hb rfl
        exact hnotin (List.mem_singleton.mp hb ▸ ha)
    · split <;> simp_all
    · have := hmem id hid
      split <;> simp_all
  · rw [hother _ (infoKey_ne_setKey w id), hput]
    simp only [(infoKey_injective w).eq_iff]

/-- A sign of life renews the lease of a worker that has one, and reports any other as not found.

**Proof sketch.** `SET` with `XX` replies with nil just if there is no entry under the key, that is,
if the lease has run out or never was. Otherwise only the entry changes. The id is in the set
already, as the worker was live, so `Holds.write` applies again. -/
lemma run_heartbeat (h : w.Holds m now server) {r : WorkerRecord}
    (hr : r.weight < Dialect.bound32) :
    ∃ server', (w.heartbeat now.wall r).run server =
        (if (m.live? w.lease now r.id).isSome then .ok (r.touch now.wall)
          else .error (.workerNotFound r.id), server') ∧
      w.Holds (m.next w.lease now (.heartbeat r)) now server' := by
  have hid : (r.touch now.wall).id = r.id := rfl
  rw [heartbeat, Registry.next]
  cases hl : m.live? w.lease now r.id with
  | none =>
    have hnone : server.entry? (w.infoKey r.id) = none := by rw [h.live r.id, hl]; rfl
    have hexec : server.execute (.set (w.infoKey (r.touch now.wall).id) (payload (r.touch now.wall))
        (some w.expiry) true) = (.nil, server) := by
      rw [Server.execute, hid, Server.set_onlyPresent w.expiry_pos hmax hnone]
    have hask := Dialogue.run_ask w.connection Reply.optionalText? hexec (by simp) rfl
    refine ⟨server, ?_, h⟩
    rw [Dialogue.run_bind_ok hask]
    rfl
  | some l =>
    -- the record is written only if one is present, which a live one is
    have hpresent : (m.live? w.lease now (r.touch now.wall).id).isSome = true := by
      rw [hid, hl]
      rfl
    have hexec := set_record hmax h (r.touch now.wall) true (.inr hpresent)
    have hask := Dialogue.run_ask w.connection Reply.optionalText? hexec (by simp) rfl
    obtain ⟨server', hserver'⟩ : ∃ server', server' =
      server.put (w.infoKey r.id) (w.entryOf (.start now (r.touch now.wall))) := ⟨_, rfl⟩
    have hput : ∀ k, server'.entry? k = if k = w.infoKey r.id then
        some (w.entryOf (.start now (r.touch now.wall))) else server.entry? k := by
      intro k
      rw [hserver', Server.entry?_put server (h.isLive_start _)]
    have hrun : (w.heartbeat now.wall r).run server = (.ok (r.touch now.wall), server') := by
      rw [heartbeat, Dialogue.run_bind_ok hask, hserver']
      rfl
    have hclock : server'.clock = server.clock := by rw [hserver', Server.clock_put]
    refine ⟨server', hrun, h.write (r := r.touch now.wall) hr hclock ?_ fun id => ?_⟩
    · obtain ⟨ms, hnodup, hset, hmem⟩ := h.listed
      refine ⟨ms, hnodup, ?_, hmem r.id (by rw [hl]; rfl), hmem⟩
      rw [Server.HoldsSet, hput, if_neg (infoKey_ne_setKey w _).symm]
      exact hset
    · rw [hput]
      simp only [(infoKey_injective w).eq_iff, hid]

end Operations

/-- A server from which one record was deleted, and on which the other live ids are still listed.

**Proof sketch.** The live records afterwards are those that were live before, without the one
deleted; for each of them the entry, the listing and the bound on the weight are as they were. -/
lemma Holds.remove (h : w.Holds m now server) (id : String) {server' : Server}
    (hclock : server'.clock = server.clock)
    (hlisted : ∃ ms, ms.Nodup ∧ server'.HoldsSet w.setKey ms ∧
      ∀ id', id' ≠ id → (m.live? w.lease now id').isSome = true → id' ∈ ms)
    (hentries : ∀ id', server'.entry? (w.infoKey id') =
      if id' = id then none else server.entry? (w.infoKey id')) :
    w.Holds (Function.update m id none) now server' := by
  have hwrite : ∀ id', Registry.live? w.lease now (Function.update m id none) id' =
      if id' = id then none else m.live? w.lease now id' :=
    fun id' => Registry.live?_update id id' none
  refine ⟨hclock.trans h.clock, ?_, fun id' => ?_, fun id' l hl => ?_⟩
  · obtain ⟨ms, hnodup, hset, hmem⟩ := hlisted
    refine ⟨ms, hnodup, hset, fun id' hlive => ?_⟩
    rw [hwrite id'] at hlive
    split at hlive
    · exact absurd hlive (by simp)
    · rename_i hne
      exact hmem id' hne hlive
  · rw [hentries id', hwrite id']
    split
    · rfl
    · exact h.live id'
  · rw [hwrite id'] at hl
    split at hl
    · exact absurd hl (by simp)
    · exact h.sized id' l hl

/-- A removal succeeds, and the server then holds the registry without the worker. -/
lemma run_remove (h : w.Holds m now server) (id : String) :
    ∃ server', (w.remove id).run server = (.ok (), server') ∧
      w.Holds (Function.update m id none) now server' := by
  obtain ⟨ms, hnodup, hset, hmem⟩ := h.listed
  obtain ⟨k, server₁, hsrem, hlisted, hother, hclock⟩ := Server.execute_srem hset [id]
  obtain ⟨k', server₂, hdel, hentries, hclock'⟩ := Server.execute_del server₁ (w.infoKey id)
  have hexec : server.executeAll [.srem w.setKey [id], .del [w.infoKey id]] =
      ([.integer k, .integer k'], server₂) := by
    simp only [Server.executeAll, hsrem, hdel]
  refine ⟨server₂, Dialogue.run_transact hexec rfl,
    h.remove id (hclock'.trans hclock) ⟨ms.filter fun x => !([id].contains x), hnodup.filter _, ?_,
      fun id' hne hid => ?_⟩ fun id' => ?_⟩
  · rw [Server.HoldsSet, hentries, if_neg (infoKey_ne_setKey w id).symm]
    exact hlisted
  · rw [List.mem_filter]
    exact ⟨hmem id' hid, by simpa using hne⟩
  · rw [hentries, hother _ (infoKey_ne_setKey w id')]
    simp only [(infoKey_injective w).eq_iff]

/-- Striking off ids takes them out of the set and leaves everything else. -/
lemma run_strikeOff {ms : List String} (h : server.HoldsSet w.setKey ms) (ids : List String) :
    ∃ server', (w.strikeOff ids).run server = (.ok (), server') ∧
      server'.HoldsSet w.setKey (ms.filter fun m => !ids.contains m) ∧
      (∀ k, k ≠ w.setKey → server'.entry? k = server.entry? k) ∧
      server'.clock = server.clock := by
  unfold strikeOff
  by_cases hempty : ids = []
  · subst hempty
    refine ⟨server, rfl, ?_, fun _ _ => rfl, rfl⟩
    rwa [List.filter_eq_self.mpr (by simp)]
  · rw [if_neg (by simpa using hempty)]
    obtain ⟨k, server', hsrem, hlisted, hother, hclock⟩ := Server.execute_srem h ids
    have hask : ((w.connection.ask (.srem w.setKey ids) Reply.integer?).attempt).run server =
        (.ok (.ok k), server') := by
      rw [Dialogue.run_attempt, Dialogue.run_ask _ Reply.integer? hsrem (by simp) rfl]
    refine ⟨server', ?_, hlisted, hother, hclock⟩
    rw [Dialogue.run_bind_ok hask]
    rfl

/-- Striking off ids whose records are not there changes nothing that counts. -/
lemma Holds.strikeOff (h : w.Holds m now server) {ids : List String}
    (hids : ∀ id ∈ ids, m.live? w.lease now id = none) :
    ∃ server', (w.strikeOff ids).run server = (.ok (), server') ∧ w.Holds m now server' := by
  obtain ⟨ms, hnodup, hset, hmem⟩ := h.listed
  obtain ⟨server', hrun, hlisted, hother, hclock⟩ := run_strikeOff hset ids
  refine ⟨server', hrun, hclock.trans h.clock, ⟨_, hnodup.filter _, hlisted, fun id hid => ?_⟩,
    fun id => ?_, h.sized⟩
  · rw [List.mem_filter]
    refine ⟨hmem id hid, ?_⟩
    have hnotin : id ∉ ids := by
      intro hin
      rw [hids id hin] at hid
      exact absurd hid (by simp)
    simpa using hnotin
  · rw [hother _ (infoKey_ne_setKey w id), h.live id]

/-- What is kept under the key of a record. -/
lemma Holds.datum? (h : w.Holds m now server) (id : String) :
    server.datum? (w.infoKey id) =
      (m.live? w.lease now id).map fun l => .text (payload l.record) := by
  rw [Server.datum?, h.live id, Option.map_map]
  rfl

/-- `GET` tells the record of a worker that has a lease, and nothing of any other. -/
lemma execute_get (h : w.Holds m now server) (id : String) :
    server.execute (.get (w.infoKey id)) =
      ((match m.live? w.lease now id with
        | some l => .bulk (payload l.record)
        | none => .nil), server) := by
  rw [Server.execute, h.datum? id]
  cases m.live? w.lease now id <;> rfl

/-- A look for a worker tells the record of its lease, or that there is none, and strikes off an id
without a record. The registry stays.

**Proof sketch.** A record that is live is read from its text. One that is not has no text, so its
id is struck off, which does no harm to a registry without it. -/
lemma run_get (h : w.Holds m now server) (id : String) :
    ∃ server', (w.get id).run server =
        (match m.live? w.lease now id with
          | some l => .ok l.record
          | none => .error (.workerNotFound id), server') ∧ w.Holds m now server' := by
  have hexec := execute_get h id
  rw [RedisWorkers.get]
  cases hl : m.live? w.lease now id with
  | none =>
    rw [hl] at hexec
    -- a missing record is struck off, which a registry without it does not notice
    have hgone : ∀ id' ∈ [id], m.live? w.lease now id' = none := by simpa using hl
    obtain ⟨server', hstrike, h'⟩ := h.strikeOff hgone
    have hask := Dialogue.run_ask w.connection Reply.optionalText? hexec (by simp) rfl
    refine ⟨server', ?_, h'⟩
    rw [Dialogue.run_bind_ok hask]
    exact Dialogue.run_bind_ok hstrike _
  | some l =>
    rw [hl] at hexec
    have hask := Dialogue.run_ask w.connection Reply.optionalText? hexec (by simp) rfl
    refine ⟨server, ?_, h⟩
    rw [Dialogue.run_bind_ok hask]
    exact congrArg (·, server) (record?_payload (h.sized id l hl))

/-- The text under a key, if there is one. -/
def textAt? (s : Server) (key : String) : Option String :=
  match s.datum? key with
  | some (.text t) => some t
  | _ => none

/-- A key with a text has an entry. -/
lemma isSome_of_textAt? {key : String} (h : (textAt? s key).isSome = true) :
    (s.entry? key).isSome = true := by
  rw [textAt?, Server.datum?] at h
  cases hentry : s.entry? key with
  | none =>
    rw [hentry] at h
    exact absurd h (by simp)
  | some e => rfl

/-- `MGET` replies with the text under each key, in the order of the keys. -/
lemma optionalTexts?_mget (s : Server) (keys : List String) :
    Reply.optionalTexts? (s.execute (.mget keys)).1 = some (keys.map (textAt? s)) := by
  rw [Server.execute, Reply.optionalTexts?, Reply.items?, Option.bind_some, List.mapM_map]
  refine Json.mapM_eq_some fun key _ => ?_
  simp only [Function.comp, textAt?]
  cases s.datum? key with
  | none => rfl
  | some d => cases d <;> rfl

/-- A list of texts is read back. -/
lemma texts?_list (ids : List String) : Reply.texts? (.list (ids.map .bulk)) = some ids := by
  have h : ids.mapM (Reply.text? ∘ Reply.bulk) = some (ids.map id) :=
    Json.mapM_eq_some fun _ _ => rfl
  rw [Reply.texts?, Reply.items?, Option.bind_some, List.mapM_map, h, List.map_id]

/-- Zipping a list with its image pairs each element with its value. -/
lemma zip_map_self {α β : Type} (f : α → β) (as : List α) :
    as.zip (as.map f) = as.map fun a => (a, f a) := by
  induction as with
  | nil => rfl
  | cons a as ih => rw [List.map_cons, List.map_cons, List.zip_cons_cons, ih]

/-- Selecting pairs by their second part selects their first by its value. -/
lemma filter_pairs {α β : Type} (f : α → β) (p : β → Bool) (as : List α) :
    ((as.map fun a => (a, f a)).filter fun x => p x.2).map (·.1) = as.filter fun a => p (f a) := by
  rw [List.filter_map, List.map_map]
  exact List.map_id _

/-- The listed ids with a text are given, and those without one are struck off.

**Proof sketch.** The members of the set are fetched, and then their texts, all at once. An empty
set ends the call; otherwise the ids are divided into those with a text and those without, and the
latter are struck off. -/
lemma run_ids_of_holdsSet {ms : List String} (hset : server.HoldsSet w.setKey ms) :
    ∃ server', w.ids.run server =
        (.ok (sortIds (ms.filter fun id => (textAt? server (w.infoKey id)).isSome)), server') ∧
      (w.strikeOff (ms.filter fun id => (textAt? server (w.infoKey id)).isNone)).run server =
        (.ok (), server') := by
  have hsmembers : server.execute (.smembers w.setKey) = (.list (ms.map .bulk), server) := by
    rw [Server.execute, hset.members?]
  have hmembers := Dialogue.run_ask w.connection Reply.texts? hsmembers (by simp) (texts?_list ms)
  rw [RedisWorkers.ids]
  by_cases hempty : ms = []
  · subst hempty
    refine ⟨server, ?_, rfl⟩
    rw [Dialogue.run_bind_ok hmembers]
    rfl
  · have hmget : server.execute (.mget (ms.map w.infoKey)) =
        ((server.execute (.mget (ms.map w.infoKey))).1, server) := rfl
    have hrecords := Dialogue.run_ask w.connection Reply.optionalTexts? hmget
      (by simp [Server.execute]) (optionalTexts?_mget server (ms.map w.infoKey))
    rw [List.map_map] at hrecords
    obtain ⟨server', hstrike, -⟩ := run_strikeOff hset
      (ms.filter fun id => (textAt? server (w.infoKey id)).isNone)
    refine ⟨server', ?_, hstrike⟩
    rw [Dialogue.run_bind_ok hmembers, if_neg (by simpa using hempty),
      Dialogue.run_bind_ok hrecords, zip_map_self]
    dsimp only
    rw [filter_pairs _ Option.isNone, filter_pairs _ Option.isSome]
    exact Dialogue.run_bind_ok hstrike _

/-- The ids listed are those with a lease, each once and in order, and the registry stays.

**Proof sketch.** The set lists at least the live ids, and `MGET` tells which of the listed ones
have a record. The others are struck off, after which the set still lists whoever is live. Sorting
orders the ids that are left, and they are distinct as the members of a set are. -/
lemma run_ids (h : w.Holds m now server) :
    ∃ ids server', w.ids.run server = (.ok ids, server') ∧ ids.Pairwise (· < ·) ∧
      (∀ id, id ∈ ids ↔ (m.live? w.lease now id).isSome = true) ∧ w.Holds m now server' := by
  obtain ⟨ms, hnodup, hset, hmem⟩ := h.listed
  have htext : ∀ id, textAt? server (w.infoKey id) =
      (m.live? w.lease now id).map fun l => payload l.record := by
    intro id
    rw [textAt?, h.datum? id]
    cases m.live? w.lease now id <;> rfl
  have hgone : ∀ id ∈ ms.filter fun id => (textAt? server (w.infoKey id)).isNone,
      m.live? w.lease now id = none := by
    intro id hid
    simpa [htext] using (List.mem_filter.mp hid).2
  obtain ⟨server₁, hrun, hstrike⟩ := run_ids_of_holdsSet hset
  obtain ⟨server', hstrike', h'⟩ := h.strikeOff hgone
  obtain rfl : server₁ = server' := congrArg Prod.snd (hstrike.symm.trans hstrike')
  refine ⟨_, server₁, hrun, sortIds_strict (hnodup.filter _), fun id => ?_, h'⟩
  rw [mem_sortIds, List.mem_filter, htext, Option.isSome_map]
  exact ⟨fun hid => hid.2, fun hid => ⟨hmem id hid, hid⟩⟩

/-! ## The store -/

/-- Whether a site with a plain line holds the workers of a registry in Redis. -/
def HoldsAt (w : RedisWorkers) (m : Registry) (s : Site) : Prop :=
  s.line.IsPlain ∧ w.Holds m s.clock s.line.server

/-- A dialogue that leaves the server with a registry leaves the site with it. -/
lemma holdsAt_onLine {α : Type} {d : Timestamp → Dialogue α} {s : Site} (h : w.HoldsAt m s)
    {m' : Registry} {r : Except Error α} {server' : Server}
    (hrun : (d s.now).run s.line.server = (r, server')) (h' : w.Holds m' s.clock server') :
    (Site.onLine d s).1 = r.mapError Failure.reported ∧ w.HoldsAt m' (Site.onLine d s).2 ∧
      (Site.onLine d s).2.clock = s.clock := by
  obtain ⟨sent, hsent⟩ := Site.onLine_of_isPlain d h.1
  rw [hsent, hrun]
  exact ⟨rfl, ⟨h.1, h'⟩, rfl⟩

/-- A call of the store, which answers as the registry does. The clock of the process has no part
in it.

**Proof sketch.** Cases on the call. Each is a dialogue with the server, whose run was determined,
and `holdsAt_onLine` carries the run over to the site. -/
lemma answers_of_perform (hmax : w.expiry < Server.maxExpiry) {s : Site} (h : w.HoldsAt m s)
    (call : WorkerCall) (hsized : call.isSized = true) :
    m.Answers w.lease s.clock call (call.perform (Site.redisWorkers w) s).1 ∧
      w.HoldsAt (m.next w.lease s.clock call) (call.perform (Site.redisWorkers w) s).2 ∧
      (call.perform (Site.redisWorkers w) s).2.clock = s.clock := by
  cases call with
  | add r =>
    obtain ⟨server', hrun, h'⟩ := run_add hmax h.2 (of_decide_eq_true hsized)
    obtain ⟨hr, hs, hc⟩ := holdsAt_onLine (d := fun _ => w.add r) h hrun h'
    rw [WorkerCall.perform, Query.map_apply]
    simp only [Site.redisWorkers, hr]
    exact ⟨rfl, hs, hc⟩
  | remove id =>
    obtain ⟨server', hrun, h'⟩ := run_remove h.2 id
    obtain ⟨hr, hs, hc⟩ := holdsAt_onLine (d := fun _ => w.remove id) h hrun h'
    rw [WorkerCall.perform, Query.map_apply]
    simp only [Site.redisWorkers, hr]
    exact ⟨rfl, hs, hc⟩
  | get id =>
    obtain ⟨server', hrun, h'⟩ := run_get h.2 id
    obtain ⟨hr, hs, hc⟩ := holdsAt_onLine (d := fun _ => w.get id) h hrun h'
    rw [WorkerCall.perform, Query.map_apply]
    simp only [Site.redisWorkers, hr, Registry.Answers]
    refine ⟨?_, hs, hc⟩
    cases m.live? w.lease s.clock id <;> rfl
  | ids =>
    obtain ⟨ids, server', hrun, hstrict, hmem, h'⟩ := run_ids h.2
    obtain ⟨hr, hs, hc⟩ := holdsAt_onLine (d := fun _ => w.ids) h hrun h'
    rw [WorkerCall.perform, Query.map_apply]
    simp only [Site.redisWorkers, hr]
    exact ⟨⟨ids, rfl, hstrict.imp Utf8.encode_lt_encode, hmem⟩, hs, hc⟩
  | heartbeat r =>
    obtain ⟨server', hrun, h'⟩ := run_heartbeat hmax h.2 (of_decide_eq_true hsized)
    obtain ⟨hr, hs, hc⟩ := holdsAt_onLine (d := fun now => w.heartbeat now r) h hrun h'
    rw [WorkerCall.perform, Query.map_apply]
    simp only [Site.redisWorkers, hr, Registry.Answers]
    refine ⟨?_, hs, hc⟩
    cases m.live? w.lease s.clock r.id <;> rfl

/-- **The workers in Redis answer as the registry does.** -/
theorem refines (hmax : w.expiry < Server.maxExpiry) :
    (Site.redisWorkers w).Refines w.lease w.HoldsAt where
  later _ h hc := ⟨h.1, h.2.later hc⟩
  perform call h _ hsized := answers_of_perform hmax h call hsized

end RedisWorkers

end ConversionScheduler
