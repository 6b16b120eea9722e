import ConversionScheduler.Proofs.TaskCustody
import ConversionScheduler.Proofs.WorkerStores
/-!
# Live records

A worker is there as long as its record is, whoever has read that record before. So what is said
about a store here is said about what is kept under each id at the moment, and about any world of
it, also one in which a record cannot be read or in which the time to live is refused: nothing comes
under an id under which nothing is kept unless a record of this id is added, and what is written
under an id is a record of it.

## Main definitions

* `Redis.Dialogue.Says` — the dialogues all of whose commands have a property.
* `WorkerBackend.live?` — what is kept under an id.
* `WorkerBackend.fading` — the conduct in which nothing comes under an id unless it is added.
* `WorkerBackend.IsFiled` — what is kept under an id is a record of it.

## Main results

* `Redis.Dialogue.Says.leads` — what every command observes, a dialogue does.
* `WorkerBackend.fading_perform` — the calls of a store of either kind.
* `WorkerBackend.live?_of_get`, `WorkerBackend.live?_of_ids` — only what is kept is read or listed.
* `Site.holds_tasks` — the calls about tasks leave the workers alone.
-/

namespace ConversionScheduler

open Redis (Server Command Dialogue Reply Connection)

/-! ## What a dialogue says -/

namespace Redis.Dialogue

variable {α β : Type} {p : Command → Prop} {d : Dialogue α} {c : Connection}

/-- Whether all commands have a property, whatever the server replies. -/
def Says (p : Command → Prop) : Dialogue α → Prop
  | done _ => True
  | exchange b k => (∀ c ∈ b.commands, p c) ∧ ∀ r, (k r).Says p

/-- The commands of two dialogues, one after the other, are those of both. -/
lemma Says.bind {f : α → Dialogue β} (h : d.Says p) (hf : ∀ a, (f a).Says p) :
    (d >>= f).Says p := by
  induction d with
  | done r =>
    cases r with
    | error e => trivial
    | ok a => exact hf a
  | exchange b k ih => exact ⟨h.1, fun r => ih r (h.2 r)⟩

/-- An attempt says what the dialogue says. -/
lemma Says.attempt (h : d.Says p) : d.attempt.Says p := by
  induction d with
  | done r => trivial
  | exchange b k ih => exact ⟨h.1, fun r => ih r (h.2 r)⟩

/-- What is said has every weaker property too. -/
lemma Says.mono {q : Command → Prop} (h : d.Says p) (hpq : ∀ c, p c → q c) : d.Says q := by
  induction d with
  | done r => trivial
  | exchange b k ih => exact ⟨fun c hc => hpq c (h.1 c hc), fun r => ih r (h.2 r)⟩

/-- An exchange says its command only. -/
lemma says_ask {command : Command} (h : p command) (read : Reply → Option α) :
    (c.ask command read).Says p := by
  refine ⟨fun c hc => ?_, fun r => ?_⟩
  · rwa [List.mem_singleton.mp hc]
  · dsimp only
    split
    · trivial
    · trivial
    · split <;> trivial

/-- A transaction says its commands only. -/
lemma says_transact {commands : List Command} (h : ∀ c ∈ commands, p c) :
    (c.transact commands).Says p := by
  refine ⟨h, fun r => ?_⟩
  dsimp only
  split
  · trivial
  · split <;> trivial

/-- **What every command observes, a dialogue does.** -/
theorem Says.leads {conduct : Conduct Server}
    (hp : ∀ c, p c → ∀ s : Server, conduct.leads s (s.execute c).2) (h : d.Says p) (s : Server) :
    conduct.leads s (d.run s).2 := by
  have hall : ∀ cs : List Command, (∀ c ∈ cs, p c) → ∀ s : Server,
      conduct.leads s (s.executeAll cs).2 := by
    intro cs
    induction cs with
    | nil => exact fun _ s => conduct.refl s
    | cons c cs ih =>
      intro hcs s
      exact conduct.trans (hp c (hcs c (List.mem_cons_self ..)) s)
        (ih (fun c' hc' => hcs c' (List.mem_cons_of_mem _ hc')) _)
  induction d generalizing s with
  | done r => exact conduct.refl s
  | exchange b k ih =>
    have hblock : conduct.leads s (s.respond b).2 := by
      cases b with
      | single c => exact hp c (h.1 c (List.mem_singleton_self c)) s
      | atomic cs => exact hall cs h.1 s
    exact conduct.trans hblock (ih _ (h.2 _) _)

/-- A sequence has a result only if its first part has one. -/
lemma run_bind_eq_ok {f : α → Dialogue β} {s s' : Server} {b : β}
    (h : (d >>= f).run s = (.ok b, s')) :
    ∃ a s₁, d.run s = (.ok a, s₁) ∧ (f a).run s₁ = (.ok b, s') := by
  rcases hd : d.run s with ⟨e | a, s₁⟩
  · rw [run_bind_error hd] at h
    exact absurd (congrArg Prod.fst h) (by simp)
  · rw [run_bind_ok hd] at h
    exact ⟨a, s₁, rfl, h⟩

/-- A command whose reply has been read.

**Proof sketch.** A command that the server refuses, or whose reply has not the form that is
expected, does not end well; so if it did, its reply was read. -/
lemma run_ask_eq_ok {command : Command} {read : Reply → Option α} {s s' : Server} {a : α}
    (h : (c.ask command read).run s = (.ok a, s')) :
    s' = (s.execute command).2 ∧ (∀ e, (s.execute command).1 ≠ .error e) ∧
      read (s.execute command).1 = some a := by
  rcases hexec : s.execute command with ⟨r, s₁⟩
  by_cases hr : ∃ e, r = .error e
  · obtain ⟨e, rfl⟩ := hr
    rw [run_ask_error c read hexec] at h
    exact absurd (congrArg Prod.fst h) (by simp)
  · have hne : ∀ e, r ≠ .error e := fun e he => hr ⟨e, he⟩
    cases hread : read r with
    | some b =>
      rw [run_ask c read hexec hne hread] at h
      obtain ⟨ha, rfl⟩ := Prod.mk.inj h
      exact ⟨rfl, hne, congrArg some (Except.ok.inj ha)⟩
    | none =>
      have hrun : (c.ask command read).run s =
          (.error (Connection.refused .command "Response was of incompatible type"), s₁) := by
        have hrespond : s.respond (.single command) = (r, s₁) := hexec
        rw [Connection.ask, run, runOver]
        simp only [hrespond]
        cases r with
        | error e => exact absurd rfl (hne e)
        | _ =>
          simp only [hread]
          rfl
      rw [hrun] at h
      exact absurd (congrArg Prod.fst h) (by simp)

end Redis.Dialogue

/-! ## Records under the keys of a server -/

/-- A text that was written for a worker is read as a record of this worker, if it can be read.

**Proof sketch.** The text is that of an object of four fields, and a record is read off it field by
field; the field of the id holds the text that was written there. -/
lemma RedisWorkers.id_of_payload {r r' : WorkerRecord} (h : record? (payload r) = .ok r') :
    r'.id = r.id := by
  have hv : r.toJson.isIntegral = true := by
    simp [WorkerRecord.toJson, Json.Value.isIntegral, Json.membersIntegral, Json.Value.nat]
  have hfs := Json.fields?_ofValue [("id", .string r.id), ("addr", .string r.addr),
    ("last_ping_time", .string r.lastHeartbeat.text), ("weight", .nat r.weight)] (by simp) 126
  rw [record?, payload, Json.decode?_render _ hv] at h
  cases hread : WorkerRecord.read? ⟨Json.maxDepth, Json.Tree.ofValue r.toJson⟩ with
  | none =>
    rw [hread] at h
    exact absurd h (by simp)
  | some r₀ =>
    rw [hread] at h
    obtain rfl := Except.ok.inj h
    unfold WorkerRecord.read? at hread
    obtain ⟨fs, hfields, hread⟩ := Option.bind_eq_some_iff.mp hread
    obtain rfl := Option.some.inj (hfs.symm.trans hfields)
    obtain ⟨id, hid, hread⟩ := Option.bind_eq_some_iff.mp hread
    obtain ⟨addr, -, hread⟩ := Option.bind_eq_some_iff.mp hread
    obtain ⟨time, -, hread⟩ := Option.bind_eq_some_iff.mp hread
    obtain ⟨weight, -, hread⟩ := Option.bind_eq_some_iff.mp hread
    obtain rfl := Option.some.inj hread
    have hsame : Json.Cursor.text? ⟨126, Json.Tree.ofValue (.string r.id)⟩ = some id := hid
    rw [Json.text?_ofValue] at hsame
    exact (Option.some.inj hsame).symm

namespace RedisWorkers

open Redis.Dialogue

variable {w : RedisWorkers} {added : String → Prop} {s s' : Server} {id : String}

/-- Whether a command writes nothing but records under the keys of records, each under its own, and
none under a key that is not there, unless it is added. -/
def Fades (w : RedisWorkers) (added : String → Prop) : Command → Prop
  | .set key value _ onlyPresent =>
    ∃ r : WorkerRecord, key = w.infoKey r.id ∧ value = payload r ∧ (onlyPresent = true ∨ added r.id)
  | .sadd key _ | .srem key _ | .hset key _ | .hdel key _ => ∀ id, w.infoKey id ≠ key
  | .ping | .get _ | .del _ | .mget _ | .smembers _ | .hget _ _ => True

/-- The conduct in which nothing comes under the key of a record unless it is added. -/
def fading (w : RedisWorkers) (added : String → Prop) : Conduct Server where
  leads s s' := ∀ id e, s'.entry? (w.infoKey id) = some e → s.entry? (w.infoKey id) = some e ∨
    (∃ r : WorkerRecord, r.id = id ∧ e.datum = .text (payload r)) ∧
      ((s.entry? (w.infoKey id)).isSome = true ∨ added id)
  refl _ _ _ h := .inl h
  trans {s t u} hst htu id e he := by
    obtain h | ⟨hr, h | h⟩ := htu id e he
    · exact hst id e h
    · obtain ⟨e', he'⟩ := Option.isSome_iff_exists.mp h
      obtain h' | ⟨-, h'⟩ := hst id e' he'
      · exact .inr ⟨hr, .inl (by rw [h']; rfl)⟩
      · exact .inr ⟨hr, h'⟩
    · exact .inr ⟨hr, .inr h⟩

/-- Forgetting keys brings nothing about. -/
lemma entry?_of_foldl_forget {keys : List String} {key : String} {e : Redis.Entry}
    (h : Server.entry? (keys.foldl Server.forget s) key = some e) : s.entry? key = some e := by
  induction keys generalizing s with
  | nil => exact h
  | cons k keys ih =>
    have hrest := ih h
    rw [Server.entry?_forget] at hrest
    split at hrest
    · exact absurd hrest (by simp)
    · exact hrest

/-- Every such command observes the conduct.

**Proof sketch.** A command touches only the keys that it names, and the key of a record names its
id. Among those that name such a key, a deletion leaves what others there are, and a writing puts
the text of the record there, which the conduct allows. -/
lemma fading_execute (c : Command) (h : w.Fades added c) (s : Server) :
    (w.fading added).leads s (s.execute c).2 := by
  intro id e he
  by_cases hnamed : w.infoKey id ∈ c.keys
  -- only a command that names the key can change what is under it
  · cases c with
    | ping | mget => exact .inl he
    | sadd | srem | hset | hdel => exact absurd (List.mem_singleton.mp hnamed) (h id)
    | get | smembers | hget =>
      rw [Server.execute] at he
      split at he <;> exact .inl he
    | del keys => exact .inl (entry?_of_foldl_forget he)
    | set key value expiry onlyPresent =>
      obtain ⟨r, rfl, rfl, hr⟩ := h
      obtain rfl := infoKey_injective w (List.mem_singleton.mp hnamed)
      rw [Server.execute] at he
      obtain hsame | ⟨hpresent, e', he', hentries⟩ :=
        Server.set_cases s (w.infoKey r.id) (payload r) expiry onlyPresent
      · rw [hsame] at he
        exact .inl he
      · rw [hentries, if_pos rfl] at he
        obtain rfl := Option.some.inj he
        exact .inr ⟨⟨r, rfl, he'⟩, hr.imp_left hpresent⟩
  · rw [Server.entry?_execute hnamed] at he
    exact .inl he

/-! ### The operations -/

/-- A registration writes the record under its key, and names the worker in the set. -/
lemma says_add {r : WorkerRecord} (h : added r.id) : (w.add r).Says (w.Fades added) := by
  refine says_transact fun c hc => ?_
  rcases List.mem_cons.mp hc with rfl | hc
  · exact ⟨r, rfl, rfl, .inr h⟩
  · obtain rfl := List.mem_singleton.mp hc
    exact infoKey_ne_setKey w

/-- A removal deletes a record, which brings nothing about. -/
lemma says_remove (id : String) : (w.remove id).Says (w.Fades added) := by
  refine says_transact fun c hc => ?_
  rcases List.mem_cons.mp hc with rfl | hc
  · exact infoKey_ne_setKey w
  · obtain rfl := List.mem_singleton.mp hc
    trivial

/-- Striking ids off touches the set only. -/
lemma says_strikeOff (ids : List String) : (w.strikeOff ids).Says (w.Fades added) := by
  unfold strikeOff
  split
  · trivial
  · exact (Says.attempt (says_ask (infoKey_ne_setKey w) _)).bind fun _ => trivial

/-- A look for a worker reads its record, and may strike off its id. -/
lemma says_get (id : String) : (w.get id).Says (w.Fades added) := by
  refine (says_ask trivial _).bind fun text => ?_
  cases text with
  | some s => trivial
  | none => exact (says_strikeOff [id]).bind fun _ => trivial

/-- A listing reads the records, and may strike off ids. -/
lemma says_ids : w.ids.Says (w.Fades added) := by
  refine (says_ask trivial _).bind fun members => ?_
  split
  · trivial
  · exact (says_ask trivial _).bind fun records => (says_strikeOff _).bind fun _ => trivial

/-- A sign of life writes the record on condition that one is there. -/
lemma says_heartbeat (now : Timestamp) (r : WorkerRecord) :
    (w.heartbeat now r).Says (w.Fades added) := by
  refine (says_ask ⟨r.touch now, rfl, rfl, .inl rfl⟩ _).bind fun written => ?_
  split <;> trivial

/-- Only a text under the key of a record is read, and nothing changes by that.

**Proof sketch.** The record is asked for, and a reply that is not a text ends the call with an
error. A text is the one of the entry, since reading changes nothing. -/
lemma text_of_get {r : WorkerRecord} (h : (w.get id).run s = (.ok r, s')) :
    s' = s ∧ ∃ e text, s.entry? (w.infoKey id) = some e ∧ e.datum = .text text ∧
      record? text = .ok r := by
  obtain ⟨text, s₁, hask, hrest⟩ := run_bind_eq_ok h
  obtain ⟨rfl, hne, hread⟩ := run_ask_eq_ok hask
  cases text with
  | none =>
    obtain ⟨_, _, -, hdone⟩ := run_bind_eq_ok hrest
    exact absurd (congrArg Prod.fst hdone) (by simp)
  | some text =>
    obtain ⟨hrecord, rfl⟩ := Prod.mk.inj hrest
    rw [Server.execute, Server.datum?] at hread ⊢
    cases hentry : s.entry? (w.infoKey id) with
    | none =>
      rw [hentry] at hread
      exact absurd hread (by simp [Reply.optionalText?])
    | some e =>
      rw [hentry] at hread
      simp only [Option.map_some] at hread ⊢
      cases hdatum : e.datum with
      | text t =>
        rw [hdatum] at hread
        obtain rfl : t = text := by simpa [Reply.optionalText?, Reply.text?] using hread
        exact ⟨rfl, e, t, rfl, hdatum, hrecord⟩
      | set | hash =>
        rw [hdatum] at hread
        exact absurd hread (by simp [Server.wrongType, Reply.optionalText?, Reply.text?])

/-- Only ids with a text under the key of their record are listed. -/
lemma isSome_of_ids {ids : List String} (h : w.ids.run s = (.ok ids, s')) (hid : id ∈ ids) :
    (s.entry? (w.infoKey id)).isSome = true := by
  obtain ⟨members, s₁, hmembers, hrest⟩ := run_bind_eq_ok h
  have hs₁ : s₁ = s := by
    rw [(run_ask_eq_ok hmembers).1, Server.execute]
    split <;> rfl
  rw [hs₁] at hrest
  split at hrest
  · obtain rfl := Except.ok.inj (congrArg Prod.fst hrest)
    exact absurd hid (by simp)
  · obtain ⟨records, s₂, hrecords, hrest⟩ := run_bind_eq_ok hrest
    obtain ⟨-, -, hread⟩ := run_ask_eq_ok hrecords
    rw [optionalTexts?_mget, List.map_map] at hread
    obtain rfl := Option.some.inj hread
    obtain ⟨_, _, -, hdone⟩ := run_bind_eq_ok hrest
    obtain rfl := Except.ok.inj (congrArg Prod.fst hdone)
    rw [zip_map_self, filter_pairs _ Option.isSome, mem_sortIds, List.mem_filter] at hid
    exact isSome_of_textAt? hid.2

/-- Removing a worker leaves nothing under the key of its record. -/
lemma entry?_remove (w : RedisWorkers) (id : String) (s : Server) :
    Server.entry? ((w.remove id).run s).2 (w.infoKey id) = none := by
  obtain ⟨r, s₁, hsrem⟩ : ∃ r s₁, s.execute (.srem w.setKey [id]) = (r, s₁) := ⟨_, _, rfl⟩
  obtain ⟨k, s₂, hdel, hentries, -⟩ := Server.execute_del s₁ (w.infoKey id)
  have hrespond : s.respond (.atomic [.srem w.setKey [id], .del [w.infoKey id]]) =
      (.list [r, .integer k], s₂) := by
    simp only [Server.respond, Server.executeAll, hsrem, hdel]
  have hrun : ((w.remove id).run s).2 = s₂ := by
    rw [remove, Redis.Connection.transact, run, runOver]
    simp only [hrespond]
    split <;> rfl
  rw [hrun, hentries, if_pos rfl]

end RedisWorkers

/-! ## Records in memory -/

namespace MemoryWorkers

variable {now : Clock} {added : String → Prop} {ws ws' : MemoryWorkers} {id : String}

/-- Whether nothing comes under an id unless it is added. -/
def Fades (now : Clock) (added : String → Prop) (ws ws' : MemoryWorkers) : Prop :=
  ws'.IsProper ∧ ∀ id r, ws'.live? now id = some r → ws.live? now id = some r ∨
    r.id = id ∧ ((ws.live? now id).isSome = true ∨ added id)

/-- A record may be written where there is one, or where one is to be added. -/
lemma fades_insert (h : ws.IsProper) {e : WorkerEntry}
    (he : (ws.live? now e.record.id).isSome = true ∨ added e.record.id) :
    Fades now added ws (ws.insert e.record.id e) := by
  refine ⟨h.insert _ _, fun id r hr => ?_⟩
  rw [live?, Table.get?_insert] at hr
  split at hr
  · rename_i hid
    obtain ⟨e', he', rfl⟩ := Option.map_eq_some_iff.mp hr
    obtain rfl := Option.some.inj (Option.filter_eq_some_iff.mp he').1
    exact .inr ⟨hid.symm, hid ▸ he⟩
  · exact .inl hr

/-- Erasing a record brings nothing about. -/
lemma fades_erase (h : ws.IsProper) (id : String) : Fades now added ws (ws.erase id) := by
  refine ⟨h.erase _, fun id' r hr => ?_⟩
  rw [live?, Table.get?_erase] at hr
  split at hr
  · exact absurd hr (by simp)
  · exact .inl hr

/-- Neither does dropping the records that have run out. -/
lemma fades_filter (h : ws.IsProper) :
    Fades now added ws (ws.filter fun _ e => e.isLive now) := by
  refine ⟨h.filter _, fun id r hr => .inl ?_⟩
  rw [live?, Table.get?_filter h, Option.filter_filter] at hr
  simpa [live?] using hr

/-- Nothing comes about when nothing happens. -/
lemma fades_refl (h : ws.IsProper) : Fades now added ws ws := ⟨h, fun _ _ hr => .inl hr⟩

/-- **A call in memory** brings nothing under an id unless it adds a record of it. -/
lemma fades_add (h : ws.IsProper) (ttl : Duration) {r : WorkerRecord} (hr : added r.id) :
    Fades now added ws (add ttl now r ws).2 := by
  unfold add
  split
  · exact fades_refl h
  · exact fades_insert (e := ⟨r, _⟩) h (.inr hr)

/-- A look for a worker brings nothing about. -/
lemma fades_get (h : ws.IsProper) (id : String) : Fades now added ws (get now id ws).2 := by
  unfold get
  split <;> exact fades_refl h

/-- A sign of life writes the record only if one is there. -/
lemma fades_heartbeat (h : ws.IsProper) (ttl : Duration) (r : WorkerRecord) :
    Fades now added ws (heartbeat ttl now r ws).2 := by
  unfold heartbeat
  split
  · exact fades_refl h
  · rename_i e hfound
    have hlive : (ws.live? now r.id).isSome = true := by
      rw [live?, hfound]
      rfl
    dsimp only
    split <;> exact fades_insert (e := ⟨r.touch now.wall, _⟩) h (.inl hlive)

end MemoryWorkers

/-! ## A store of either kind -/

namespace WorkerBackend

/-- What is kept under an id: a record, or something that cannot be read as one. -/
def live? : WorkerBackend → Site → String → Option (Except Error WorkerRecord)
  | memory _, s, id => (s.workers.live? s.clock id).map .ok
  | redis w, s, id => (s.line.server.entry? (w.infoKey id)).map fun e =>
    match e.datum with
    | .text text => RedisWorkers.record? text
    | _ => .error .undecodable

/-- Whether nothing comes between the store and its data. -/
def IsSound : WorkerBackend → Site → Prop
  | memory _, s => s.workers.IsProper
  | redis _, s => s.line.IsPlain

/-- The conduct in which nothing comes under an id unless it is added, and what comes under an id
is a record of it. -/
def fading (b : WorkerBackend) (added : String → Prop) : Conduct Site where
  leads s s' := b.IsSound s → b.IsSound s' ∧ ∀ id x, b.live? s' id = some x →
    b.live? s id = some x ∨
      (∀ r, x = .ok r → r.id = id) ∧ ((b.live? s id).isSome = true ∨ added id)
  refl _ hs := ⟨hs, fun _ _ h => .inl h⟩
  trans {s t u} hst htu hs := by
    obtain ⟨ht, hst⟩ := hst hs
    obtain ⟨hu, htu⟩ := htu ht
    refine ⟨hu, fun id x hx => ?_⟩
    obtain h | ⟨hr, h | h⟩ := htu id x hx
    · exact hst id x h
    · obtain ⟨y, hy⟩ := Option.isSome_iff_exists.mp h
      obtain h' | ⟨-, h'⟩ := hst id y hy
      · exact .inr ⟨hr, .inl (by rw [h']; rfl)⟩
      · exact .inr ⟨hr, h'⟩
    · exact .inr ⟨hr, .inr h⟩

/-- Whether what is kept under each id is a record of it, as far as it can be read. -/
def IsFiled (b : WorkerBackend) (s : Site) : Prop :=
  b.IsSound s ∧ ∀ id r, b.live? s id = some (.ok r) → r.id = id

variable {b : WorkerBackend} {added : String → Prop} {s s' : Site} {id : String}

/-- A store in which there is nothing. -/
lemma isFiled_of_isVacant (h : b.IsVacant s) : b.IsFiled s := by
  have hnone : b.IsSound s ∧ ∀ id, b.live? s id = none := by
    cases b with
    | memory ttl =>
      have hempty : s.workers = .empty := h
      refine ⟨?_, fun id => ?_⟩
      · rw [IsSound, hempty]
        exact Table.isProper_empty
      · rw [live?, hempty]
        rfl
    | redis w =>
      obtain ⟨hplain, -, hvacant⟩ := h
      refine ⟨hplain, fun id => ?_⟩
      have hkey : w.infoKey id = w.connection.key ("worker:info:" ++ id) := String.append_assoc
      rw [live?, hkey, Server.entry?, hvacant]
      rfl
  exact ⟨hnone.1, fun id r hr => absurd ((hnone.2 id).symm.trans hr) (by simp)⟩

/-- Records that are under their own ids stay so, as what comes under an id is a record of it. -/
lemma IsFiled.later (h : b.IsFiled s) (hs : (b.fading added).leads s s') : b.IsFiled s' := by
  obtain ⟨hsound, hlive⟩ := hs h.1
  refine ⟨hsound, fun id r hr => ?_⟩
  obtain hr | ⟨hid, -⟩ := hlive id _ hr
  · exact h.2 id r hr
  · exact hid r rfl

/-- When more ids may be added, the conduct is weaker. -/
lemma fading_mono {added' : String → Prop} (h : ∀ id, added id → added' id)
    (hs : (b.fading added).leads s s') : (b.fading added').leads s s' := fun hsound => by
  obtain ⟨hsound', hlive⟩ := hs hsound
  exact ⟨hsound', fun id x hx => (hlive id x hx).imp_right fun ⟨hr, hadded⟩ =>
    ⟨hr, hadded.imp_right (h id)⟩⟩

/-- Under an id under which nothing is kept nothing comes, unless it is added. -/
lemma live?_of_fading (h : (b.fading added).leads s s') (hs : b.IsSound s) (hid : ¬ added id)
    (hnone : b.live? s id = none) : b.live? s' id = none := by
  cases hlive : b.live? s' id with
  | none => rfl
  | some x =>
    obtain h | ⟨-, h | h⟩ := (h hs).2 id x hlive
    · exact absurd (hnone.symm.trans h) (by simp)
    · exact absurd h (by simp [hnone])
    · exact absurd h hid

/-- What fades in memory fades in the store. -/
lemma fading_memory {ttl : Duration} (hclock : s'.clock = s.clock)
    (h : s.workers.IsProper → s.workers.Fades s.clock added s'.workers) :
    ((memory ttl).fading added).leads s s' := by
  intro hs
  obtain ⟨hs', hlive⟩ := h hs
  refine ⟨hs', fun id x hx => ?_⟩
  rw [live?, hclock] at hx
  obtain ⟨r, hr, rfl⟩ := Option.map_eq_some_iff.mp hx
  refine (hlive id r hr).imp (fun h => ?_) fun ⟨hid, h⟩ => ⟨?_, h.imp_left fun h => ?_⟩
  · rw [live?, h, Option.map_some]
  · rintro r' hr'
    rw [← Except.ok.inj hr', hid]
  · rw [live?, Option.isSome_map]
    exact h

/-- What fades on the server fades in the store, as a text written for a worker is read as its
record. -/
lemma fading_redis {w : RedisWorkers} (hs' : s.line.IsPlain → s'.line.IsPlain)
    (h : s.line.IsPlain → (w.fading added).leads s.line.server s'.line.server) :
    ((redis w).fading added).leads s s' := by
  refine fun hs => ⟨hs' hs, fun id x hx => ?_⟩
  obtain ⟨e, he, rfl⟩ := Option.map_eq_some_iff.mp hx
  refine (h hs id e he).imp (fun he' => ?_) fun ⟨⟨r, hid, hdatum⟩, he'⟩ =>
    ⟨fun r' hr' => ?_, he'.imp_left fun he' => ?_⟩
  · rw [live?, he', Option.map_some]
  · rw [hdatum] at hr'
    exact (RedisWorkers.id_of_payload hr').trans hid
  · rw [live?, Option.isSome_map]
    exact he'

/-- A dialogue that says nothing but such commands observes the conduct. -/
lemma fading_onLine {w : RedisWorkers} {α : Type} {d : Timestamp → Dialogue α}
    (h : ∀ now, (d now).Says (w.Fades added)) (s : Site) :
    ((redis w).fading added).leads s (Site.onLine d s).2 := by
  have hplain : s.line.IsPlain → _ := Site.onLine_of_isPlain d
  refine fading_redis (fun hs => ?_) fun hs => ?_
  · obtain ⟨sent, hsent⟩ := hplain hs
    rw [hsent]
    exact hs
  · obtain ⟨sent, hsent⟩ := hplain hs
    rw [hsent]
    exact (h s.now).leads RedisWorkers.fading_execute s.line.server

/-- **Nothing comes under an id unless a record of it is added**, whatever the call is.

**Proof sketch.** Cases on the backend and the call: a writing to the memory, or a dialogue whose
commands observe the conduct. -/
theorem fading_perform (b : WorkerBackend) {added : String → Prop} (call : WorkerCall)
    (h : ∀ r, call = .add r → added r.id) (s : Site) :
    (b.fading added).leads s (call.perform b.store s).2 := by
  cases b with
  | memory ttl =>
    cases call with
    | add r =>
      rw [WorkerCall.perform, Query.map_apply]
      exact fading_memory rfl fun hs => MemoryWorkers.fades_add hs ttl (h r rfl)
    | remove id =>
      rw [WorkerCall.perform, Query.map_apply]
      exact fading_memory rfl fun hs => MemoryWorkers.fades_erase hs id
    | get id =>
      rw [WorkerCall.perform, Query.map_apply]
      exact fading_memory rfl fun hs => MemoryWorkers.fades_get hs id
    | ids =>
      rw [WorkerCall.perform, Query.map_apply]
      exact fading_memory rfl fun hs => MemoryWorkers.fades_filter hs
    | heartbeat r =>
      rw [WorkerCall.perform, Query.map_apply]
      exact fading_memory rfl fun hs => MemoryWorkers.fades_heartbeat hs ttl r
  | redis w =>
    cases call with
    | add r =>
      rw [WorkerCall.perform, Query.map_apply]
      exact fading_onLine (fun _ => RedisWorkers.says_add (h r rfl)) s
    | remove id =>
      rw [WorkerCall.perform, Query.map_apply]
      exact fading_onLine (fun _ => RedisWorkers.says_remove id) s
    | get id =>
      rw [WorkerCall.perform, Query.map_apply]
      exact fading_onLine (fun _ => RedisWorkers.says_get id) s
    | ids =>
      rw [WorkerCall.perform, Query.map_apply]
      exact fading_onLine (fun _ => RedisWorkers.says_ids) s
    | heartbeat r =>
      rw [WorkerCall.perform, Query.map_apply]
      exact fading_onLine (fun now => RedisWorkers.says_heartbeat now r) s

/-- The end of the store brings nothing about either. -/
lemma fading_close (b : WorkerBackend) {added : String → Prop} (s : Site) :
    (b.fading added).leads s (b.store.close s).2 := by
  cases b with
  | memory ttl =>
    refine fading_memory rfl fun _ => ⟨Table.isProper_empty, fun id r hr => ?_⟩
    have hnone : MemoryWorkers.live? s.clock .empty id = none := rfl
    exact absurd (hnone.symm.trans hr) (by simp)
  | redis w => exact (fading _ _).refl s

/-- Neither does time. -/
lemma fading_at {c : Clock} (hc : s.clock.uptime.nanos ≤ c.uptime.nanos)
    (hserver : s.line.server.clock.nanos ≤ c.uptime.nanos) :
    (b.fading added).leads s (s.at c) := by
  cases b with
  | memory ttl =>
    refine fun hs => ⟨hs, fun id x hx => .inl ?_⟩
    obtain ⟨r, hr, rfl⟩ := Option.map_eq_some_iff.mp hx
    obtain ⟨e, he, rfl⟩ := Option.map_eq_some_iff.mp hr
    have he' : (s.workers.get? id).filter (·.isLive c) = some e := he
    rw [MemoryWorkers.filter_isLive_later hc] at he'
    rw [live?, MemoryWorkers.live?, (Option.filter_eq_some_iff.mp he').1]
    rfl
  | redis w =>
    refine fading_redis id fun _ id e he => .inl ?_
    have he' : Server.entry? { s.line.server with clock := c.uptime } (w.infoKey id) = some e := he
    rw [Server.entry?_later _ hserver] at he'
    exact (Option.filter_eq_some_iff.mp he').1

/-- **Only what is kept is read**, and it is there all the same after that.

**Proof sketch.** What the memory gives is its live entry. The server gives the text under the key
of the id, and the record is what this text is read as. -/
theorem live?_of_get {r : WorkerRecord} (hs : b.IsSound s) (h : b.store.get id s = (.ok r, s')) :
    b.live? s id = some (.ok r) ∧ b.live? s' = b.live? s := by
  cases b with
  | memory ttl =>
    have hrun : Site.onWorkers (fun c => MemoryWorkers.get c id) s = (.ok r, s') := h
    simp only [Site.onWorkers, Query.onPart, MemoryWorkers.get] at hrun
    cases hlive : s.workers.live? s.clock id with
    | none =>
      rw [hlive] at hrun
      exact absurd (congrArg Prod.fst hrun) (by simp)
    | some r' =>
      rw [hlive] at hrun
      obtain ⟨hr, rfl⟩ := Prod.mk.inj hrun
      obtain rfl := Except.ok.inj hr
      exact ⟨by rw [live?, hlive, Option.map_some], rfl⟩
  | redis w =>
    have hrun : Site.onLine (fun _ => w.get id) s = (.ok r, s') := h
    obtain ⟨sent, hsent⟩ := Site.onLine_of_isPlain (fun _ => w.get id) hs
    rcases hget : (w.get id).run s.line.server with ⟨e | r', server⟩
    · rw [hsent, hget] at hrun
      exact absurd (congrArg Prod.fst hrun) (by simp [Except.mapError])
    · rw [hsent, hget] at hrun
      obtain ⟨hr, rfl⟩ := Prod.mk.inj hrun
      obtain rfl := Except.ok.inj hr
      obtain ⟨rfl, e, text, he, hdatum, hrecord⟩ := RedisWorkers.text_of_get hget
      exact ⟨by rw [live?, he, Option.map_some, hdatum, ← hrecord], rfl⟩

/-- **Only ids under which something is kept are listed.** -/
theorem live?_of_ids {ids : List String} (hs : b.IsSound s) (h : b.store.ids s = (.ok ids, s'))
    (hid : id ∈ ids) : (b.live? s id).isSome = true := by
  cases b with
  | memory ttl =>
    obtain rfl := Except.ok.inj (congrArg Prod.fst h)
    rw [mem_sortIds, Table.mem_keys_iff, Table.get?_filter hs] at hid
    rw [live?, MemoryWorkers.live?, Option.isSome_map, Option.isSome_map]
    exact hid
  | redis w =>
    have hrun : Site.onLine (fun _ => w.ids) s = (.ok ids, s') := h
    obtain ⟨sent, hsent⟩ := Site.onLine_of_isPlain (fun _ => w.ids) hs
    rcases hids : w.ids.run s.line.server with ⟨e | ids', server⟩
    · rw [hsent, hids] at hrun
      exact absurd (congrArg Prod.fst hrun) (by simp [Except.mapError])
    · rw [hsent, hids] at hrun
      obtain rfl := Except.ok.inj (congrArg Prod.fst hrun)
      rw [live?, Option.isSome_map]
      exact RedisWorkers.isSome_of_ids hids hid

/-- **Nothing is kept under the id of a worker that has been removed.** -/
theorem live?_of_remove (hs : b.IsSound s) (id : String) :
    b.live? (b.store.remove id s).2 id = none := by
  cases b with
  | memory ttl =>
    show ((MemoryWorkers.live? s.clock (s.workers.erase id) id).map _ : Option _) = none
    rw [MemoryWorkers.live?, Table.get?_erase, if_pos rfl]
    rfl
  | redis w =>
    obtain ⟨sent, hsent⟩ := Site.onLine_of_isPlain (fun _ => w.remove id) hs
    have hrun : ((redis w).store.remove id s).2 = _ := congrArg Prod.snd hsent
    rw [hrun, live?, RedisWorkers.entry?_remove]
    rfl

end WorkerBackend

/-! ## Stores that fail -/

/-- A conduct of the world of a store, as one of a world with rules. -/
def Conduct.onBase {ω : Type} (d : Conduct ω) : Conduct (Faulty ω) where
  leads w w' := d.leads w.base w'.base ∧ w'.dangling = w.dangling
  refl w := ⟨d.refl w.base, rfl⟩
  trans h h' := ⟨d.trans h.1 h'.1, h'.2.trans h.2⟩

/-- Calls do not touch the ids that are listed in addition. -/
lemma WorkerCall.dangling_perform {ω : Type} (stores : Stores ω) (call : WorkerCall)
    (w : Faulty ω) : (call.perform stores.withFaults.workers w).2.dangling = w.dangling := by
  cases call with
  | ids =>
    rw [perform, Query.map_apply]
    exact (congrArg Faulty.dangling (Stores.ids_withFaults stores w).1).trans
      (Faulty.dangling_guarded ..)
  | add | remove | get | heartbeat =>
    rw [perform, Query.map_apply]
    exact Faulty.dangling_guarded ..

/-- A call that may fail leads to no more than it would lead to without rules. -/
lemma WorkerCall.leads_withFaults {ω : Type} {stores : Stores ω} {d : Conduct ω}
    (call : WorkerCall) (h : ∀ w, d.leads w (call.perform stores.workers w).2) (w : Faulty ω) :
    d.onBase.leads w (call.perform stores.withFaults.workers w).2 := by
  refine ⟨?_, call.dangling_perform stores w⟩
  obtain ⟨hbase, -⟩ | ⟨hbase, -⟩ := call.perform_withFaults stores w
  · rw [hbase]
    exact d.refl w.base
  · rw [hbase]
    exact h w.base

namespace WorkerBackend

variable {b : WorkerBackend} {stores : Stores Site} {w w' : Faulty Site} {id : String}

/-- A record that is read although calls may fail is one that is kept. -/
lemma live?_of_get_withFaults (hb : stores.workers = b.store) (hw : b.IsSound w.base)
    {r : WorkerRecord} (h : stores.withFaults.workers.get id w = (.ok r, w')) :
    b.live? w.base id = some (.ok r) ∧ b.live? w'.base = b.live? w.base := by
  have hguarded : Faulty.guarded .getWorker id (stores.workers.get id) w = (.ok r, w') := h
  obtain ⟨hget, -⟩ := Faulty.guarded_of_ok hguarded
  rw [hb] at hget
  exact live?_of_get hw hget

/-- Only ids under which something is kept are listed, besides those that are listed although
nothing is known about them. -/
lemma live?_of_ids_withFaults (hb : stores.workers = b.store) (hw : b.IsSound w.base)
    (hdangling : id ∉ w.dangling) {ids : List String}
    (h : stores.withFaults.workers.ids w = (.ok ids, w')) (hid : id ∈ ids) :
    (b.live? w.base id).isSome = true := by
  obtain ⟨ids', hids, -, rfl⟩ := Stores.ids_of_ok h
  have hlisted : id ∈ ids' := by
    split at hid
    · exact hid
    · exact (List.mem_append.mp (mem_sortIds.mp hid)).resolve_right hdangling
  rw [hb] at hids
  exact live?_of_ids hw hids hlisted

end WorkerBackend

namespace WorkerBackend

section Faults

variable {b : WorkerBackend} {stores : Stores Site} {added : String → Prop}
  (hb : stores.workers = b.store)

include hb

/-- **The calls of a store of either kind bring no worker about** unless they add it, also if some
of them fail. -/
theorem fading_withFaults (call : WorkerCall) (h : ∀ r, call = .add r → added r.id)
    (w : Faulty Site) :
    (b.fading added).onBase.leads w (call.perform stores.withFaults.workers w).2 :=
  call.leads_withFaults (fun s => by
    rw [hb]
    exact b.fading_perform call h s) w

/-- The end of the store brings nothing about, whether or not it fails. -/
lemma fading_close_withFaults (w : Faulty Site) :
    (b.fading added).onBase.leads w (stores.withFaults.workers.close w).2 := by
  refine ⟨?_, Faulty.dangling_guarded .closeWorkers "" stores.workers.close w⟩
  obtain ⟨-, -, hbase⟩ | ⟨-, hbase⟩ :=
    Faulty.guarded_cases .closeWorkers "" stores.workers.close w
  · rw [show (stores.withFaults.workers.close w).2.base = w.base from hbase]
    exact (b.fading _).refl _
  · rw [show (stores.withFaults.workers.close w).2.base = _ from hbase, hb]
    exact b.fading_close w.base

/-- A store with rules observes the conduct in which any record may be added. -/
lemma observes_fading : stores.withFaults.workers.Observes (b.fading fun _ => True).onBase where
  perform call := fading_withFaults hb call fun _ _ => trivial
  close := fading_close_withFaults hb

end Faults

end WorkerBackend

/-- Where a configuration keeps the workers. -/
def Config.registry (c : Config) : WorkerBackend :=
  match c.workerStore.backend with
  | .redis => .redis ⟨c.redis.connection, c.redis.workerTtl⟩
  | .memory => .memory c.redis.workerTtl

/-- The store of the workers is the one where the configuration keeps them. -/
lemma Site.workers_stores (c : Config) : (Site.stores c).workers = c.registry.store := by
  unfold Site.stores Config.registry
  cases c.workerStore.backend <;> rfl

/-- The manager of a scheduler uses that store. -/
lemma Scheduler.workers_manager {config : Config} {c : Scheduler Site}
    (hc : c.stores = Site.stores config) : c.manager.workers = config.registry.store := by
  show c.stores.workers = _
  rw [hc, Site.workers_stores]

/-! ## The calls about tasks -/

namespace RedisTasks

open Redis.Dialogue

variable {t : RedisTasks} {w : RedisWorkers} {added : String → Prop}

/-- Whether a command is one about the key of the tasks. -/
def IsOwn (t : RedisTasks) : Command → Prop
  | .hset key _ | .hget key _ | .hdel key _ => key = t.hashKey
  | _ => False

/-- Writing a task is about the key of the tasks. -/
lemma says_save (r : TaskRecord) : (t.save r).Says t.IsOwn :=
  (says_ask (show t.IsOwn (.hset t.hashKey _) from rfl) _).bind fun _ => trivial

/-- Loading a task is about the key of the tasks. -/
lemma says_load (id : String) : (t.load id).Says t.IsOwn := by
  refine (says_ask (show t.IsOwn (.hget t.hashKey id) from rfl) _).bind fun text => ?_
  cases text <;> trivial

/-- A look for a task is about the key of the tasks. -/
lemma says_get (id : String) : (t.get id).Says t.IsOwn := by
  refine (says_load id).bind fun r => ?_
  cases r <;> trivial

/-- An update is about the key of the tasks, in both of its exchanges. -/
lemma says_update (now : Timestamp) (task : Task) : (t.update now task).Says t.IsOwn := by
  refine (says_load task.id).bind fun r => ?_
  cases r with
  | some r => exact says_save _
  | none => trivial

/-- The removal of a task is about the key of the tasks. -/
lemma says_remove (id : String) : (t.remove id).Says t.IsOwn :=
  (says_ask (show t.IsOwn (.hdel t.hashKey [id]) from rfl) _).bind fun _ => trivial

/-- The key of the tasks is none of a record. -/
lemma fades_of_isOwn (h : t.connection = w.connection) {c : Command} (hc : t.IsOwn c) :
    w.Fades added c := by
  cases c with
  | hset key fields | hdel key fields =>
    obtain rfl : key = t.hashKey := hc
    exact fun id => (RedisWorkers.hashKey_ne_infoKey h id).symm
  | hget => trivial
  | _ => exact hc.elim

end RedisTasks

namespace TaskBackend

variable {b : TaskBackend} {r : WorkerBackend} {added : String → Prop}

/-- A call about tasks changes the tasks in memory, or it talks about their key. -/
lemma perform_cases (b : TaskBackend) (call : TaskCall) (s : Site) :
    (∃ ts, (call.perform b.store s).2 = { s with tasks := ts }) ∨
      ∃ (t : RedisTasks) (α : Type) (d : Timestamp → Dialogue α), b = redis t ∧
        (∀ now, (d now).Says t.IsOwn) ∧ (call.perform b.store s).2 = (Site.onLine d s).2 := by
  cases b with
  | memory =>
    left
    cases call <;> (rw [TaskCall.perform, Query.map_apply]; exact ⟨_, rfl⟩)
  | redis t =>
    refine .inr ⟨t, ?_⟩
    cases call with
    | add task =>
      rw [TaskCall.perform, Query.map_apply]
      exact ⟨_, fun now => t.add now task, rfl, fun _ => RedisTasks.says_save _, rfl⟩
    | get id =>
      rw [TaskCall.perform, Query.map_apply]
      exact ⟨_, fun _ => t.get id, rfl, fun _ => RedisTasks.says_get id, rfl⟩
    | update task =>
      rw [TaskCall.perform, Query.map_apply]
      exact ⟨_, fun now => t.update now task, rfl, fun now => RedisTasks.says_update now task, rfl⟩
    | remove id =>
      rw [TaskCall.perform, Query.map_apply]
      exact ⟨_, fun _ => t.remove id, rfl, fun _ => RedisTasks.says_remove id, rfl⟩

/-- A call about tasks brings no worker about. -/
lemma fading_perform (h : ∀ t w, b = redis t → r = .redis w → t.connection = w.connection)
    (call : TaskCall) (s : Site) : (r.fading added).leads s (call.perform b.store s).2 := by
  obtain ⟨ts, hs⟩ | ⟨t, α, d, rfl, hd, hs⟩ := b.perform_cases call s
  · rw [hs]
    cases r with
    | memory ttl => exact WorkerBackend.fading_memory rfl MemoryWorkers.fades_refl
    | redis w => exact WorkerBackend.fading_redis id fun _ => (w.fading added).refl _
  · rw [hs]
    cases r with
    | memory ttl => exact WorkerBackend.fading_memory rfl MemoryWorkers.fades_refl
    | redis w =>
      exact WorkerBackend.fading_onLine
        (fun now => (hd now).mono fun _ => RedisTasks.fades_of_isOwn (h t w rfl rfl)) s

end TaskBackend

/-- The two stores of a configuration share a connection if both are in Redis. -/
lemma Config.same_connection (c : Config) (t : RedisTasks) (w : RedisWorkers)
    (ht : c.tasks = .redis t) (hw : c.registry = .redis w) : t.connection = w.connection := by
  unfold Config.tasks at ht
  unfold Config.registry at hw
  cases htasks : c.taskStore.backend with
  | memory =>
    rw [htasks] at ht
    exact absurd ht (by simp)
  | redis =>
    cases hworkers : c.workerStore.backend with
    | memory =>
      rw [hworkers] at hw
      exact absurd hw (by simp)
    | redis =>
      rw [htasks] at ht
      rw [hworkers] at hw
      rw [← TaskBackend.redis.inj ht, ← WorkerBackend.redis.inj hw]

/-! ### The workers while tasks are written -/

namespace RedisWorkers

variable {w : RedisWorkers} {t : RedisTasks} {m : Registry} {now : Clock} {server server' : Server}

/-- Whether a key is one of the workers. -/
def IsOwn (w : RedisWorkers) (key : String) : Prop := key = w.setKey ∨ ∃ id, key = w.infoKey id

/-- The conduct in which the time and what is found under the keys of the workers stay. -/
def sparing (w : RedisWorkers) : Conduct Server where
  leads s s' := s'.clock = s.clock ∧ ∀ key, w.IsOwn key → s'.entry? key = s.entry? key
  refl _ := ⟨rfl, fun _ _ => rfl⟩
  trans h h' := ⟨h'.1.trans h.1, fun key hkey => (h'.2 key hkey).trans (h.2 key hkey)⟩

/-- A server on which the keys of the workers stay as they are goes on holding the registry. -/
lemma Holds.spared (h : w.Holds m now server) (hs : w.sparing.leads server server') :
    w.Holds m now server' := by
  refine ⟨hs.1.trans h.clock, ?_, fun id => ?_, h.sized⟩
  · obtain ⟨ms, hnodup, hset, hmem⟩ := h.listed
    exact ⟨ms, hnodup, (hs.2 _ (.inl rfl)).trans hset, hmem⟩
  · rw [hs.2 _ (.inr ⟨id, rfl⟩)]
    exact h.live id

/-- A command about the key of the tasks names no key of the workers. -/
lemma sparing_execute (h : t.connection = w.connection) {c : Command} (hc : t.IsOwn c)
    (server : Server) : w.sparing.leads server (server.execute c).2 := by
  refine ⟨server.clock_execute c, fun key hkey => server.entry?_execute fun hmem => ?_⟩
  have hname : key = t.hashKey := by
    cases c with
    | hset k _ | hget k _ | hdel k _ => exact (List.mem_singleton.mp hmem).trans hc
    | _ => exact hc.elim
  obtain rfl | ⟨id, rfl⟩ := hkey
  · exact hashKey_ne_setKey h hname.symm
  · exact hashKey_ne_infoKey h id hname.symm

end RedisWorkers

/-- **The calls about tasks leave the workers alone**: the store holds the same registry after
them.

**Proof sketch.** The tasks are in another part of the memory, or on the server under a key of their
own. In the second case the keys of the workers are spared by every command, which is all that the
registry depends on. -/
theorem Site.holds_tasks (c : Config) (call : TaskCall) {m : Registry} {s : Site}
    (h : c.registry.Holds m s) :
    c.registry.Holds m (call.perform (Site.stores c).tasks s).2 ∧
      (call.perform (Site.stores c).tasks s).2.clock = s.clock := by
  rw [Site.tasks_stores]
  have hsame := c.same_connection
  cases hr : c.registry with
  | memory ttl =>
    rw [hr] at h
    obtain ⟨ts, hs⟩ | ⟨t, α, d, -, -, hs⟩ := c.tasks.perform_cases call s
    · rw [hs]
      exact ⟨⟨h.proper, h.live⟩, rfl⟩
    · rw [hs]
      exact ⟨⟨h.proper, h.live⟩, rfl⟩
  | redis w =>
    rw [hr] at h
    obtain ⟨ts, hs⟩ | ⟨t, α, d, ht, hd, hs⟩ := c.tasks.perform_cases call s
    · rw [hs]
      exact ⟨h, rfl⟩
    · rw [hs]
      obtain ⟨sent, hsent⟩ := Site.onLine_of_isPlain d h.1
      have hspared := (hd s.now).leads
        (fun _ hc => RedisWorkers.sparing_execute (hsame t w ht hr) hc) s.line.server
      rw [hsent]
      exact ⟨⟨h.1, h.2.spared hspared⟩, rfl⟩

/-- **The calls about tasks bring no worker about**, in the stores of every configuration. -/
theorem Site.fading_tasks (c : Config) {added : String → Prop} (call : TaskCall) (s : Site) :
    (c.registry.fading added).leads s (call.perform (Site.stores c).tasks s).2 := by
  rw [Site.tasks_stores]
  exact TaskBackend.fading_perform c.same_connection call s

/-- The same if some of them fail. -/
lemma Site.fading_tasks_withFaults (c : Config) {added : String → Prop} (call : TaskCall)
    (w : Faulty Site) : (c.registry.fading added).leads w.base
      (call.perform (Site.stores c).withFaults.tasks w).2.base := by
  obtain ⟨hbase, -⟩ | ⟨hbase, -⟩ := call.perform_withFaults (Site.stores c) w
  · rw [hbase]
    exact (c.registry.fading added).refl _
  · rw [hbase]
    exact Site.fading_tasks c call w.base

end ConversionScheduler
