import ConversionScheduler.Proofs.IndexEffects
/-!
# Many clients of the workers in Redis

Clients of one server take turns in no particular order. Each says a command or a transaction, and
what it says next depends on the reply. An id whose record was found missing is struck off the set
of ids in an exchange of its own, and before it others may come in. If the worker registers in
between, the set loses it although its record is there, and signs of life do not bring it back. That
is all that can go wrong: the set lacks a worker whose record is there if and only if a client found
the record missing, the worker then registered, the client struck the id off, and the worker has not
registered since.

## Main definitions

* `RedisWorkers.Traffic`, `RedisWorkers.Traffic.run` — a server, and the dialogues that clients have
  with it at the same time.
* `RedisWorkers.Overtaken` — a registration came in between a look and what followed from it.
* `RedisWorkers.Heeds` — the dialogues that strike off only what was found missing.
* `RedisWorkers.Chronicle` — what was said, and on what grounds.

## Main results

* `RedisWorkers.heeds_dialogue` — an id is struck off only once its record was found missing.
* `RedisWorkers.Traffic.isChronicled_run` — so it is, whatever others say in between.
* `RedisWorkers.Chronicle.exists_registers` — a record comes back only by a registration.
* `RedisWorkers.Chronicle.mem_listed_iff` — the set lacks a worker just if it was struck off since
  it registered.
* `RedisWorkers.listed_iff_not_overtaken` — and it was struck off just if it was overtaken.
-/

namespace ConversionScheduler

open Redis (Server Reply Dialogue Block Command)

namespace RedisWorkers

/-! ## Clients of one server -/

/-- The dialogue of a call. -/
def dialogue (w : RedisWorkers) (now : Timestamp) : WorkerCall → Dialogue WorkerAnswer
  | .add r => do
    w.add r
    return .nothing
  | .remove id => do
    w.remove id
    return .nothing
  | .get id => return .record (← w.get id)
  | .ids => return .ids (← w.ids)
  | .heartbeat r => return .record (← w.heartbeat now r)

/-- The workers as another client with the same names of keys has them. -/
def sharing (w : RedisWorkers) (timeout ttl : Duration) : RedisWorkers :=
  ⟨⟨w.connection.namespaceName, timeout⟩, ttl⟩

/-- A block that was executed: in which dialogue it was said, and what the server was like then. -/
structure Utterance where
  speaker : Nat
  block : Block
  server : Server

/-- A server, the dialogues with it in the order in which they began, and what was executed, the
last first. -/
structure Traffic where
  server : Server
  dialogues : List (Dialogue WorkerAnswer) := []
  history : List Utterance := []

/-- What may happen next. -/
inductive Move
  /-- A client makes a call. -/
  | begin (timeout ttl : Duration) (now : Timestamp) (call : WorkerCall)
  /-- What a dialogue says next is executed. The reply arrives, or it does not. -/
  | exchange (n : Nat) (arrives : Bool)
  /-- What a dialogue says next is lost. -/
  | lose (n : Nat)
  /-- Time passes. -/
  | pass (d : Duration)

namespace Traffic

/-- What comes of a move. -/
def next (t : Traffic) (w : RedisWorkers) : Move → Traffic
  | .begin timeout ttl now call =>
    { t with dialogues := t.dialogues ++ [(w.sharing timeout ttl).dialogue now call] }
  | .exchange n arrives =>
    match t.dialogues[n]? with
    | some (.exchange b k) =>
      let (r, server) := t.server.respond b
      ⟨server, t.dialogues.set n (k (if arrives then some r else none)),
        ⟨n, b, t.server⟩ :: t.history⟩
    | _ => t
  | .lose n =>
    match t.dialogues[n]? with
    | some (.exchange _ k) => { t with dialogues := t.dialogues.set n (k none) }
    | _ => t
  | .pass d => { t with server := t.server.advance d }

/-- What comes of moves. -/
def run (t : Traffic) (w : RedisWorkers) (moves : List Move) : Traffic :=
  moves.foldl (fun t move => t.next w move) t

end Traffic

/-- Whether the speaker was told that there is no record. -/
def Utterance.Missed (w : RedisWorkers) (u : Utterance) (id : String) : Prop :=
  w.Misses u.block (u.server.respond u.block).1 id

/-- Whether a dialogue found a record missing, the worker then registered, the dialogue struck it
off, and the worker has not registered since. -/
def Overtaken (w : RedisWorkers) (history : List Utterance) (id : String) : Prop :=
  ∃ newer strike between look older, history = newer ++ strike :: (between ++ look :: older) ∧
    look.Missed w id ∧ strike.speaker = look.speaker ∧ w.Strikes strike.block id ∧
    (∃ u ∈ between, w.Registers u.block id) ∧ ∀ u ∈ newer, ¬ w.Registers u.block id

variable {w : RedisWorkers} {s : Server} {id : String}

/-! ## On what grounds ids are struck off -/

variable (w) in
/-- Whether a dialogue says nothing but the phrases of a client, and strikes off only ids whose
records it was told are missing. -/
def Heeds {α : Type} : Dialogue α → (String → Prop) → Prop
  | .done _, _ => True
  | .exchange b k, missed => w.Phrase missed b ∧
    ∀ r, Heeds (k r) fun id => missed id ∨ ∃ reply, r = some reply ∧ w.Misses b reply id

section Heeds

variable {α β : Type} {missed missed' : String → Prop} {d : Dialogue α} {timeout ttl : Duration}

/-- A dialogue that strikes off on some grounds may do so on more. -/
lemma Heeds.mono (h : w.Heeds d missed) (hle : ∀ id, missed id → missed' id) :
    w.Heeds d missed' := by
  induction d generalizing missed missed' with
  | done r => trivial
  | exchange b k ih =>
    exact ⟨h.1.mono hle, fun r => ih r (h.2 r) fun id hid => hid.imp (hle id) fun hid => hid⟩

/-- Two dialogues, the second of which needs no grounds from the first. -/
lemma Heeds.bind {f : α → Dialogue β} (h : w.Heeds d missed)
    (hf : ∀ a missed', w.Heeds (f a) missed') : w.Heeds (d >>= f) missed := by
  induction d generalizing missed with
  | done r =>
    cases r with
    | error e => trivial
    | ok a => exact hf a missed
  | exchange b k ih => exact ⟨h.1, fun r => ih r (h.2 r)⟩

/-- An attempt says what the dialogue says. -/
lemma Heeds.attempt (h : w.Heeds d missed) : w.Heeds d.attempt missed := by
  induction d generalizing missed with
  | done r => trivial
  | exchange b k ih => exact ⟨h.1, fun r => ih r (h.2 r)⟩

/-- A single command of a client. -/
lemma heeds_ask {c : Redis.Connection} {command : Command} {read : Reply → Option α}
    (h : w.Phrase missed (.single command)) : w.Heeds (c.ask command read) missed := by
  refine ⟨h, fun r => ?_⟩
  dsimp only
  split
  · trivial
  · trivial
  · split <;> trivial

/-- A command, and what follows its reply. -/
lemma heeds_ask_bind {c : Redis.Connection} {command : Command} {read : Reply → Option α}
    {f : α → Dialogue β} (hphrase : w.Phrase missed (.single command))
    (hf : ∀ r a, read r = some a →
      w.Heeds (f a) fun id => missed id ∨ w.Misses (.single command) r id) :
    w.Heeds (c.ask command read >>= f) missed := by
  refine ⟨hphrase, fun r => ?_⟩
  cases r with
  | none => trivial
  | some r =>
    cases r with
    | error e => trivial
    | _ =>
      dsimp only
      cases hread : read _ with
      | none => trivial
      | some a =>
        refine (hf _ a hread).mono fun id hid => ?_
        exact hid.imp (fun hid => hid) fun hid => ⟨_, rfl, hid⟩

/-- A transaction of a client. -/
lemma heeds_transact {c : Redis.Connection} {commands : List Command}
    (h : w.Phrase missed (.atomic commands)) : w.Heeds (c.transact commands) missed := by
  refine ⟨h, fun r => ?_⟩
  cases r with
  | none => trivial
  | some r =>
    dsimp only
    split <;> trivial

/-- Ids may be struck off once they were found missing. -/
lemma heeds_strikeOff {ids : List String} (h : ∀ id ∈ ids, missed id) :
    w.Heeds ((w.sharing timeout ttl).strikeOff ids) missed := by
  unfold strikeOff
  split
  · trivial
  · exact (Heeds.attempt (heeds_ask (.strike ids h))).bind fun _ _ => trivial

/-- A look for a worker strikes it off only if the reply was nil. -/
lemma heeds_get (id : String) : w.Heeds ((w.sharing timeout ttl).get id) missed := by
  refine heeds_ask_bind (.get id) fun r text hread => ?_
  cases text with
  | some text => trivial
  | none =>
    have hnil : r = .nil := by
      cases r <;> simp_all [Reply.optionalText?, Reply.text?]
    refine (heeds_strikeOff fun id' hid' => .inr ?_).bind fun _ _ => trivial
    rw [List.mem_singleton.mp hid', hnil]
    rfl

/-- A gap in a list of texts is a reply that there is nothing.

**Proof sketch.** Induction on the replies. A reply that is read as no text is the one that says
that there is nothing, and its place among the replies is the place of the gap among the texts. -/
lemma nil_mem_zip {ids : List String} {rs : List Reply} {texts : List (Option String)}
    (hread : rs.mapM Reply.optionalText? = some texts) (hid : (id, none) ∈ ids.zip texts) :
    (w.infoKey id, Reply.nil) ∈ (ids.map w.infoKey).zip rs := by
  induction rs generalizing ids texts with
  | nil =>
    obtain rfl : texts = [] := by simpa using hread.symm
    exact absurd hid (by simp)
  | cons r rs ih =>
    rw [List.mapM_cons] at hread
    cases hr : r.optionalText? with
    | none => simp [hr] at hread
    | some text =>
      cases hrs : rs.mapM Reply.optionalText? with
      | none => simp [hr, hrs] at hread
      | some rest =>
        obtain rfl : texts = text :: rest := by simpa [hr, hrs] using hread.symm
        cases ids with
        | nil => exact absurd hid (by simp)
        | cons id' ids =>
          rw [List.map_cons, List.zip_cons_cons]
          rw [List.zip_cons_cons] at hid
          rcases List.mem_cons.mp hid with heq | hid
          · obtain ⟨rfl, rfl⟩ := Prod.mk.inj heq
            have hnil : r = .nil := by
              cases r <;> simp_all [Reply.optionalText?, Reply.text?]
            rw [hnil]
            exact List.mem_cons_self ..
          · exact List.mem_cons_of_mem _ (ih hrs hid)

/-- A listing strikes off those ids whose place in the reply to `MGET` was nil. -/
lemma heeds_ids : w.Heeds (w.sharing timeout ttl).ids missed := by
  refine heeds_ask_bind .list fun _ members _ => ?_
  split
  · trivial
  · refine heeds_ask_bind (.getAll members) fun r records hread => ?_
    refine (heeds_strikeOff fun id hid => .inr ?_).bind fun _ _ => trivial
    obtain ⟨⟨id', record⟩, hin, rfl⟩ := List.mem_map.mp hid
    obtain ⟨hin, hnone⟩ := List.mem_filter.mp hin
    obtain rfl : record = none := by simpa using hnone
    cases r with
    | list rs => exact nil_mem_zip hread hin
    | nil =>
      obtain rfl : records = [] := by simpa [Reply.optionalTexts?, Reply.items?] using hread.symm
      exact absurd hin (by simp)
    | _ => simp [Reply.optionalTexts?, Reply.items?] at hread

/-- A sign of life strikes the worker off only if the reply to the renewal was nil. -/
lemma heeds_heartbeat (now : Timestamp) (r : WorkerRecord) :
    w.Heeds ((w.sharing timeout ttl).heartbeat now r) missed := by
  refine heeds_ask_bind (.renew r.id _ _) fun _ _ _ => ?_
  split <;> trivial

/-- **An id is struck off only once its record was found missing**, in the same dialogue. -/
theorem heeds_dialogue (now : Timestamp) (call : WorkerCall) :
    w.Heeds ((w.sharing timeout ttl).dialogue now call) missed := by
  cases call with
  | add r => exact (heeds_transact (.add r.id _ _)).bind fun _ _ => trivial
  | remove id => exact (heeds_transact (.remove id)).bind fun _ _ => trivial
  | get id => exact (heeds_get id).bind fun _ _ => trivial
  | ids => exact heeds_ids.bind fun _ _ => trivial
  | heartbeat r => exact (heeds_heartbeat now r).bind fun _ _ => trivial

end Heeds

/-! ## What was said -/

variable (w) in
/-- What a server has become, beginning with `s₀`, if clients have said what they may say in some
order. -/
inductive Chronicle (s₀ : Server) : List Utterance → Server → Prop
  | start : Chronicle s₀ [] s₀
  | say {history : List Utterance} {s : Server} (h : Chronicle s₀ history s) (n : Nat) {b : Block}
    (hb : w.Phrase (fun id => ∃ u ∈ history, u.speaker = n ∧ u.Missed w id) b) :
    Chronicle s₀ (⟨n, b, s⟩ :: history) (s.respond b).2
  | pass {history : List Utterance} {s : Server} (h : Chronicle s₀ history s) (d : Duration) :
    Chronicle s₀ history (s.advance d)

namespace Chronicle

variable {s₀ : Server} {history newer older : List Utterance} {u : Utterance}

/-- The keys keep their kinds through all that is said. -/
lemma isProper (h₀ : w.IsProper s₀) (h : w.Chronicle s₀ history s) : w.IsProper s := by
  induction h with
  | start => exact h₀
  | say _ n hb ih => exact (effect_respond ih hb).proper
  | pass _ d ih => exact ih.advance d

/-- The last utterance. -/
lemma last (h : w.Chronicle s₀ (u :: older) s) :
    w.Chronicle s₀ older u.server ∧
      w.Phrase (fun id => ∃ v ∈ older, v.speaker = u.speaker ∧ v.Missed w id) u.block ∧
      ∀ id, w.IsLive s id → w.IsLive (u.server.respond u.block).2 id := by
  generalize hhistory : u :: older = history at h
  induction h with
  | start => exact absurd hhistory (by simp)
  | say h n hb =>
    obtain ⟨rfl, rfl⟩ := List.cons.inj hhistory
    exact ⟨h, hb, fun _ hlive => hlive⟩
  | pass _ d ih =>
    obtain ⟨hfront, hphrase, hlive⟩ := ih hhistory
    exact ⟨hfront, hphrase, fun id hid => hlive id hid.of_advance⟩

/-- An utterance before the last ones. -/
lemma exists_of_append (h : w.Chronicle s₀ (newer ++ older) s) : ∃ t, w.Chronicle s₀ older t := by
  induction newer generalizing s with
  | nil => exact ⟨s, h⟩
  | cons u newer ih => exact ih h.last.1

/-- **A record comes back only by a registration.** -/
theorem exists_registers (h₀ : w.IsProper s₀) (h : w.Chronicle s₀ (newer ++ u :: older) s)
    (hdead : ¬ w.IsLive u.server id) (hlive : w.IsLive s id) :
    w.Registers u.block id ∨ ∃ v ∈ newer, w.Registers v.block id := by
  induction newer generalizing s with
  | nil =>
    obtain ⟨hfront, hphrase, hlast⟩ := h.last
    exact .inl ((effect_respond (hfront.isProper h₀) hphrase).revived id (hlast id hlive) hdead)
  | cons v newer ih =>
    obtain ⟨hfront, hphrase, hlast⟩ := h.last
    by_cases hv : w.IsLive v.server id
    · refine (ih hfront hv).imp (fun hu => hu) fun ⟨x, hx, hregisters⟩ => ?_
      exact ⟨x, List.mem_cons_of_mem _ hx, hregisters⟩
    · exact .inr ⟨v, List.mem_cons_self ..,
        (effect_respond (hfront.isProper h₀) hphrase).revived id (hlast id hlive) hv⟩

variable (w) in
/-- Whether an id was struck off since the worker last registered. -/
def Struck (id : String) : List Utterance → Prop
  | [] => False
  | u :: older => ¬ w.Registers u.block id ∧ (w.Strikes u.block id ∨ Struck id older)

/-- **The set lacks a worker that is there just if it was struck off since it registered.** -/
theorem mem_listed_iff (h₀ : w.IsProper s₀) (hlisted : ∀ id, w.IsLive s₀ id → id ∈ w.listed s₀)
    (h : w.Chronicle s₀ history s) (hlive : w.IsLive s id) :
    id ∈ w.listed s ↔ ¬ Struck w id history := by
  induction h with
  | start => exact iff_of_true (hlisted id hlive) fun hstruck => hstruck
  | @say history s h n b hb ih =>
    have heffect := effect_respond (h.isProper h₀) hb
    show _ ↔ ¬ (¬ w.Registers b id ∧ (w.Strikes b id ∨ Struck w id history))
    by_cases hregisters : w.Registers b id
    · exact iff_of_true (heffect.registered id hregisters) fun hstruck => hstruck.1 hregisters
    by_cases hstrikes : w.Strikes b id
    · exact iff_of_false (heffect.struck id hstrikes) fun hnot => hnot ⟨hregisters, .inl hstrikes⟩
    · have hbefore : w.IsLive s id := by
        by_contra hdead
        exact hregisters (heffect.revived id hlive hdead)
      rw [heffect.kept id hlive hregisters hstrikes, ih hbefore]
      simp [hregisters, hstrikes]
  | pass h d ih => rw [(h.isProper h₀).listed_advance, ih hlive.of_advance]

/-- What was struck off was struck off at some time, and there was no registration after it.

**Proof sketch.** Induction on the history, from the latest utterance back. It is the striking
itself, or one after it, which is then no registration; an utterance that strikes off registers
nobody. -/
lemma struck_iff : Struck w id history ↔ ∃ newer strike older, history = newer ++ strike :: older ∧
    w.Strikes strike.block id ∧ ∀ u ∈ newer, ¬ w.Registers u.block id := by
  induction history with
  | nil => simp [Struck]
  | cons u history ih =>
    rw [Struck, ih]
    constructor
    · rintro ⟨hregisters, hstrikes | ⟨newer, strike, older, rfl, hstrikes, hnewer⟩⟩
      · exact ⟨[], u, history, rfl, hstrikes, by simp⟩
      · refine ⟨u :: newer, strike, older, rfl, hstrikes, fun v hv => ?_⟩
        rcases List.mem_cons.mp hv with rfl | hv
        · exact hregisters
        · exact hnewer v hv
    · rintro ⟨newer, strike, older, heq, hstrikes, hnewer⟩
      cases newer with
      | nil =>
        obtain ⟨rfl, rfl⟩ := List.cons.inj heq
        refine ⟨?_, .inl hstrikes⟩
        obtain ⟨ids, hb, -⟩ := hstrikes
        rw [hb]
        exact not_registers_single _ id
      | cons v newer =>
        obtain ⟨rfl, rfl⟩ := List.cons.inj heq
        exact ⟨hnewer u (List.mem_cons_self ..), .inr ⟨newer, strike, older, rfl, hstrikes,
          fun v hv => hnewer v (List.mem_cons_of_mem _ hv)⟩⟩

/-- **Who is there and was struck off was overtaken.**

**Proof sketch.** The record was there when the id was struck off, or else the worker has registered
since. But it was missing when the client looked, so the worker registered in between. -/
theorem struck_iff_overtaken (h₀ : w.IsProper s₀) (h : w.Chronicle s₀ history s)
    (hlive : w.IsLive s id) : Struck w id history ↔ w.Overtaken history id := by
  rw [struck_iff]
  constructor
  · rintro ⟨newer, strike, front, rfl, hstrikes, hnewer⟩
    obtain ⟨ids, hblock, hid⟩ := hstrikes
    obtain ⟨t, hstrike⟩ := h.exists_of_append
    obtain ⟨hfront, hphrase, -⟩ := hstrike.last
    have hthere : w.IsLive strike.server id := by
      by_contra hdead
      obtain hregisters | ⟨u, hu, hregisters⟩ := h.exists_registers h₀ hdead hlive
      · rw [hblock] at hregisters
        exact not_registers_single _ id hregisters
      · exact hnewer u hu hregisters
    obtain ⟨look, hlook, hspeaker, hmissed⟩ : ∃ look ∈ front,
        look.speaker = strike.speaker ∧ look.Missed w id := by
      rw [hblock] at hphrase
      cases hphrase with
      | strike _ hids => exact hids id hid
    obtain ⟨between, older, rfl⟩ := List.append_of_mem hlook
    obtain ⟨t', hlooked⟩ := hfront.exists_of_append
    obtain ⟨hbefore, -, -⟩ := hlooked.last
    have hgone : ¬ w.IsLive look.server id := not_isLive_of_misses (hbefore.isProper h₀) hmissed
    refine ⟨newer, strike, between, look, older, rfl, hmissed, hspeaker.symm, ⟨ids, hblock, hid⟩,
      ?_, hnewer⟩
    refine (hfront.exists_registers h₀ hgone hthere).resolve_left fun hregisters => ?_
    obtain ⟨record, hlookblock⟩ := hregisters
    rw [Utterance.Missed, hlookblock] at hmissed
    exact hmissed
  · rintro ⟨newer, strike, between, look, older, rfl, -, -, hstrikes, -, hnewer⟩
    exact ⟨newer, strike, _, rfl, hstrikes, hnewer⟩

end Chronicle

/-! ## Many dialogues at once -/

namespace Traffic

variable {s₀ : Server} {t : Traffic}

/-- Whether what was executed is what clients may say, and every dialogue goes on accordingly. -/
structure IsChronicled (t : Traffic) (w : RedisWorkers) (s₀ : Server) : Prop where
  chronicle : w.Chronicle s₀ t.history t.server
  heeds : ∀ n d, t.dialogues[n]? = some d →
    w.Heeds d fun id => ∃ u ∈ t.history, u.speaker = n ∧ u.Missed w id

/-- A property of every dialogue, once one of them has gone on. -/
lemma forall_set {dialogues : List (Dialogue WorkerAnswer)} {n : Nat} {d' : Dialogue WorkerAnswer}
    {p : Nat → Dialogue WorkerAnswer → Prop} (hself : p n d')
    (hother : ∀ m d, dialogues[m]? = some d → p m d) (m : Nat) (d : Dialogue WorkerAnswer)
    (hm : (dialogues.set n d')[m]? = some d) : p m d := by
  rw [List.getElem?_set] at hm
  split at hm
  · rename_i heq
    subst heq
    split at hm
    · exact Option.some.inj hm ▸ hself
    · exact absurd hm (by simp)
  · exact hother m d hm

/-- One move.

**Proof sketch.** A dialogue that begins says what its call says and knows nothing yet. One that
goes on says its next phrase, and what it knows afterwards is what it knew before and what the reply
has told it. The other dialogues know what they knew. -/
lemma isChronicled_next (h : t.IsChronicled w s₀) (move : Move) :
    (t.next w move).IsChronicled w s₀ := by
  cases move with
  | begin timeout ttl now call =>
    refine ⟨h.chronicle, fun n d hd => ?_⟩
    rcases Nat.lt_or_ge n t.dialogues.length with hn | hn
    · rw [next, List.getElem?_append_left hn] at hd
      exact h.heeds n d hd
    · rw [next, List.getElem?_append_right hn] at hd
      obtain rfl := List.mem_singleton.mp (List.mem_of_getElem? hd)
      exact heeds_dialogue now call
  | exchange n arrives =>
    rw [next]
    split
    · rename_i b k hd
      obtain ⟨hphrase, hrest⟩ := h.heeds n _ hd
      refine ⟨h.chronicle.say n hphrase, forall_set ((hrest _).mono fun id hid => ?_)
        fun m d hm => (h.heeds m d hm).mono fun id ⟨u, hu, hspeaker, hmissed⟩ =>
          ⟨u, List.mem_cons_of_mem _ hu, hspeaker, hmissed⟩⟩
      -- what the dialogue knows, it knew before or has just been told
      rcases hid with ⟨u, hu, hspeaker, hmissed⟩ | ⟨reply, hreply, hmisses⟩
      · exact ⟨u, List.mem_cons_of_mem _ hu, hspeaker, hmissed⟩
      · cases arrives with
        | false => exact absurd hreply (by simp)
        | true =>
          obtain rfl := Option.some.inj hreply
          exact ⟨_, List.mem_cons_self .., rfl, hmisses⟩
    · exact h
  | lose n =>
    rw [next]
    split
    · rename_i b k hd
      obtain ⟨-, hrest⟩ := h.heeds n _ hd
      refine ⟨h.chronicle, forall_set ((hrest none).mono fun id hid => ?_) h.heeds⟩
      exact hid.resolve_right fun ⟨_, hreply, _⟩ => absurd hreply (by simp)
    · exact h
  | pass d => exact ⟨h.chronicle.pass d, h.heeds⟩

/-- **Whatever happens, what was executed is what clients may say.** -/
theorem isChronicled_run (h : t.IsChronicled w s₀) (moves : List Move) :
    (t.run w moves).IsChronicled w s₀ := by
  induction moves generalizing t with
  | nil => exact h
  | cons move moves ih => exact ih (isChronicled_next h move)

/-- Where nothing was said yet there is nothing to account for. -/
lemma isChronicled_start (w : RedisWorkers) (s₀ : Server) :
    (⟨s₀, [], []⟩ : Traffic).IsChronicled w s₀ :=
  ⟨.start, fun n d hd => absurd hd (by simp)⟩

end Traffic

/-! ## What the set lacks -/

/-- A worker has a text under its key just if its record is there. -/
lemma isSome_textAt?_iff (h : w.IsProper s) :
    (textAt? s (w.infoKey id)).isSome = true ↔ w.IsLive s id := by
  refine ⟨isSome_of_textAt?, fun hlive => ?_⟩
  obtain ⟨e, he⟩ := Option.isSome_iff_exists.mp hlive
  obtain ⟨t, ht⟩ := h.texts id e he
  rw [textAt?, Server.datum?, he, Option.map_some, ht]
  rfl

/-- **The set lacks a worker that is there if and only if a registration was overtaken**: a client
found the record missing, the worker registered, the client struck it off, and the worker has not
registered since. This holds of any calls of any number of clients with the same names of keys, each
with its own time to live, in any order of their exchanges, whether or not their replies arrive, as
time passes, if it holds at first that every worker that is there is in the set. And the workers
that are in the set and there are those that are listed next, if nobody comes in between.

**Proof sketch.** Every run is chronicled: its history tells which utterances have changed the
server, and whatever a dialogue strikes off it has missed before. By induction on the history a live
id is out of the set just if it was struck off and not registered since; and since it is live, it
has registered between the miss and the striking. -/
theorem listed_iff_not_overtaken {s₀ : Server} (h₀ : w.IsProper s₀)
    (hlisted : ∀ id, w.IsLive s₀ id → id ∈ w.listed s₀) (moves : List Move) :
    let t := (⟨s₀, [], []⟩ : Traffic).run w moves
    (∀ id, w.IsLive t.server id → (id ∈ w.listed t.server ↔ ¬ w.Overtaken t.history id)) ∧
      ∃ ids s', w.ids.run t.server = (.ok ids, s') ∧
        ∀ id, id ∈ ids ↔ id ∈ w.listed t.server ∧ w.IsLive t.server id := by
  intro t
  have h := (Traffic.isChronicled_run (Traffic.isChronicled_start w s₀) moves).chronicle
  have hproper := h.isProper h₀
  constructor
  · intro id hlive
    rw [h.mem_listed_iff h₀ hlisted hlive, h.struck_iff_overtaken h₀ hlive]
  · obtain ⟨ms, hms⟩ := hproper.listed
    obtain ⟨s', hrun, -⟩ := run_ids_of_holdsSet hms
    refine ⟨_, s', hrun, fun id => ?_⟩
    rw [mem_sortIds, List.mem_filter, listed_eq hms, isSome_textAt?_iff hproper]

/-! ## A race -/

/-- A server without keys is proper. -/
lemma isProper_empty (w : RedisWorkers) : w.IsProper .empty :=
  ⟨⟨[], rfl⟩, fun _ _ he => absurd he (by simp [Server.entry?, Server.empty])⟩

/-- A client. -/
def onlooker : RedisWorkers := ⟨⟨"cs", .ofSeconds 5⟩, .ofSeconds 300⟩

/-- Somebody looks for a worker, and the worker registers. -/
def arrival : List Move :=
  [.begin (.ofSeconds 5) (.ofSeconds 300) .epoch (.get "w"),
    .begin (.ofSeconds 5) (.ofSeconds 300) .epoch (.add ⟨"w", "a:1", .epoch, 3⟩),
    .exchange 0 true, .exchange 1 true]

/-- The one who looked goes on from the reply, and the worker gives a sign of life. -/
def departure : List Move :=
  [.exchange 0 true,
    .begin (.ofSeconds 5) (.ofSeconds 300) .epoch (.heartbeat ⟨"w", "a:1", .epoch, 3⟩),
    .exchange 2 true]

/-- The worker is listed as soon as it has registered. -/
theorem listed_iff_not_overtaken_arrival :
    let t := (⟨.empty, [], []⟩ : Traffic).run onlooker arrival
    onlooker.IsProper .empty ∧ onlooker.IsLive t.server "w" ∧
      ¬ onlooker.Overtaken t.history "w" ∧
      ∃ ids s', onlooker.ids.run t.server = (.ok ids, s') ∧ "w" ∈ ids := by
  intro t
  have hnobody : ∀ id, onlooker.IsLive .empty id → id ∈ onlooker.listed .empty :=
    fun id hlive => absurd hlive (by simp [IsLive, Server.entry?, Server.empty])
  have hlive : onlooker.IsLive t.server "w" := by decide +kernel
  have hlisted : "w" ∈ onlooker.listed t.server := by decide +kernel
  obtain ⟨hiff, ids, s', hrun, hids⟩ :=
    listed_iff_not_overtaken (isProper_empty onlooker) hnobody arrival
  exact ⟨isProper_empty onlooker, hlive, (hiff "w" hlive).mp hlisted, ids, s', hrun,
    (hids "w").mpr ⟨hlisted, hlive⟩⟩

/-- Then it is struck off. Its record is there, its sign of life is taken, and nobody lists it. -/
theorem live_worker_lost :
    let t := (⟨.empty, [], []⟩ : Traffic).run onlooker (arrival ++ departure)
    onlooker.IsLive t.server "w" ∧ onlooker.listed t.server = [] ∧
      (onlooker.ids.run t.server).1 = .ok [] ∧
      ∃ r, t.dialogues[2]? = some (.done (.ok (.record r))) := by
  intro t
  exact ⟨by decide +kernel, by decide +kernel, by decide +kernel, _, rfl⟩

end RedisWorkers

end ConversionScheduler
