import ConversionScheduler.Proofs.RedisRegistry
/-!
# What clients do to the records and to the set of ids

Several clients may use the same keys of a server. Whatever they do in between, each command or
transaction that one of them says has an effect of its own: a registration puts the id into the set,
nothing else brings a record back, and only striking an id off takes one out whose record is there.

## Main definitions

* `RedisWorkers.IsLive`, `RedisWorkers.listed` — whose record is there, and who is in the set.
* `RedisWorkers.Registers`, `RedisWorkers.Strikes` — the blocks that change the set.
* `RedisWorkers.Misses` — a reply from which a client knows that a record is missing.
* `RedisWorkers.Phrase` — what clients say.
* `RedisWorkers.Effect` — what becomes of the records and the set.

## Main results

* `RedisWorkers.IsProper.advance` — records run out as time passes, and the set stays.
* `RedisWorkers.effect_respond` — each phrase has its effect.
* `RedisWorkers.not_isLive_of_misses` — such a reply is the truth.
-/

namespace ConversionScheduler

open Redis (Server Reply Block Command)

namespace RedisWorkers

variable (w : RedisWorkers)

/-! ## Records and the set of ids -/

/-- Whether there is a record. -/
def IsLive (s : Server) (id : String) : Prop := (s.entry? (w.infoKey id)).isSome = true

/-- Whether a record is there can be looked up. -/
instance (s : Server) (id : String) : Decidable (w.IsLive s id) :=
  inferInstanceAs (Decidable (_ = true))

/-- The ids in the set. -/
def listed (s : Server) : List String := (s.members? w.setKey).getD []

/-- Whether there is a set under the key of the set, and texts under those of the records. -/
structure IsProper (s : Server) : Prop where
  listed : ∃ ms, s.HoldsSet w.setKey ms
  texts : ∀ id e, s.entry? (w.infoKey id) = some e → ∃ t, e.datum = .text t

/-- Whether a block registers a worker. -/
def Registers (b : Block) (id : String) : Prop :=
  ∃ record, b = .atomic [record, .sadd w.setKey [id]]

/-- Whether a block strikes an id off. -/
def Strikes (b : Block) (id : String) : Prop := ∃ ids, b = .single (.srem w.setKey ids) ∧ id ∈ ids

/-- Whether a reply tells that there is no record. -/
def Misses : Block → Reply → String → Prop
  | .single (.get key), .nil, id => key = w.infoKey id
  | .single (.mget keys), .list rs, id => (w.infoKey id, Reply.nil) ∈ keys.zip rs
  | _, _, _ => False

variable {w} {s s' : Server} {id : String} {b : Block} {ms : List String}

/-- The ids listed are the members that the server holds. -/
lemma listed_eq (h : s.HoldsSet w.setKey ms) : w.listed s = ms := by
  rw [listed, h.members?]
  rfl

/-! ### As time passes -/

/-- A record that is there after some time was there before. -/
lemma IsLive.of_advance {d : Duration} (h : w.IsLive (s.advance d) id) : w.IsLive s id := by
  obtain ⟨e, he⟩ := Option.isSome_iff_exists.mp h
  exact Option.isSome_iff_exists.mpr ⟨e, s.entry?_of_advance he⟩

/-- The keys keep their kinds as time passes. -/
lemma IsProper.advance (h : w.IsProper s) (d : Duration) : w.IsProper (s.advance d) := by
  obtain ⟨ms, hms⟩ := h.listed
  exact ⟨⟨ms, hms.later (Nat.le_add_right _ _)⟩, fun id e he =>
    h.texts id e (s.entry?_of_advance he)⟩

/-- The set stays as time passes, for it has no deadline. -/
lemma IsProper.listed_advance (h : w.IsProper s) (d : Duration) :
    w.listed (s.advance d) = w.listed s := by
  obtain ⟨ms, hms⟩ := h.listed
  have hlater : (s.advance d).HoldsSet w.setKey ms := hms.later (Nat.le_add_right _ _)
  rw [listed_eq hms, listed_eq hlater]

/-! ## What clients say -/

variable (w) in
/-- The blocks that a client says which has been told that some records are missing. -/
inductive Phrase (missed : String → Prop) : Block → Prop
  | add (id value : String) (expiry : Nat) : Phrase missed
    (.atomic [.set (w.infoKey id) value (some expiry) false, .sadd w.setKey [id]])
  | remove (id : String) : Phrase missed (.atomic [.srem w.setKey [id], .del [w.infoKey id]])
  | get (id : String) : Phrase missed (.single (.get (w.infoKey id)))
  | list : Phrase missed (.single (.smembers w.setKey))
  | getAll (ids : List String) : Phrase missed (.single (.mget (ids.map w.infoKey)))
  | strike (ids : List String) (hids : ∀ id ∈ ids, missed id) :
    Phrase missed (.single (.srem w.setKey ids))
  | renew (id value : String) (expiry : Nat) : Phrase missed
    (.single (.set (w.infoKey id) value (some expiry) true))

/-- What may be said may still be said when more records are known to be missing. -/
lemma Phrase.mono {missed missed' : String → Prop} (h : w.Phrase missed b)
    (hle : ∀ id, missed id → missed' id) : w.Phrase missed' b := by
  cases h with
  | add id value expiry => exact .add id value expiry
  | remove id => exact .remove id
  | get id => exact .get id
  | list => exact .list
  | getAll ids => exact .getAll ids
  | strike ids hids => exact .strike ids fun id hid => hle id (hids id hid)
  | renew id value expiry => exact .renew id value expiry

/-! ### What comes of it -/

variable (w) in
/-- What a block does to the records and to the set. -/
structure Effect (b : Block) (s s' : Server) : Prop where
  proper : w.IsProper s'
  /-- A registration lists the worker. -/
  registered : ∀ id, w.Registers b id → id ∈ w.listed s'
  /-- An id that is struck off is not listed. -/
  struck : ∀ id, w.Strikes b id → id ∉ w.listed s'
  /-- Only a registration brings a record back. -/
  revived : ∀ id, w.IsLive s' id → ¬ w.IsLive s id → w.Registers b id
  /-- Everything else leaves in the set who is there. -/
  kept : ∀ id, w.IsLive s' id → ¬ w.Registers b id → ¬ w.Strikes b id →
    (id ∈ w.listed s' ↔ id ∈ w.listed s)

/-- A record that was written leaves the set and the other records.

**Proof sketch.** The record is written, or it is not since none was present. Its key is not the key
of the set nor that of another record; and it is new only if it was not required to be present. -/
lemma IsProper.set (h : w.IsProper s) (hms : s.HoldsSet w.setKey ms) (id value : String) (n : Nat)
    (onlyPresent : Bool)
    (hs' : s' = (s.execute (.set (w.infoKey id) value (some n) onlyPresent)).2) :
    s'.HoldsSet w.setKey ms ∧
      (∀ id' e, s'.entry? (w.infoKey id') = some e → ∃ t, e.datum = .text t) ∧
      (∀ id', w.IsLive s' id' → ¬ w.IsLive s id' → id' = id ∧ onlyPresent = false) := by
  subst hs'
  rw [Server.execute]
  obtain hsame | ⟨hpresent, e, he, hentries⟩ :=
    Server.set_cases s (w.infoKey id) value (some n) onlyPresent
  · rw [hsame]
    exact ⟨hms, h.texts, fun _ hlive hdead => absurd hlive hdead⟩
  · refine ⟨?_, fun id' e' he' => ?_, fun id' hlive hdead => ?_⟩
    · rw [Server.HoldsSet, hentries, if_neg (infoKey_ne_setKey w id).symm]
      exact hms
    · rw [hentries] at he'
      split at he'
      · exact ⟨value, Option.some.inj he' ▸ he⟩
      · exact h.texts id' e' he'
    · rw [IsLive, hentries] at hlive
      split at hlive
      · rename_i heq
        obtain rfl := infoKey_injective w heq
        refine ⟨rfl, ?_⟩
        by_contra honly
        exact hdead (hpresent (by simpa using honly))
      · exact absurd hlive hdead

/-- A single command registers nobody. Registrations are transactions. -/
lemma not_registers_single (c : Command) (id : String) : ¬ w.Registers (.single c) id :=
  fun ⟨_, h⟩ => absurd h (by simp)

/-- A command that changes nothing. -/
lemma effect_of_execute {c : Command} (h : w.IsProper s) (hc : (s.execute c).2 = s)
    (hsrem : ∀ ids, c ≠ .srem w.setKey ids) :
    w.Effect (.single c) s (s.respond (.single c)).2 := by
  rw [show (s.respond (.single c)).2 = s from hc]
  refine ⟨h, fun id hb => absurd hb (not_registers_single c id), ?_,
    fun _ hlive hdead => absurd hlive hdead, fun _ _ _ _ => Iff.rfl⟩
  rintro id ⟨ids, hb, -⟩
  exact absurd (Block.single.inj hb) (hsrem ids)

/-- A registration writes the record and lists the worker.

**Proof sketch.** The record is written first and the id added to the set second, without anything
in between. So the id is listed afterwards, and any other id is listed and live as before. -/
lemma effect_add (h : w.IsProper s) (id value : String) (n : Nat) :
    w.Effect (.atomic [.set (w.infoKey id) value (some n) false, .sadd w.setKey [id]]) s
      (s.respond (.atomic [.set (w.infoKey id) value (some n) false, .sadd w.setKey [id]])).2 := by
  obtain ⟨ms, hms⟩ := h.listed
  obtain ⟨r, s₁, hset⟩ : ∃ r s₁, s.execute (.set (w.infoKey id) value (some n) false) = (r, s₁) :=
    ⟨_, _, rfl⟩
  obtain ⟨hms₁, htexts, hrevived⟩ := h.set hms id value n false (congrArg Prod.snd hset.symm)
  obtain ⟨k, s₂, hsadd, hlisted, hother, -⟩ := Server.execute_sadd hms₁ id
  have hs₂ : (s.respond (.atomic [.set (w.infoKey id) value (some n) false,
      .sadd w.setKey [id]])).2 = s₂ := by
    simp only [Server.respond, Server.executeAll, hset, hsadd]
  have hinfo : ∀ id', s₂.entry? (w.infoKey id') = s₁.entry? (w.infoKey id') :=
    fun id' => hother _ (infoKey_ne_setKey w id')
  -- the id is added to the set even if the record could not be written
  have hmem : ∀ id', id' ∈ w.listed s₂ ↔ id' ∈ ms ∨ id' = id := by
    intro id'
    rw [listed_eq hlisted]
    split
    · rename_i hin
      exact ⟨.inl, fun hor => hor.elim (fun h => h) fun heq => heq ▸ hin⟩
    · rw [mem_sortIds, List.mem_append, List.mem_singleton]
  rw [hs₂]
  refine ⟨⟨⟨_, hlisted⟩, fun id' e he => htexts id' e (hinfo id' ▸ he)⟩, ?_, ?_, ?_, ?_⟩
  · rintro id' ⟨record, hb⟩
    obtain ⟨-, rfl⟩ : _ ∧ id = id' := by simpa using hb
    exact (hmem id).mpr (.inr rfl)
  · rintro id' ⟨ids, hb, -⟩
    exact absurd hb (by simp)
  · intro id' hlive hdead
    rw [IsLive, hinfo] at hlive
    rw [(hrevived id' hlive hdead).1]
    exact ⟨_, rfl⟩
  · intro id' _ hregisters _
    have hne : id' ≠ id := fun heq => hregisters (heq ▸ ⟨_, rfl⟩)
    rw [hmem, listed_eq hms]
    exact ⟨fun hor => hor.resolve_right hne, .inl⟩

/-- A removal takes the worker from the set and deletes the record, so that the two agree.

**Proof sketch.** The id is taken from the set first and the record deleted second, without anything
in between. So it is neither listed nor live afterwards, and any other id is listed and live as
before. -/
lemma effect_remove (h : w.IsProper s) (id : String) :
    w.Effect (.atomic [.srem w.setKey [id], .del [w.infoKey id]]) s
      (s.respond (.atomic [.srem w.setKey [id], .del [w.infoKey id]])).2 := by
  obtain ⟨ms, hms⟩ := h.listed
  obtain ⟨k, s₁, hsrem, hlisted, hother, -⟩ := Server.execute_srem hms [id]
  obtain ⟨k', s₂, hdel, hentries, -⟩ := Server.execute_del s₁ (w.infoKey id)
  have hs₂ : (s.respond (.atomic [.srem w.setKey [id], .del [w.infoKey id]])).2 = s₂ := by
    simp only [Server.respond, Server.executeAll, hsrem, hdel]
  have hinfo : ∀ id', s₂.entry? (w.infoKey id') =
      if id' = id then none else s.entry? (w.infoKey id') := by
    intro id'
    rw [hentries, hother _ (infoKey_ne_setKey w id')]
    simp only [(infoKey_injective w).eq_iff]
  have hlisted₂ : s₂.HoldsSet w.setKey (ms.filter fun m => !([id].contains m)) := by
    rw [Server.HoldsSet, hentries, if_neg (infoKey_ne_setKey w id).symm]
    exact hlisted
  have hlive : ∀ id', w.IsLive s₂ id' → id' ≠ id ∧ w.IsLive s id' := by
    intro id' hid'
    rw [IsLive, hinfo] at hid'
    split at hid'
    · exact absurd hid' (by simp)
    · exact ⟨by assumption, hid'⟩
  rw [hs₂]
  refine ⟨⟨⟨_, hlisted₂⟩, fun id' e he => ?_⟩, ?_, ?_, fun id' hid' hdead => ?_,
    fun id' hid' _ _ => ?_⟩
  · rw [hinfo] at he
    split at he
    · exact absurd he (by simp)
    · exact h.texts id' e he
  · rintro id' ⟨record, hb⟩
    exact absurd hb (by simp)
  · rintro id' ⟨ids, hb, -⟩
    exact absurd hb (by simp)
  · exact absurd (hlive id' hid').2 hdead
  · rw [listed_eq hlisted₂, listed_eq hms, List.mem_filter]
    exact ⟨fun hin => hin.1, fun hin => ⟨hin, by simpa using (hlive id' hid').1⟩⟩

/-- Striking ids off takes them from the set and leaves the records. A live worker may lose its
place by it.

**Proof sketch.** The members of the set are filtered, and no entry of a record is touched. An id
that is not among those struck off stays where it is. -/
lemma effect_strike (h : w.IsProper s) (ids : List String) :
    w.Effect (.single (.srem w.setKey ids)) s (s.respond (.single (.srem w.setKey ids))).2 := by
  obtain ⟨ms, hms⟩ := h.listed
  obtain ⟨k, s', hsrem, hlisted, hother, -⟩ := Server.execute_srem hms ids
  have hinfo : ∀ id, s'.entry? (w.infoKey id) = s.entry? (w.infoKey id) :=
    fun id => hother _ (infoKey_ne_setKey w id)
  rw [show (s.respond (.single (.srem w.setKey ids))).2 = s' from congrArg Prod.snd hsrem]
  refine ⟨⟨⟨_, hlisted⟩, fun id e he => h.texts id e (hinfo id ▸ he)⟩,
    fun id hb => absurd hb (not_registers_single _ id), ?_, fun id hlive hdead => ?_,
    fun id _ _ hstrikes => ?_⟩
  · rintro id ⟨ids', hb, hid⟩
    obtain rfl : ids = ids' := by simpa using hb
    rw [listed_eq hlisted, List.mem_filter]
    exact fun hin => absurd hin.2 (by simpa using hid)
  · rw [IsLive, hinfo] at hlive
    exact absurd hlive hdead
  · have hid : id ∉ ids := fun hid => hstrikes ⟨ids, rfl, hid⟩
    rw [listed_eq hlisted, listed_eq hms, List.mem_filter]
    exact ⟨fun hin => hin.1, fun hin => ⟨hin, by simpa using hid⟩⟩

/-- A renewal writes only a record that is there, and leaves the set. -/
lemma effect_renew (h : w.IsProper s) (id value : String) (n : Nat) :
    w.Effect (.single (.set (w.infoKey id) value (some n) true)) s
      (s.respond (.single (.set (w.infoKey id) value (some n) true))).2 := by
  obtain ⟨ms, hms⟩ := h.listed
  obtain ⟨s', hs'⟩ : ∃ s', s' = (s.execute (.set (w.infoKey id) value (some n) true)).2 := ⟨_, rfl⟩
  obtain ⟨hms', htexts, hrevived⟩ := h.set hms id value n true hs'
  rw [show (s.respond (.single (.set (w.infoKey id) value (some n) true))).2 = s' from hs'.symm]
  refine ⟨⟨⟨_, hms'⟩, htexts⟩, fun id' hb => absurd hb (not_registers_single _ id'), ?_,
    fun id' hlive hdead => absurd (hrevived id' hlive hdead).2 (by simp), fun id' _ _ _ => ?_⟩
  · rintro id' ⟨ids, hb, -⟩
    exact absurd hb (by simp)
  · rw [listed_eq hms', listed_eq hms]

/-- **What each block does to the records and the set.** -/
theorem effect_respond {missed : String → Prop} (h : w.IsProper s) (hb : w.Phrase missed b) :
    w.Effect b s (s.respond b).2 := by
  cases hb with
  | add id value expiry => exact effect_add h id value expiry
  | remove id => exact effect_remove h id
  | get id =>
    refine effect_of_execute h ?_ fun _ => by simp
    rw [Server.execute]
    split <;> rfl
  | list =>
    refine effect_of_execute h ?_ fun _ => by simp
    rw [Server.execute]
    split <;> rfl
  | getAll ids => exact effect_of_execute h rfl fun _ => by simp
  | strike ids hids => exact effect_strike h ids
  | renew id value expiry => exact effect_renew h id value expiry

/-- Who is told that a record is missing, is told the truth.

**Proof sketch.** A live record is a text, and the server gives it when it is asked for; so a reply
that there is nothing was about another record. -/
lemma not_isLive_of_misses (h : w.IsProper s) (hmisses : w.Misses b (s.respond b).1 id) :
    ¬ w.IsLive s id := by
  intro hlive
  obtain ⟨e, he⟩ := Option.isSome_iff_exists.mp hlive
  obtain ⟨t, ht⟩ := h.texts id e he
  have hdatum : s.datum? (w.infoKey id) = some (.text t) := by rw [Server.datum?, he, ← ht]; rfl
  unfold Misses at hmisses
  split at hmisses
  · rename_i key hreply
    subst hmisses
    rw [Server.respond, Server.execute, hdatum] at hreply
    exact absurd hreply (by simp)
  · rename_i keys rs hreply
    rw [Server.respond, Server.execute] at hreply
    rw [← Reply.list.inj hreply, zip_map_self] at hmisses
    obtain ⟨key, -, hkey⟩ := List.mem_map.mp hmisses
    obtain ⟨rfl, hnil⟩ := Prod.mk.inj hkey
    rw [hdatum] at hnil
    exact absurd hnil (by simp)
  · exact hmisses

end RedisWorkers

end ConversionScheduler
