import ConversionScheduler.Store.Site
import Mathlib.Tactic.Common
/-!
# What a server and a line do

The commands that the stores use, in terms of what is found under each key, and dialogues over a
line that answers nothing itself: they are dialogues with the server.

## Main definitions

* `Redis.Server.HoldsSet` — a set that is kept under a key and does not run out.
* `Redis.Dialogue.Avoids` — the dialogues in which a key is never named.
* `Redis.Line.IsPlain` — the lines that interfere with nothing.

## Main results

* `Redis.Server.entry?_later` — keys run out as the clock goes on, and never come back.
* `Redis.Server.execute_sadd`, `Redis.Server.execute_srem`, `Redis.Server.execute_del`,
  `Redis.Server.set_of_expiry`, `Redis.Server.set_cases`, `Redis.Server.execute_hget`,
  `Redis.Server.execute_hset`, `Redis.Server.execute_hdel` — the commands.
* `Redis.Server.entry?_execute`, `Redis.Dialogue.Avoids.entry?_run` — what is found under a key
  that is not named stays.
* `Redis.Dialogue.run_ask`, `Redis.Dialogue.run_transact` — one exchange.
* `Redis.Line.runOver_of_isPlain` — a dialogue over a plain line is a dialogue with the server.
* `Site.onLine_of_isPlain` — and so is the operation of a store that is made of it.
-/

namespace ConversionScheduler.Redis

/-! ## Keys and commands -/

/-- The keys that a command names. -/
def Command.keys : Command → List String
  | .ping => []
  | .del keys | .mget keys => keys
  | .set key _ _ _ | .get key | .sadd key _ | .srem key _ | .smembers key | .hset key _
  | .hget key _ | .hdel key _ => [key]

namespace Server

variable (s : Server) {key k : String} {e : Entry}

/-- Writing an entry does not move the clock. -/
@[simp] lemma clock_put : (s.put key e).clock = s.clock := rfl

/-- Deleting a key does not move the clock. -/
@[simp] lemma clock_forget : (s.forget key).clock = s.clock := rfl

/-- Changing the datum of a key does not move the clock. -/
@[simp] lemma clock_alter (d : Datum) : (s.alter key d).clock = s.clock := by
  unfold alter
  split <;> rfl

/-- What is found under a key once it was written. -/
lemma entry?_put (h : s.isLive e = true) (key k : String) :
    Server.entry? (s.put key e) k = if k = key then some e else s.entry? k := by
  have hlive : ∀ e', (s.put key e).isLive e' = s.isLive e' := fun _ => rfl
  rw [Server.entry?, Server.entry?, put, Table.get?_insert]
  split
  · rw [Option.filter_some, if_pos]
    exact (hlive e).trans h
  · rfl

/-- What is written under a key leaves what is found under the others. -/
lemma entry?_put_of_ne (e : Entry) (h : k ≠ key) :
    Server.entry? (s.put key e) k = s.entry? k := by
  rw [Server.entry?, Server.entry?, put, Table.get?_insert, if_neg h]
  rfl

/-- What is found under a key once it was forgotten. -/
lemma entry?_forget (key k : String) :
    Server.entry? (s.forget key) k = if k = key then none else s.entry? k := by
  rw [Server.entry?, Server.entry?, forget, Table.get?_erase]
  split <;> rfl

/-- Keys run out as the clock goes on, and never come back. -/
lemma entry?_later {c : Duration} (h : s.clock.nanos ≤ c.nanos) (key : String) :
    Server.entry? { s with clock := c } key =
      (s.entry? key).filter ({ s with clock := c }.isLive ·) := by
  rw [Server.entry?, entry?]
  cases hget : s.entries.get? key with
  | none => simp
  | some e =>
    have hmono : { s with clock := c }.isLive e = true → s.isLive e = true := by
      unfold isLive
      cases e.deadline with
      | none => exact fun _ => rfl
      | some d =>
        simp only [decide_eq_true_eq]
        omega
    by_cases hc : { s with clock := c }.isLive e = true
    · simp [Option.filter_some, hc, hmono hc]
    · by_cases hs : s.isLive e = true <;> simp [Option.filter_some, hc, hs]

/-- Nothing comes under a key as time passes. -/
lemma entry?_of_advance {d : Duration} (h : Server.entry? (s.advance d) key = some e) :
    s.entry? key = some e := by
  have hlater := Server.entry?_later s (c := ⟨s.clock.nanos + d.nanos⟩) (Nat.le_add_right _ _) key
  exact (Option.filter_eq_some_iff.mp (hlater.symm.trans h)).1

/-- The time at which what is found under a key runs out has not come. -/
lemma isLive_of_deadline (key : String) (d : Datum) :
    s.isLive ⟨d, (s.entry? key).bind (·.deadline)⟩ = true := by
  cases hentry : s.entry? key with
  | none => rfl
  | some e => exact (Option.filter_eq_some_iff.mp hentry).2

/-- A change of one datum leaves what is found under the other keys. -/
lemma entry?_alter_of_ne (d : Datum) (h : k ≠ key) :
    Server.entry? (s.alter key d) k = s.entry? k := by
  unfold alter
  split
  · rw [entry?_forget, if_neg h]
  · rw [entry?_put s (s.isLive_of_deadline key d), if_neg h]

/-- What is found under a key whose datum was changed. -/
lemma entry?_alter_self (key : String) (d : Datum) :
    Server.entry? (s.alter key d) key = if d = .set [] ∨ d = .hash [] then none
      else some ⟨d, (s.entry? key).bind (·.deadline)⟩ := by
  unfold alter
  split
  · rw [entry?_forget, if_pos rfl]
  · rw [entry?_put s (s.isLive_of_deadline key d), if_pos rfl]

/-- The fields of a hash that was changed. -/
lemma fields?_alter (key : String) (fs : List (String × String)) :
    Server.fields? (s.alter key (.hash fs)) key = some fs := by
  rw [fields?, datum?, entry?_alter_self]
  by_cases hfs : fs = []
  · rw [if_pos (.inr (by rw [hfs])), hfs]
    rfl
  · rw [if_neg (by simp [hfs])]
    rfl

/-- Whether what is kept under a key does not run out. -/
def IsLasting (key : String) : Prop := (s.entry? key).bind (·.deadline) = none

/-- A key that never runs out still does not when its datum changes, as a change keeps the
deadline. -/
lemma isLasting_alter (h : s.IsLasting key) (d : Datum) : (s.alter key d).IsLasting key := by
  rw [IsLasting, entry?_alter_self]
  split
  · rfl
  · exact h

/-- What does not run out is there at any later time. -/
lemma IsLasting.entry?_later (h : s.IsLasting key) {c : Duration}
    (hc : s.clock.nanos ≤ c.nanos) : Server.entry? { s with clock := c } key = s.entry? key := by
  rw [Server.entry?_later s hc]
  cases hentry : s.entry? key with
  | none => rfl
  | some e =>
    have hdeadline : e.deadline = none := by
      rw [IsLasting, hentry] at h
      exact h
    rw [Option.filter_some, if_pos]
    rw [isLive, hdeadline]

/-- A set is kept under a key: an empty one is not kept at all, and none runs out. -/
def HoldsSet (key : String) (ms : List String) : Prop :=
  s.entry? key = if ms = [] then none else some ⟨.set ms, none⟩

variable {s} {ms : List String}

/-- The members of a set that is held are the ones read. -/
lemma HoldsSet.members? (h : s.HoldsSet key ms) : s.members? key = some ms := by
  rw [Server.members?, datum?, h]
  by_cases hms : ms = [] <;> simp [hms]

/-- Changing a set puts the new members in its place. -/
lemma HoldsSet.alter (h : s.HoldsSet key ms) (ms' : List String) :
    (s.alter key (.set ms')).HoldsSet key ms' := by
  have hdeadline : (s.entry? key).bind (·.deadline) = none := by
    rw [h]
    split <;> rfl
  unfold HoldsSet Server.alter
  by_cases hms : ms' = []
  · simp [hms, entry?_forget]
  · rw [if_neg (by simp [hms]), hdeadline, entry?_put s rfl, if_pos rfl, if_neg hms]

/-- A set without a deadline is still there later. -/
lemma HoldsSet.later (h : s.HoldsSet key ms) {c : Duration} (hc : s.clock.nanos ≤ c.nanos) :
    Server.HoldsSet { s with clock := c } key ms := by
  rw [HoldsSet, Server.entry?_later s hc, h]
  split <;> rfl

/-- A list of one has no duplicates to erase. `SADD` of one member comes down to it. -/
lemma eraseDups_singleton (a : String) : [a].eraseDups = [a] := by
  rw [List.eraseDups_cons]
  rfl

/-- Adding one member to a set. -/
lemma execute_sadd (h : s.HoldsSet key ms) (m : String) :
    ∃ n s', s.execute (.sadd key [m]) = (.integer n, s') ∧
      s'.HoldsSet key (if m ∈ ms then ms else sortIds (ms ++ [m])) ∧
      (∀ k, k ≠ key → s'.entry? k = s.entry? k) ∧ s'.clock = s.clock := by
  simp only [execute, h.members?]
  by_cases hm : m ∈ ms
  · refine ⟨_, _, rfl, ?_, ?_, ?_⟩ <;> simp [eraseDups_singleton, hm, h]
  · have hadded : ([m].eraseDups.filter fun x => !ms.contains x) = [m] := by
      simp [eraseDups_singleton, hm]
    rw [hadded, if_neg (by simp), if_neg hm]
    exact ⟨_, _, rfl, h.alter _, fun k hk => entry?_alter_of_ne s _ hk, clock_alter s _⟩

/-- Removing members from a set. -/
lemma execute_srem (h : s.HoldsSet key ms) (ids : List String) :
    ∃ n s', s.execute (.srem key ids) = (.integer n, s') ∧
      s'.HoldsSet key (ms.filter fun m => !ids.contains m) ∧
      (∀ k, k ≠ key → s'.entry? k = s.entry? k) ∧ s'.clock = s.clock := by
  simp only [execute, h.members?]
  by_cases hlen : (ms.filter fun m => !ids.contains m).length = ms.length
  · have hsame : ms.filter (fun m => !ids.contains m) = ms :=
      List.filter_sublist.eq_of_length hlen
    rw [if_pos hlen, hsame]
    exact ⟨_, _, rfl, h, fun _ _ => rfl, rfl⟩
  · rw [if_neg hlen]
    exact ⟨_, _, rfl, h.alter _, fun k hk => entry?_alter_of_ne s _ hk, clock_alter s _⟩

/-- Removing one key. -/
lemma execute_del (s : Server) (key : String) :
    ∃ n s', s.execute (.del [key]) = (.integer n, s') ∧
      (∀ k, s'.entry? k = if k = key then none else s.entry? k) ∧ s'.clock = s.clock := by
  simp only [execute, eraseDups_singleton]
  cases hkey : s.entry? key with
  | none =>
    refine ⟨_, _, rfl, fun k => ?_, ?_⟩
    · by_cases hk : k = key <;> simp [hkey, hk]
    · simp [hkey]
  | some e =>
    refine ⟨_, _, rfl, fun k => ?_, ?_⟩
    · simp [hkey, entry?_forget]
    · simp [hkey]

/-- Writing a text that runs out. -/
lemma set_of_expiry {value : String} {n : Nat} {onlyPresent : Bool} (h0 : 0 < n)
    (hn : n < maxExpiry) (hp : onlyPresent = false ∨ (s.entry? key).isSome = true) :
    s.set key value (some n) onlyPresent =
      (.status "OK", s.put key ⟨.text value, some ⟨s.clock.nanos + n * 1000000000⟩⟩) := by
  have hvalid : ((some n).any fun n => n = 0 || maxExpiry ≤ n) = false := by
    simp only [Option.any_some, Bool.or_eq_false_iff, decide_eq_false_iff_not]
    omega
  have hpresent : (onlyPresent && (s.entry? key).isNone) = false := by
    rcases hp with rfl | hp
    · rfl
    · rw [Option.isNone_eq_false_iff.mpr hp, Bool.and_false]
  rw [set, hvalid, hpresent]
  rfl

/-- Nothing is written under a key that is not there. -/
lemma set_onlyPresent {value : String} {n : Nat} (h0 : 0 < n) (hn : n < maxExpiry)
    (hp : s.entry? key = none) : s.set key value (some n) true = (.nil, s) := by
  have hvalid : ((some n).any fun n => n = 0 || maxExpiry ≤ n) = false := by
    simp only [Option.any_some, Bool.or_eq_false_iff, decide_eq_false_iff_not]
    omega
  rw [set, hvalid, hp]
  rfl

/-- Nothing is written if it is to be kept for too long. -/
lemma set_of_overlong {value : String} {n : Nat} (hn : maxExpiry ≤ n) (onlyPresent : Bool) :
    s.set key value (some n) onlyPresent =
      (.error "ERR invalid expire time in 'set' command", s) := by
  have hinvalid : ((some n).any fun n => n = 0 || maxExpiry ≤ n) = true := by
    rw [Option.any_some, Bool.or_eq_true, decide_eq_true_eq, decide_eq_true_eq]
    exact .inr hn
  rw [set, hinvalid]
  rfl

/-- Writing a text writes it under its key, or nothing at all. -/
lemma set_cases (s : Server) (key value : String) (expiry : Option Nat) (onlyPresent : Bool) :
    (s.set key value expiry onlyPresent).2 = s ∨
      (onlyPresent = true → (s.entry? key).isSome = true) ∧
      ∃ e : Entry, e.datum = .text value ∧ ∀ k,
        Server.entry? (s.set key value expiry onlyPresent).2 k =
          if k = key then some e else s.entry? k := by
  simp only [set]
  split
  · exact .inl rfl
  split
  · exact .inl rfl
  · rename_i hvalid hpresent
    refine .inr ⟨fun honly => ?_, ⟨.text value, expiry.map fun n =>
      ⟨s.clock.nanos + (Duration.ofSeconds n).nanos⟩⟩, rfl, fun k => Server.entry?_put s ?_ key k⟩
    · simpa [honly, Option.isSome_iff_ne_none] using hpresent
    · cases expiry with
      | none => rfl
      | some n =>
        have hpos : 0 < n := Nat.pos_of_ne_zero fun h0 => hvalid (by simp [h0])
        exact decide_eq_true (Nat.lt_add_of_pos_right (Nat.mul_pos hpos (by decide)))

/-- Looking a field up goes past the fields of other names. -/
lemma lookup_cons (g : String × String) (fs : List (String × String)) (name : String) :
    (g :: fs).lookup name = if name = g.1 then some g.2 else fs.lookup name := by
  rw [List.lookup_cons]
  by_cases h : name = g.1
  · simp [h]
  · rw [beq_eq_false_iff_ne.mpr h, if_neg h]

/-- What a field of a hash holds once one was given a value.

**Proof sketch.** If there is a field of the name, its value is replaced in its place, and otherwise
the field comes last. In either case the first field of the name is the one that is found. -/
lemma lookup_setField (fs : List (String × String)) (f : String × String) (name : String) :
    (setField fs f).lookup name = if name = f.1 then some f.2 else fs.lookup name := by
  have hmap : (fs.map fun g => if g.1 = f.1 then f else g).lookup name =
      if name = f.1 then (if fs.any (·.1 = f.1) then some f.2 else none) else fs.lookup name := by
    induction fs with
    | nil => simp
    | cons g fs ih =>
      rw [List.map_cons, lookup_cons, ih, lookup_cons, List.any_cons]
      by_cases hg : g.1 = f.1
      · by_cases hname : name = f.1 <;> simp [hg, hname]
      · rw [if_neg hg, decide_eq_false hg, Bool.false_or]
        by_cases hname : name = f.1
        · simp [hname, Ne.symm hg]
        · simp [hname]
  unfold setField
  split
  · rename_i hany
    rw [hmap, if_pos hany]
  · rename_i hany
    rw [List.lookup_append, lookup_cons]
    by_cases hname : name = f.1
    · have hnone : fs.lookup f.1 = none := by
        rw [List.lookup_eq_none_iff]
        intro g hg
        have hne : g.1 ≠ f.1 := fun heq => hany (List.any_eq_true.mpr ⟨g, hg, by simp [heq]⟩)
        simpa using Ne.symm hne
      simp [hname, hnone]
    · simp [hname]

/-- Reading a field of a hash. -/
lemma execute_hget {fs : List (String × String)} (h : s.fields? key = some fs) (field : String) :
    s.execute (.hget key field) = (bulk? (fs.lookup field), s) := by
  rw [execute, h]

/-- Giving a field of a hash a value. -/
lemma execute_hset {fs : List (String × String)} (h : s.fields? key = some fs)
    (f : String × String) :
    ∃ n s', s.execute (.hset key [f]) = (.integer n, s') ∧ s'.fields? key = some (setField fs f) ∧
      (s.IsLasting key → s'.IsLasting key) := by
  have hexec : s.execute (.hset key [f]) =
      (number ((([f].map (·.1)).eraseDups.filter fun name => !fs.any (·.1 = name)).length),
        s.alter key (.hash (setField fs f))) := by
    simp only [execute, h]
    rw [List.foldl_cons, List.foldl_nil]
  exact ⟨_, _, hexec, fields?_alter s key _, fun h => isLasting_alter s h _⟩

/-- What a field of a hash holds once some fields were taken out. -/
lemma lookup_filter (p : String → Bool) (fs : List (String × String)) (name : String) :
    (fs.filter fun g => p g.1).lookup name = if p name then fs.lookup name else none := by
  induction fs with
  | nil => simp
  | cons g fs ih =>
    rw [lookup_cons, List.filter_cons]
    by_cases hg : p g.1 = true
    · rw [if_pos hg, lookup_cons, ih]
      by_cases hname : name = g.1
      · simp [hname, hg]
      · simp [hname]
    · rw [if_neg hg, ih]
      by_cases hname : name = g.1
      · simp [hname, hg]
      · simp [hname]

/-- Taking fields out of a hash. -/
lemma execute_hdel {fs : List (String × String)} (h : s.fields? key = some fs)
    (names : List String) :
    ∃ n s', s.execute (.hdel key names) = (.integer n, s') ∧
      s'.fields? key = some (fs.filter fun f => !names.contains f.1) ∧
      (s.IsLasting key → s'.IsLasting key) := by
  simp only [execute, h]
  by_cases hlen : (fs.filter fun f => !names.contains f.1).length = fs.length
  · have hsame : fs.filter (fun f => !names.contains f.1) = fs :=
      List.filter_sublist.eq_of_length hlen
    rw [if_pos hlen, hsame]
    exact ⟨_, _, rfl, h, fun hlasting => hlasting⟩
  · rw [if_neg hlen]
    exact ⟨_, _, rfl, fields?_alter s key _, fun hlasting => isLasting_alter s hlasting _⟩

/-- A command about the fields of something else than a hash is refused. -/
lemma execute_of_wrongType (h : s.fields? key = none) {command : Command}
    (hcommand : (∃ field, command = .hget key field) ∨ (∃ fs, command = .hset key fs) ∨
      ∃ names, command = .hdel key names) : s.execute command = (wrongType, s) := by
  obtain ⟨_, rfl⟩ | ⟨_, rfl⟩ | ⟨_, rfl⟩ := hcommand <;> rw [execute, h]

/-- Deleting keys leaves the others. -/
lemma entry?_foldl_forget {keys : List String} (h : k ∉ keys) :
    Server.entry? (keys.foldl forget s) k = s.entry? k := by
  induction keys generalizing s with
  | nil => rfl
  | cons key keys ih =>
    rw [List.foldl_cons, ih fun hk => h (List.mem_cons_of_mem _ hk), entry?_forget, if_neg]
    exact fun hk => h (hk ▸ List.mem_cons_self ..)

/-- **A command leaves what is found under the keys that it does not name.**

**Proof sketch.** Cases on the command. One that only reads leaves the server, and every other
alters the entries of its own keys alone. -/
theorem entry?_execute {command : Command} (h : k ∉ command.keys) :
    Server.entry? (s.execute command).2 k = s.entry? k := by
  cases command with
  | ping | mget => rfl
  | get key | smembers key | hget key _ =>
    simp only [execute]
    split <;> rfl
  | del keys =>
    exact entry?_foldl_forget fun hk => h (List.mem_eraseDups.mp (List.mem_filter.mp hk).1)
  | set key value expiry onlyPresent =>
    have hne : k ≠ key := fun hk => h (List.mem_singleton.mpr hk)
    simp only [execute, set]
    split
    · rfl
    split
    · rfl
    · exact entry?_put_of_ne s _ hne
  | hset key _ =>
    have hne : k ≠ key := fun hk => h (List.mem_singleton.mpr hk)
    simp only [execute]
    split
    · rfl
    · exact entry?_alter_of_ne s _ hne
  | sadd key _ | srem key _ | hdel key _ =>
    have hne : k ≠ key := fun hk => h (List.mem_singleton.mpr hk)
    simp only [execute]
    split
    · rfl
    split
    · rfl
    · exact entry?_alter_of_ne s _ hne

/-- No command changes the time. -/
lemma clock_execute (command : Command) : (s.execute command).2.clock = s.clock := by
  have hforget : ∀ (keys : List String) (s : Server), (keys.foldl forget s).clock = s.clock := by
    intro keys
    induction keys with
    | nil => exact fun _ => rfl
    | cons key keys ih => exact fun s => ih (s.forget key)
  cases command with
  | ping | mget => rfl
  | del keys => exact hforget _ s
  | get key | smembers key | hget key _ =>
    simp only [execute]
    split <;> rfl
  | set key value expiry onlyPresent =>
    simp only [execute, set]
    split
    · rfl
    split <;> rfl
  | hset key _ =>
    simp only [execute]
    split
    · rfl
    · exact clock_alter s _
  | sadd key _ | srem key _ | hdel key _ =>
    simp only [execute]
    split
    · rfl
    · split
      · rfl
      · exact clock_alter s _

/-- A list of commands leaves the keys that none of them names. -/
lemma entry?_executeAll {commands : List Command} (h : ∀ c ∈ commands, k ∉ c.keys) :
    Server.entry? (s.executeAll commands).2 k = s.entry? k := by
  induction commands generalizing s with
  | nil => rfl
  | cons c commands ih =>
    have hrest := ih (s := (s.execute c).2) fun c' hc' => h c' (List.mem_cons_of_mem _ hc')
    exact hrest.trans (entry?_execute (h c (List.mem_cons_self ..)))

end Server

/-! ## Dialogues -/

/-- The commands of a block. -/
def Block.commands : Block → List Command
  | .single c => [c]
  | .atomic cs => cs

namespace Dialogue

variable {α β : Type}

/-- What follows a result. -/
lemma run_bind_ok {d : Dialogue α} {s s' : Server} {a : α} (h : d.run s = (.ok a, s'))
    (f : α → Dialogue β) : (d >>= f).run s = (f a).run s' := by
  induction d generalizing s with
  | done r =>
    obtain ⟨rfl, rfl⟩ := Prod.mk.inj h
    rfl
  | exchange b k ih => exact ih (some (s.respond b).1) h

/-- Nothing follows an error. -/
lemma run_bind_error {d : Dialogue α} {s s' : Server} {e : Error} (h : d.run s = (.error e, s'))
    (f : α → Dialogue β) : (d >>= f).run s = (.error e, s') := by
  induction d generalizing s with
  | done r =>
    obtain ⟨rfl, rfl⟩ := Prod.mk.inj h
    rfl
  | exchange b k ih => exact ih (some (s.respond b).1) h

/-- An attempt takes the same steps, and hands the failure on as a result. -/
lemma run_attempt (d : Dialogue α) (s : Server) :
    d.attempt.run s = (.ok (d.run s).1, (d.run s).2) := by
  induction d generalizing s with
  | done r => rfl
  | exchange b k ih => exact ih (some (s.respond b).1) (s.respond b).2

/-- A dialogue that has ended says nothing to the server. -/
@[simp] lemma run_done (r : Except Error α) (s : Server) : (done r).run s = (r, s) := rfl

/-- A command whose reply can be read. -/
lemma run_ask (c : Connection) {command : Command} (read : Reply → Option α) {s s' : Server}
    {r : Reply} {a : α} (hexec : s.execute command = (r, s')) (hr : ∀ e, r ≠ .error e)
    (hread : read r = some a) : (c.ask command read).run s = (.ok a, s') := by
  have hrespond : s.respond (.single command) = (r, s') := hexec
  rw [Connection.ask, run, runOver]
  simp only [hrespond]
  cases r with
  | error e => exact absurd rfl (hr e)
  | _ =>
    simp only [hread]
    rfl

/-- A command that the server refuses. -/
lemma run_ask_error (c : Connection) {command : Command} (read : Reply → Option α) {s s' : Server}
    {e : String} (hexec : s.execute command = (.error e, s')) :
    (c.ask command read).run s = (.error (Connection.refused .command e), s') := by
  have hrespond : s.respond (.single command) = (.error e, s') := hexec
  rw [Connection.ask, run, runOver]
  simp only [hrespond]
  rfl

/-- A transaction without an error. -/
lemma run_transact {c : Connection} {commands : List Command} {s s' : Server} {rs : List Reply}
    (hexec : s.executeAll commands = (rs, s')) (hrs : Connection.firstError? (.list rs) = none) :
    (c.transact commands).run s = (.ok (), s') := by
  have hrespond : s.respond (.atomic commands) = (.list rs, s') := by
    rw [Server.respond, hexec]
  rw [Connection.transact, run, runOver]
  simp only [hrespond, hrs]
  rfl

/-- A transaction of which a command fails. -/
lemma run_transact_error {c : Connection} {commands : List Command} {s s' : Server}
    {rs : List Reply} {e : String} (hexec : s.executeAll commands = (rs, s'))
    (hrs : Connection.firstError? (.list rs) = some e) :
    (c.transact commands).run s = (.error (Connection.refused .pipeline e), s') := by
  have hrespond : s.respond (.atomic commands) = (.list rs, s') := by
    rw [Server.respond, hexec]
  rw [Connection.transact, run, runOver]
  simp only [hrespond, hrs]
  rfl

/-- Whether a key is never named, whatever the server replies. -/
def Avoids (key : String) : Dialogue α → Prop
  | done _ => True
  | exchange b k => (∀ c ∈ b.commands, key ∉ c.keys) ∧ ∀ r, (k r).Avoids key

section Avoids

variable {key : String} {d : Dialogue α} {c : Connection}

/-- Two dialogues that avoid a key avoid it one after the other. -/
lemma Avoids.bind {f : α → Dialogue β} (h : d.Avoids key) (hf : ∀ a, (f a).Avoids key) :
    (d >>= f).Avoids key := by
  induction d with
  | done r =>
    cases r with
    | error e => trivial
    | ok a => exact hf a
  | exchange b k ih => exact ⟨h.1, fun r => ih r (h.2 r)⟩

/-- An attempt avoids what the dialogue avoids. -/
lemma Avoids.attempt (h : d.Avoids key) : d.attempt.Avoids key := by
  induction d with
  | done r => trivial
  | exchange b k ih => exact ⟨h.1, fun r => ih r (h.2 r)⟩

/-- A single command avoids the keys that it does not name. -/
lemma avoids_ask {command : Command} (h : key ∉ command.keys) (read : Reply → Option α) :
    (c.ask command read).Avoids key := by
  refine ⟨fun c hc => ?_, fun r => ?_⟩
  · rwa [List.mem_singleton.mp hc]
  · dsimp only
    split
    · trivial
    · trivial
    · split <;> trivial

/-- A transaction avoids the keys that none of its commands names. -/
lemma avoids_transact {commands : List Command} (h : ∀ c ∈ commands, key ∉ c.keys) :
    (c.transact commands).Avoids key := by
  refine ⟨h, fun r => ?_⟩
  dsimp only
  split
  · trivial
  · split <;> trivial

/-- **A dialogue leaves what is found under a key that it never names.** -/
theorem Avoids.entry?_run (h : d.Avoids key) (s : Server) :
    Server.entry? (d.run s).2 key = s.entry? key := by
  induction d generalizing s with
  | done r => rfl
  | exchange b k ih =>
    have hblock : Server.entry? (s.respond b).2 key = s.entry? key := by
      cases b with
      | single c => exact Server.entry?_execute (h.1 c (List.mem_singleton_self c))
      | atomic cs => exact Server.entry?_executeAll h.1
    exact (ih _ (h.2 _) _).trans hblock

end Avoids

end Dialogue

/-! ## A line that interferes with nothing -/

namespace Line

/-- Whether a line answers nothing itself and is not silent. -/
def IsPlain (l : Line) : Prop := l.script = [] ∧ l.silent = false

variable {l : Line}

/-- A plain line has no fault to spend on what it carries. -/
lemma carry_of_isPlain (h : l.IsPlain) (words : List String) :
    l.carry words = (none, { l with sent := words :: l.sent }) := by
  simp [carry, h.1, scripted]

/-- Over a plain line, a command is executed once and its reply arrives. -/
lemma single_of_isPlain (h : l.IsPlain) (c : Command) :
    l.single c = (some (l.server.execute c).1,
      { l with server := (l.server.execute c).2, sent := c.words :: l.sent }) := by
  simp [single, h.2, carry_of_isPlain h]

/-- Over a plain line, commands are executed one after the other and every reply arrives. -/
lemma several_of_isPlain (h : l.IsPlain) (cs : List Command) :
    ∃ sent, several cs l = ((l.server.executeAll cs).1,
      { l with server := (l.server.executeAll cs).2, sent := sent }) := by
  induction cs generalizing l with
  | nil => exact ⟨l.sent, rfl⟩
  | cons c cs ih =>
    obtain ⟨sent, hsent⟩ := ih (l := { l with
      server := (l.server.execute c).2, sent := c.words :: l.sent }) h
    refine ⟨sent, ?_⟩
    rw [several, single_of_isPlain h]
    simp only [hsent]
    rfl

/-- A plain line passes a block on to the server and its reply back. -/
lemma exchange_of_isPlain (h : l.IsPlain) (b : Block) :
    ∃ sent, l.exchange b = (some (l.server.respond b).1,
      { l with server := (l.server.respond b).2, sent := sent }) := by
  cases b with
  | single c => exact ⟨_, single_of_isPlain h c⟩
  | atomic cs =>
    obtain ⟨server, reachable, script, silent, sent₀⟩ := l
    obtain ⟨rfl, rfl⟩ := h
    obtain ⟨sent, hsent⟩ := several_of_isPlain
      (l := ⟨server, reachable, [], false, ["MULTI"] :: sent₀⟩) ⟨rfl, rfl⟩ cs
    refine ⟨["EXEC"] :: sent, ?_⟩
    have hopening : carry ["MULTI"] ⟨server, reachable, [], false, sent₀⟩ =
        (none, ⟨server, reachable, [], false, ["MULTI"] :: sent₀⟩) := carry_of_isPlain ⟨rfl, rfl⟩ _
    have hclosing := carry_of_isPlain
      (l := ⟨(server.executeAll cs).2, reachable, [], false, sent⟩) ⟨rfl, rfl⟩ ["EXEC"]
    simp only [exchange, hopening, hsent, hclosing, Server.respond]
    rfl

/-- **A dialogue over a plain line is a dialogue with the server.** -/
theorem runOver_of_isPlain {α : Type} (d : Dialogue α) (h : l.IsPlain) :
    ∃ sent, d.runOver exchange l =
      ((d.run l.server).1, { l with server := (d.run l.server).2, sent := sent }) := by
  induction d generalizing l with
  | done r => exact ⟨l.sent, rfl⟩
  | exchange b k ih =>
    obtain ⟨sent, hsent⟩ := exchange_of_isPlain h b
    obtain ⟨sent', hsent'⟩ := ih (some (l.server.respond b).1)
      (l := { l with server := (l.server.respond b).2, sent := sent }) h
    refine ⟨sent', ?_⟩
    rw [Dialogue.runOver, hsent]
    exact hsent'

end Line

end ConversionScheduler.Redis

namespace ConversionScheduler.Site

/-- A dialogue over a plain line, as an operation of a store. -/
lemma onLine_of_isPlain {α : Type} (d : Timestamp → Redis.Dialogue α) {s : Site}
    (h : s.line.IsPlain) :
    ∃ sent, onLine d s = (((d s.now).run s.line.server).1.mapError Failure.reported,
      { s with line := { s.line with
        server := ((d s.now).run s.line.server).2
        sent := sent } }) := by
  obtain ⟨sent, hsent⟩ := Redis.Line.runOver_of_isPlain (d s.now) h
  refine ⟨sent, ?_⟩
  rw [onLine, talk, hsent]

end ConversionScheduler.Site
