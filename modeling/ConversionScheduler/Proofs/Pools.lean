import ConversionScheduler.Manager.Journal
import Mathlib.Tactic.Common
/-!
# What becomes of proxies

A pool only grows: a proxy keeps its number, its worker and its address for good, whatever is
cached in the meantime. Only its errors and its status change.

## Main definitions

* `Pool.Extends` — a pool with the same proxies, as far as their names go, and maybe more.
* `Pool.IsKeyed` — each worker's cached proxy is one for that worker.

## Main results

* `Pool.resolve_cases` — the proxy of a record is the cached one or a new one.
* `Pool.extends_resolve`, `Pool.extends_change` — the operations only extend a pool.
* `Pool.contact_resolve` — the proxy of a record is for its worker at its address.
* `Pool.lookup?_drop`, `Pool.IsKeyed.lookup?_change`, `Pool.IsKeyed.lookup?_resolve` — each
  operation as it is seen by a look into the cache.
-/

namespace ConversionScheduler.Pool

variable {p q : Pool} {r : WorkerRecord} {n k : Nat}

/-! ## Single proxies -/

/-- Changing a proxy makes no new one. -/
@[simp] lemma length_change (f : Proxy → Proxy) : (p.change n f).made.length = p.made.length :=
  List.length_modify ..

/-- A proxy that is changed is what was made of it. -/
lemma proxy_change_self (hn : n < p.made.length) (f : Proxy → Proxy) :
    (p.change n f).proxy n = f (p.proxy n) := by
  simp [proxy, change, List.getElem?_eq_getElem hn]

/-- Changing a proxy leaves the others alone. -/
lemma proxy_change_of_ne (h : k ≠ n) (f : Proxy → Proxy) :
    (p.change n f).proxy k = p.proxy k := by
  simp [proxy, change, Ne.symm h]

/-- A change may be told by what it makes of the proxy that is there. -/
lemma change_const (n : Nat) (f : Proxy → Proxy) :
    p.change n (fun _ => f (p.proxy n)) = p.change n f := by
  simp only [change, mk.injEq, and_true]
  apply List.ext_getElem?
  intro i
  rw [List.getElem?_modify, List.getElem?_modify]
  by_cases hi : n = i
  · subst hi
    cases h : p.made[n]? with
    | none => rfl
    | some a => simp [proxy, h]
  · simp [hi]

/-- Making of a proxy what it is changes nothing. -/
@[simp] lemma change_id (n : Nat) : p.change n (fun x => x) = p := by
  have hid : (fun x : Proxy => x) = id := rfl
  rw [change, hid, List.modify_id]

/-- A new proxy leaves the earlier ones alone. -/
lemma proxy_make_of_lt (hk : k < p.made.length) : (p.make r).2.proxy k = p.proxy k := by
  simp [proxy, make, List.getElem?_append_left hk]

/-- A new proxy gets the next number, and is the one for the record. -/
lemma proxy_make_self : (p.make r).2.proxy p.made.length = .ofRecord r := by
  simp [proxy, make]

/-! ## Pools that grow -/

/-- Every proxy keeps its number, its worker and its address. -/
structure Extends (p q : Pool) : Prop where
  length : p.made.length ≤ q.made.length
  contact : ∀ n, n < p.made.length → q.contact n = p.contact n

/-- Every pool extends itself. -/
lemma Extends.refl (p : Pool) : p.Extends p := ⟨Nat.le_refl _, fun _ _ => rfl⟩

/-- What extends an extension of a pool extends the pool. -/
lemma Extends.trans {u : Pool} (h : p.Extends q) (h' : q.Extends u) : p.Extends u :=
  ⟨Nat.le_trans h.length h'.length, fun n hn =>
    (h'.contact n (Nat.lt_of_lt_of_le hn h.length)).trans (h.contact n hn)⟩

/-- A proxy that is dropped from the cache is still there for those who use it. -/
lemma extends_drop (p : Pool) (id : String) : p.Extends (p.drop id) :=
  ⟨Nat.le_refl _, fun _ _ => rfl⟩

/-- The changes to a proxy that are ever made: they leave its worker and its address alone. -/
lemma extends_change {f : Proxy → Proxy} (hf : ∀ x, (f x).id = x.id ∧ (f x).addr = x.addr) :
    p.Extends (p.change n f) := by
  refine ⟨Nat.le_of_eq (length_change f).symm, fun k hk => ?_⟩
  by_cases hkn : k = n
  · subst hkn
    rw [contact, contact, proxy_change_self hk, (hf _).1, (hf _).2]
  · rw [contact, contact, proxy_change_of_ne hkn]

/-- A new proxy extends the pool. -/
lemma extends_make : p.Extends (p.make r).2 := by
  refine ⟨by simp [make], fun k hk => ?_⟩
  rw [contact, contact, proxy_make_of_lt hk]

/-- The proxy of a record is the cached one or a new one. -/
lemma resolve_cases (p : Pool) (r : WorkerRecord) :
    (∃ n, p.cached.get? r.id = some n ∧ (p.proxy n).addr = r.addr ∧ p.resolve r = (n, p)) ∨
      p.resolve r = p.make r := by
  unfold resolve
  cases h : p.cached.get? r.id with
  | none => exact .inr rfl
  | some n =>
    by_cases haddr : (p.proxy n).addr = r.addr
    · exact .inl ⟨n, rfl, haddr, if_pos haddr⟩
    · exact .inr (if_neg haddr)

/-- The proxy for a record is at the address in the record. -/
lemma addr_resolve (p : Pool) (r : WorkerRecord) :
    ((p.resolve r).2.proxy (p.resolve r).1).addr = r.addr := by
  obtain ⟨n, -, haddr, hr⟩ | hr := resolve_cases p r
  · rw [hr]
    exact haddr
  · rw [hr]
    have hself : (p.make r).1 = p.made.length := rfl
    rw [hself, proxy_make_self]
    rfl

/-- Looking for the proxy of a record extends the pool. -/
lemma extends_resolve : p.Extends (p.resolve r).2 := by
  obtain ⟨n, -, -, h⟩ | h := resolve_cases p r
  · rw [h]
    exact .refl p
  · rw [h]
    exact extends_make

/-- Errors are as before, and a new proxy has none. -/
lemma errorCount_resolve (k : Nat) :
    ((p.resolve r).2.proxy k).errorCount = (p.proxy k).errorCount ∨
      ((p.resolve r).2.proxy k).errorCount = 0 := by
  obtain ⟨n, -, -, h⟩ | h := resolve_cases p r
  · rw [h]
    exact .inl rfl
  · rw [h]
    by_cases hk : k < p.made.length
    · exact .inl (by rw [proxy_make_of_lt hk])
    · right
      by_cases heq : k = p.made.length
      · rw [heq, proxy_make_self]
        rfl
      · have hnone : (p.make r).2.made[k]? = none := by
          simp only [make, List.getElem?_eq_none_iff, List.length_append, List.length_singleton]
          omega
        rw [proxy, hnone]
        rfl

/-! ## Whom a cached proxy is for -/

/-- Each worker's cached proxy is one for that worker. -/
def IsKeyed (p : Pool) : Prop :=
  ∀ id n, p.cached.get? id = some n → n < p.made.length ∧ (p.proxy n).id = id

/-- In the pool without proxies nothing is cached under a wrong id. -/
lemma isKeyed_empty : empty.IsKeyed := fun _ _ h => absurd h (by simp [empty])

/-- Dropping a proxy leaves the others cached under their own ids. -/
lemma IsKeyed.drop (h : p.IsKeyed) (id : String) : (p.drop id).IsKeyed := by
  intro id' n hn
  have hn' : (p.cached.erase id).get? id' = some n := hn
  rw [Table.get?_erase] at hn'
  split at hn'
  · exact absurd hn' (by simp)
  · exact h id' n hn'

/-- A proxy that keeps its id and its address stays cached under its own id. -/
lemma IsKeyed.change (h : p.IsKeyed) {f : Proxy → Proxy}
    (hf : ∀ x, (f x).id = x.id ∧ (f x).addr = x.addr) (k : Nat) : (p.change k f).IsKeyed := by
  intro id n hn
  obtain ⟨hlt, hid⟩ := h id n hn
  have hcontact := (extends_change (n := k) hf).contact n hlt
  refine ⟨by rw [length_change]; exact hlt, ?_⟩
  have : ((p.change k f).contact n).id = (p.contact n).id := by rw [hcontact]
  exact this.trans hid

/-- The proxy of a record is cached under the id in the record. -/
lemma IsKeyed.resolve (h : p.IsKeyed) (r : WorkerRecord) : (p.resolve r).2.IsKeyed := by
  obtain ⟨n, -, -, hr⟩ | hr := resolve_cases p r
  · rw [hr]
    exact h
  · rw [hr]
    intro id n hn
    have hn' : (p.cached.insert r.id p.made.length).get? id = some n := hn
    have hlen : (p.make r).2.made.length = p.made.length + 1 := by simp [make]
    rw [Table.get?_insert] at hn'
    split at hn'
    · rename_i heq
      obtain rfl := Option.some.inj hn'
      refine ⟨by rw [hlen]; exact Nat.lt_succ_self _, ?_⟩
      rw [proxy_make_self, heq]
      rfl
    · obtain ⟨hlt, hid⟩ := h id n hn'
      exact ⟨by rw [hlen]; omega, by rw [proxy_make_of_lt hlt]; exact hid⟩

/-- The proxy of a record is there, and it is for the record's worker at the record's address. -/
lemma contact_resolve (h : p.IsKeyed) (r : WorkerRecord) :
    (p.resolve r).1 < (p.resolve r).2.made.length ∧
      (p.resolve r).2.contact (p.resolve r).1 = ⟨(p.resolve r).1, r.id, r.addr⟩ := by
  obtain ⟨n, hn, haddr, hr⟩ | hr := resolve_cases p r
  · rw [hr]
    obtain ⟨hlt, hid⟩ := h _ _ hn
    exact ⟨hlt, by rw [contact, hid, haddr]⟩
  · rw [hr]
    have hself : (p.make r).1 = p.made.length := rfl
    refine ⟨by simp [make], ?_⟩
    rw [hself, contact, proxy_make_self]
    rfl

/-! ## Looking for a cached proxy -/

variable {id : String}

/-- Dropping the proxy of an id leaves those of the other ids. -/
lemma lookup?_drop (p : Pool) (id id' : String) :
    (p.drop id).lookup? id' = if id' = id then none else p.lookup? id' := by
  show ((p.cached.erase id).get? id').bind _ = _
  rw [Table.get?_erase]
  split <;> rfl

/-- The number that is cached for an id leads to its proxy. -/
lemma IsKeyed.lookup?_eq (h : p.IsKeyed) (hn : p.cached.get? id = some n) :
    p.lookup? id = some (p.proxy n) := by
  obtain ⟨hlt, -⟩ := h id n hn
  rw [Pool.lookup?, hn, Option.bind_some, proxy, List.getElem?_eq_getElem hlt, Option.getD_some]

/-- An id has a proxy exactly if a number is cached for it. -/
lemma IsKeyed.isSome_lookup? (h : p.IsKeyed) (id : String) :
    (p.lookup? id).isSome = (p.cached.get? id).isSome := by
  cases hn : p.cached.get? id with
  | none => rw [Pool.lookup?, hn]; rfl
  | some n => rw [h.lookup?_eq hn]; rfl

/-- A change to a cached proxy is one to no other worker's proxy. -/
lemma IsKeyed.lookup?_change (h : p.IsKeyed) {f : Proxy → Proxy}
    (hf : ∀ x, (f x).id = x.id ∧ (f x).addr = x.addr) (hn : p.cached.get? id = some n)
    (id' : String) :
    (p.change n f).lookup? id' = if id' = id then some (f (p.proxy n)) else p.lookup? id' := by
  obtain ⟨hlt, hname⟩ := h id n hn
  have hcached : (p.change n f).cached = p.cached := rfl
  split
  · rename_i hsame
    rw [(h.change hf n).lookup?_eq (n := n) (by rw [hcached, hsame, hn]), proxy_change_self hlt]
  · rename_i hother
    cases hk : p.cached.get? id' with
    | none => rw [Pool.lookup?, Pool.lookup?, hcached, hk]; rfl
    | some k =>
      have hne : k ≠ n := by
        rintro rfl
        exact hother ((h id' k hk).2.symm.trans hname)
      rw [(h.change hf n).lookup?_eq (n := k) (by rw [hcached, hk]), h.lookup?_eq hk,
        proxy_change_of_ne hne]

/-- The proxy of a record is cached. -/
lemma cached_resolve (p : Pool) (r : WorkerRecord) :
    (p.resolve r).2.cached.get? r.id = some (p.resolve r).1 := by
  obtain ⟨n, hn, -, hr⟩ | hr := resolve_cases p r
  · rw [hr]
    exact hn
  · rw [hr]
    exact Table.get?_insert_self ..

/-- Nobody else's proxy changes when the proxy of a record is looked for. -/
lemma IsKeyed.lookup?_resolve (h : p.IsKeyed) {id' : String} (hid : id' ≠ r.id) :
    (p.resolve r).2.lookup? id' = p.lookup? id' := by
  obtain ⟨n, -, -, hr⟩ | hr := resolve_cases p r
  · rw [hr]
  · have hcached : (p.make r).2.cached.get? id' = p.cached.get? id' :=
      (Table.get?_insert ..).trans (if_neg hid)
    rw [hr]
    cases hk : p.cached.get? id' with
    | none => rw [Pool.lookup?, Pool.lookup?, hcached, hk]; rfl
    | some k =>
      have hkeyed : (p.make r).2.IsKeyed := hr ▸ h.resolve r
      rw [hkeyed.lookup?_eq (hcached.trans hk), h.lookup?_eq hk, proxy_make_of_lt (h id' k hk).1]

end ConversionScheduler.Pool
