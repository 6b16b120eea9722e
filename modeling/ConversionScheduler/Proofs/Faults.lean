import ConversionScheduler.Proofs.Registry
import ConversionScheduler.Proofs.TaskContents
import ConversionScheduler.Store.Faults
/-!
# Calls that fail on demand

A rule lets a call fail before it reaches the store. Whatever the rules are, a call therefore either
fails and leaves the world of the store as it was, or comes to what it would come to without rules.

## Main results

* `Faulty.guarded_cases`, `Faulty.guarded_of_ok` — one call.
* `Stores.ids_of_ok` — the listing.
* `WorkerCall.perform_withFaults`, `TaskCall.perform_withFaults` — the calls of the two stores.
-/

namespace ConversionScheduler

variable {ω α : Type}

/-- A call fails by a rule and leaves the world of the store, or is the call without rules. -/
lemma Faulty.guarded_cases (m : StoreMethod) (id : String) (q : Query ω α) (w : Faulty ω) :
    (∃ e, (Faulty.guarded m id q w).1 = .error e ∧ (Faulty.guarded m id q w).2.base = w.base) ∨
      ((Faulty.guarded m id q w).1 = (q w.base).1 ∧
        (Faulty.guarded m id q w).2.base = (q w.base).2) := by
  unfold Faulty.guarded
  rcases FaultRule.apply m id w.rules with ⟨_ | e, rules⟩
  · exact .inr ⟨rfl, rfl⟩
  · exact .inl ⟨_, rfl, rfl⟩

/-- A call that no rule lets fail. -/
lemma Faulty.guarded_of_spared {m : StoreMethod} {id : String} {q : Query ω α} {w : Faulty ω}
    (h : (FaultRule.apply m id w.rules).1 = none) : (Faulty.guarded m id q w).1 = (q w.base).1 := by
  unfold Faulty.guarded
  rcases hrule : FaultRule.apply m id w.rules with ⟨_ | e, rules⟩
  · rfl
  · rw [hrule] at h
    exact absurd h (by simp)

/-- Rules do not touch the ids that are listed in addition. -/
lemma Faulty.dangling_guarded (m : StoreMethod) (id : String) (q : Query ω α) (w : Faulty ω) :
    (Faulty.guarded m id q w).2.dangling = w.dangling := by
  unfold Faulty.guarded
  rcases FaultRule.apply m id w.rules with ⟨_ | e, rules⟩ <;> rfl

/-- A call that brings something has reached the store. -/
lemma Faulty.guarded_of_ok {m : StoreMethod} {id : String} {q : Query ω α} {w w' : Faulty ω} {a : α}
    (h : Faulty.guarded m id q w = (.ok a, w')) :
    q w.base = (.ok a, w'.base) ∧ w'.dangling = w.dangling := by
  have hdangling := Faulty.dangling_guarded m id q w
  rw [h] at hdangling
  obtain ⟨e, he, -⟩ | ⟨hr, hbase⟩ := Faulty.guarded_cases m id q w
  · rw [h] at he
    exact absurd he (by simp)
  · rw [h] at hr hbase
    exact ⟨Prod.ext hr.symm hbase.symm, hdangling⟩

/-- The same for a function of the result. -/
lemma Faulty.map_guarded_cases {β : Type} (f : α → β) (m : StoreMethod) (id : String)
    (q : Query ω α) (w : Faulty ω) :
    (((f <$> Faulty.guarded m id q) w).2.base = w.base ∧
        ∃ e, ((f <$> Faulty.guarded m id q) w).1 = .error e) ∨
      (((f <$> Faulty.guarded m id q) w).2.base = ((f <$> q) w.base).2 ∧
        ((f <$> Faulty.guarded m id q) w).1 = ((f <$> q) w.base).1) := by
  simp only [Query.map_apply]
  obtain ⟨e, he, hbase⟩ | ⟨hr, hbase⟩ := Faulty.guarded_cases m id q w
  · exact .inl ⟨hbase, e, by rw [he]; rfl⟩
  · exact .inr ⟨hbase, by rw [hr]⟩

/-- The listing may name more ids, but nothing else about it changes. -/
lemma Stores.ids_withFaults (stores : Stores ω) (w : Faulty ω) :
    (stores.withFaults.workers.ids w).2 =
        (Faulty.guarded .listWorkers "" stores.workers.ids w).2 ∧
      ∀ e, (Faulty.guarded .listWorkers "" stores.workers.ids w).1 = .error e →
        (stores.withFaults.workers.ids w).1 = .error e := by
  simp only [withFaults]
  rcases Faulty.guarded .listWorkers "" stores.workers.ids w with ⟨e | ids, w'⟩
  · exact ⟨rfl, fun _ he => he⟩
  · exact ⟨rfl, fun _ he => absurd he (by simp)⟩

/-- A listing names the ids that the store lists, and maybe some more. -/
lemma Stores.ids_of_ok {stores : Stores ω} {w w' : Faulty ω} {ids : List String}
    (h : stores.withFaults.workers.ids w = (.ok ids, w')) :
    ∃ ids', stores.workers.ids w.base = (.ok ids', w'.base) ∧ w'.dangling = w.dangling ∧
      ids = if w.dangling.isEmpty then ids' else sortIds (ids' ++ w.dangling) := by
  simp only [withFaults] at h
  rcases hguarded : Faulty.guarded .listWorkers "" stores.workers.ids w with ⟨e | ids', w''⟩
  · rw [hguarded] at h
    exact absurd (congrArg Prod.fst h) (by simp)
  · rw [hguarded] at h
    obtain ⟨hids, rfl⟩ := Prod.mk.inj h
    obtain ⟨hcall, hdangling⟩ := Faulty.guarded_of_ok hguarded
    exact ⟨ids', hcall, hdangling, by rw [← Except.ok.inj hids, hdangling]⟩

/-- A call that a rule lets fail, or that comes to what it would come to without rules. -/
lemma WorkerCall.perform_withFaults (stores : Stores ω) (call : WorkerCall) (w : Faulty ω) :
    ((call.perform stores.withFaults.workers w).2.base = w.base ∧
        ∃ e, (call.perform stores.withFaults.workers w).1 = .error e) ∨
      ((call.perform stores.withFaults.workers w).2.base = (call.perform stores.workers w.base).2 ∧
        (call ≠ .ids → (call.perform stores.withFaults.workers w).1 =
          (call.perform stores.workers w.base).1)) := by
  cases call with
  | ids =>
    rw [perform, perform, Query.map_apply, Query.map_apply]
    obtain ⟨hworld, hfailed⟩ := Stores.ids_withFaults stores w
    simp only [hworld]
    obtain ⟨e, he, hbase⟩ | ⟨-, hbase⟩ := Faulty.guarded_cases .listWorkers "" stores.workers.ids w
    · exact .inl ⟨hbase, e, by rw [hfailed e he]; rfl⟩
    · exact .inr ⟨hbase, fun h => absurd rfl h⟩
  | add r => exact (Faulty.map_guarded_cases ..).imp_right fun h => ⟨h.1, fun _ => h.2⟩
  | remove id => exact (Faulty.map_guarded_cases ..).imp_right fun h => ⟨h.1, fun _ => h.2⟩
  | get id => exact (Faulty.map_guarded_cases ..).imp_right fun h => ⟨h.1, fun _ => h.2⟩
  | heartbeat r => exact (Faulty.map_guarded_cases ..).imp_right fun h => ⟨h.1, fun _ => h.2⟩

/-- A call that a rule lets fail, or that comes to what it would come to without rules. -/
lemma TaskCall.perform_withFaults (stores : Stores ω) (call : TaskCall) (w : Faulty ω) :
    ((call.perform stores.withFaults.tasks w).2.base = w.base ∧
        ∃ e, (call.perform stores.withFaults.tasks w).1 = .error e) ∨
      ((call.perform stores.withFaults.tasks w).2.base = (call.perform stores.tasks w.base).2 ∧
        (call.perform stores.withFaults.tasks w).1 = (call.perform stores.tasks w.base).1) := by
  cases call <;> exact Faulty.map_guarded_cases ..

end ConversionScheduler
