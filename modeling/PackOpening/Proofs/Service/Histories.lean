import PackOpening.Proofs.PoolFile.Scanning
import PackOpening.Proofs.Service.Reference
import PackOpening.Service.Announcement
import PackOpening.Service.History

/-!
The registry over whole histories.

One step changes the pool of a set only if it finds cards of the set, and then replaces all of it.
So at the end of a history the registry holds, for every set, what the last step found that found
any, and nothing else of the history shows in the answers that follow.
-/
namespace PackOpening.Service

open PackOpening.PoolFile

/-- The cards of a set that a step finds: for a load those of the files that it loaded, in the order
of their names. A load that breaks off finds none, and a request does not look for any. -/
def Step.found (code : Text) : Step → List Card
  | .load room _ entries =>
    match scanThrough room entries with
    | .ok _ => (candidates entries).flatMap (cardsFor room · code)
    | .error _ => []
  | .request .. => []

def Step.isLoad : Step → Bool
  | .load .. => true
  | .request .. => false

variable {registry : Registry} {step : Step} {steps : List Step} {code : Text}

/-- A finished load puts what it found for a set in the place of what was there. -/
theorem lookup_after (registry : Registry) (step : Step) (code : Text) :
    (registry.after step).lookup code =
      if step.found code = [] then registry.lookup code else some (step.found code) := by
  cases step with
  | request fresh request => rfl
  | load room shownFolder entries =>
    cases scanned : scanThrough room entries with
    | error container => simp only [Registry.after, Step.found, scanned, if_true]
    | ok scan =>
      have adds := Scan.adds_of_addAll scanned
      have tidy := adds.tidy SetPools.isTidy_nil
      have found : scan.pools.of code = (candidates entries).flatMap (cardsFor room · code) :=
        adds.of code
      simp only [Registry.after, Step.found, scanned, ← found]
      rw [Registry.load, Named.lookup_update tidy.once, tidy.lookup_eq]
      split <;> rfl

theorem nodup_after (once : (registry.map Prod.fst).Nodup) (step : Step) :
    ((registry.after step).map Prod.fst).Nodup := by
  cases step with
  | request fresh request => exact once
  | load room shownFolder entries =>
    simp only [Registry.after]
    split
    · exact Named.nodup_update once _
    · exact once

theorem nodup_afterAll (once : (registry.map Prod.fst).Nodup) (steps : List Step) :
    ((registry.afterAll steps).map Prod.fst).Nodup := by
  induction steps generalizing registry with
  | nil => exact once
  | cons step rest ih => exact ih (nodup_after once step)

/-- Requests leave no trace in the registry, wherever they come in. -/
theorem afterAll_loads (registry : Registry) (steps : List Step) :
    registry.afterAll steps = registry.afterAll (steps.filter Step.isLoad) := by
  induction steps generalizing registry with
  | nil => rfl
  | cons step rest ih =>
    cases step with
    | load room shownFolder entries => exact ih _
    | request fresh request => exact ih registry

/-- A set for which nothing is found keeps its pool. -/
theorem lookup_afterAll_of_unfound (unfound : ∀ step ∈ steps, step.found code = []) :
    (registry.afterAll steps).lookup code = registry.lookup code := by
  induction steps generalizing registry with
  | nil => rfl
  | cons step rest ih =>
    have kept : (registry.after step).lookup code = registry.lookup code := by
      rw [lookup_after, if_pos (unfound step List.mem_cons_self)]
    exact (ih fun later there => unfound later (List.mem_cons_of_mem _ there)).trans kept

/-- Where nothing is found later, the pool of a set is what was found last. -/
theorem lookup_afterAll_last (earlier : List Step) {later : List Step}
    (found : step.found code ≠ []) (unfound : ∀ step ∈ later, step.found code = []) :
    (registry.afterAll (earlier ++ step :: later)).lookup code = some (step.found code) := by
  have split : registry.afterAll (earlier ++ step :: later) =
      ((registry.afterAll earlier).after step).afterAll later := by
    rw [Registry.afterAll, List.foldl_append]
    rfl
  rw [split, lookup_afterAll_of_unfound unfound, lookup_after, if_neg found]

theorem isSome_lookup_afterAll (registry : Registry) (steps : List Step) (code : Text) :
    ((registry.afterAll steps).lookup code).isSome ↔
      (registry.lookup code).isSome ∨ ∃ step ∈ steps, step.found code ≠ [] := by
  induction steps generalizing registry with
  | nil => simp [Registry.afterAll]
  | cons step rest ih =>
    have onward := ih (registry.after step)
    rw [Registry.afterAll, List.foldl_cons, ← Registry.afterAll, onward, lookup_after]
    by_cases found : step.found code = []
    · simp [found]
    · simp [found]

/-- The registry at the end of a history holds a set if any load found cards of it, and its pool is
what the last such load found. Requests never change it, since no operation gives a registry back. A
later request is answered by the pools of the sets that its task refers to alone, if the task brings
its seed: after any other history that left the same pools there, its answer is the same. -/
theorem registry_holds_last_findings (steps : List Step) :
    let registry := Registry.afterAll [] steps
    registry = Registry.afterAll [] (steps.filter Step.isLoad) ∧
    (registry.map Prod.fst).Nodup ∧
    (∀ code, (registry.lookup code).isSome ↔ ∃ step ∈ steps, step.found code ≠ []) ∧
    (∀ code earlier last later, steps = earlier ++ last :: later → last.found code ≠ [] →
      (∀ step ∈ later, step.found code = []) → registry.lookup code = some (last.found code)) ∧
    ∀ (frame : Framework) (others : List Step) (request : Request) (fresh fresh' : Fresh),
      (∀ task, request.task? frame = some task → task.IsSeeded ∧ ∀ code, task.RefersTo code →
        SetPools.of registry code = SetPools.of (Registry.afterAll [] others) code) →
      (handle frame registry fresh request).answer =
        (handle frame (Registry.afterAll [] others) fresh' request).answer := by
  refine ⟨afterAll_loads [] steps, nodup_afterAll (by simp) steps, fun code => ?_, ?_, ?_⟩
  · simpa using isSome_lookup_afterAll [] steps code
  · rintro code earlier last later rfl found unfound
    exact lookup_afterAll_last earlier found unfound
  · intro frame others request fresh fresh' agree
    exact answer_congr fresh fresh' (fun task asked => (agree task asked).1)
      fun task asked => (agree task asked).2

/-- Two loads with a request between them, and the second load alone: they leave the same cards of
the set `s`, and a seeded opening that refers to no other set is answered the same. -/
theorem registry_holds_last_findings_reloaded :
    let bytes (text : String) : List UInt8 := text.toList.map fun c => UInt8.ofNat c.toNat
    let first : Step := .load 3 "pools" [("a.json", .file (bytes
      "[\x7b\"id\":\"1\",\"set\":\"s\"\x7d,\x7b\"id\":\"2\",\"set\":\"t\"\x7d]"))]
    let second : Step := .load 3 "pools" [("b.json", .file (bytes
      "[\x7b\"id\":\"3\",\"set\":\"s\"\x7d]"))]
    let request : Request := ⟨"POST", "/open_pack", [("content-type", "application/json")],
      bytes "\x7b\"set_code\":\"s\",\"definition\":\"c,100\",\"seed\":1\x7d"⟩
    let frame : Framework := .usual 1 0
    let fresh : Fresh := ⟨"id", 0, none, 0⟩
    let registry := Registry.afterAll [] [first, .request fresh request, second]
    let other := Registry.afterAll [] [second]
    request.task? frame = some (.openPack ⟨"s", "play", none, [], some "c,100", [], some 1⟩) ∧
    registry.lookup ("s" : Text) = some (second.found "s") ∧
    ((registry.lookup ("t" : Text)).isSome ∧ (other.lookup ("t" : Text)).isNone) ∧
    ∀ fresh fresh', (handle frame registry fresh request).answer =
      (handle frame other fresh' request).answer := by
  intro bytes first second request frame fresh registry other
  have asked :
      request.task? frame = some (.openPack ⟨"s", "play", none, [], some "c,100", [], some 1⟩) := by
    decide +kernel
  have compiled : Definition.compile "c,100" = ⟨[⟨[⟨.common, 100, none⟩]⟩], []⟩ := by
    decide +kernel
  have found : second.found "s" ≠ [] := by decide +kernel
  obtain ⟨-, -, holds, last, agree⟩ :=
    registry_holds_last_findings [first, .request fresh request, second]
  have pool : registry.lookup ("s" : Text) = some (second.found "s") :=
    last "s" [first, .request fresh request] second [] rfl found (by simp)
  have pool' : other.lookup ("s" : Text) = some (second.found "s") :=
    lookup_afterAll_last [] found (by simp)
  refine ⟨asked, pool, ⟨(holds "t").2 ⟨first, by simp, by decide +kernel⟩, by decide +kernel⟩,
    fun fresh fresh' => agree frame [second] request fresh fresh' fun task found => ?_⟩
  obtain rfl := Option.some.inj (asked.symm.trans found)
  refine ⟨rfl, ?_⟩
  rintro code (rfl | ⟨definition, custom, slot, there, entry, member, named⟩)
  · rw [SetPools.of, SetPools.of, pool, pool']
  · obtain rfl := Option.some.inj custom
    rw [compiled] at there
    obtain rfl := List.mem_singleton.1 there
    obtain rfl := List.mem_singleton.1 member
    cases named

end PackOpening.Service
