import HostNet.Proofs.ConfigResume
/-!
What an enabling pass of a route leaves behind. The place of a route is its destination, table and
gateway. Its device is no part of the place, so a route that an earlier declaration left there
counts as this one, whatever its device. Main statement: the place is taken after every enabling
pass, and by a route out of the declared device exactly if it was free or taken by such a route
before.
-/
namespace HostNet

open Pass

namespace Route

/-- One of the routes takes the place of this one and leaves by the same device. -/
def FoundIn (route : Route) (routes : List Route) : Prop :=
  ∃ installed ∈ routes, installed.samePlace route = true ∧ installed.dev = route.dev

variable {route : Route} {routes : List Route}

theorem any_samePlace_eq_false_iff :
    routes.any (·.samePlace route) = false ↔
      ∀ installed ∈ routes, installed.samePlace route = false := by
  simp

/-- Adding a route takes its place, if it was not taken before. -/
theorem any_samePlace_onRoutes (route : Route) (routes : List Route) :
    ((Call.addRoute route).onRoutes routes).any (·.samePlace route) = true := by
  rw [Call.onRoutes]
  split
  · assumption
  · rw [List.any_append, List.any_cons, samePlace_refl, Bool.true_or, Bool.or_true]

/-- A taken place keeps its device, and a free one gets the declared device. -/
theorem foundIn_onRoutes_iff :
    route.FoundIn ((Call.addRoute route).onRoutes routes) ↔
      (∀ installed ∈ routes, installed.samePlace route = false) ∨ route.FoundIn routes := by
  rw [Call.onRoutes, ← any_samePlace_eq_false_iff]
  cases htaken : routes.any (·.samePlace route) with
  | true => simp
  | false =>
      have hadded : route.FoundIn (routes ++ [route]) :=
        ⟨route, List.mem_append_right _ List.mem_cons_self, samePlace_refl route, rfl⟩
      simpa using hadded

theorem addRoute_snd (memory : Memory) (route : Route) :
    (memory.addRoute route).2 =
      { memory with routes := (Call.addRoute route).onRoutes memory.routes } := by
  rw [Memory.addRoute, Call.onRoutes]
  split <;> rfl

/-- On a host without planned failures an enabling pass succeeds, takes the place of the route and
changes nothing but the routes, to which it adds at most this one. Afterwards the place is held out
of the declared device exactly if it was free or held so before. -/
theorem ensure_takes_place (route : Route) {drill : Drill} (hquiet : drill.Quiet) :
    let before := drill.memory.routes
    let result := (route.ensure true).run Drill.host drill
    let after := result.2.memory.routes
    result.1 = .ok () ∧
      (∃ installed ∈ after, installed.dst = route.dst ∧ installed.table = route.table ∧
        installed.gateway = route.gateway) ∧
      (route.FoundIn after ↔
        (∀ installed ∈ before, installed.samePlace route = false) ∨ route.FoundIn before) ∧
      (after = before ∨ after = before ++ [route]) ∧
      result.2.memory = { drill.memory with routes := after } := by
  intro before result after
  have hresult : result = _ := Drill.run_of_quiet (route.ensure true) hquiet
  have hmemory : result.2.memory =
      { drill.memory with routes := (Call.addRoute route).onRoutes before } :=
    (congrArg (fun result => result.2.memory) hresult).trans (addRoute_snd drill.memory route)
  have hafter : after = (Call.addRoute route).onRoutes before := congrArg Memory.routes hmemory
  refine ⟨?_, ?_, ?_, ?_, ?_⟩
  · rw [hresult]
    exact drill.memory.tolerate_addRoute route
  · obtain ⟨installed, hmem, hplace⟩ :=
      List.any_eq_true.mp (any_samePlace_onRoutes route before)
    exact ⟨installed, hafter ▸ hmem, samePlace_iff.mp hplace⟩
  · rw [hafter]
    exact foundIn_onRoutes_iff
  · rw [hafter, Call.onRoutes]
    split
    · exact Or.inl rfl
    · exact Or.inr rfl
  · rw [hmemory, hafter]

/-- The place is free, though routes to the same destination stand in another table and behind a
gateway. -/
theorem ensure_takes_place_free :
    let route := ((toDestination (.host (.v4 0x0a7c0001#32))).onDevice "cbr0").inTable 1
    let others := [route.inTable 254, route.via (.v4 0x0a800001#32)]
    let drill := Drill.ofMemory ⟨[], others, [], []⟩
    let result := (route.ensure true).run Drill.host drill
    drill.Quiet ∧ (∀ installed ∈ others, installed.samePlace route = false) ∧
      result.1 = .ok () ∧ route.FoundIn result.2.memory.routes := by
  intro route others drill result
  have hquiet : drill.Quiet := ⟨rfl, rfl⟩
  have hfree : ∀ installed ∈ others, installed.samePlace route = false := by decide
  obtain ⟨hok, -, hfound, -⟩ := ensure_takes_place route hquiet
  exact ⟨hquiet, hfree, hok, hfound.mpr (Or.inl hfree)⟩

/-- An earlier declaration of the route with another device is ensured on an empty host, then the
present one. Both passes succeed, and the only route leaves by the earlier device. -/
theorem not_foundIn_of_leftover :
    let earlier := ((toDestination (.host (.v4 0x0a7c0001#32))).onDevice "cbr0").inTable 1
    let route := earlier.onDevice "cni0"
    let first := (earlier.ensure true).run Drill.host (Drill.ofMemory Memory.empty)
    let second := (route.ensure true).run Drill.host first.2
    first.1 = .ok () ∧ first.2.Quiet ∧ second.1 = .ok () ∧ second.2.memory.routes = [earlier] ∧
      ¬ route.FoundIn second.2.memory.routes := by
  intro earlier route first second
  have hroutes : second.2.memory.routes = [earlier] := by decide +kernel
  refine ⟨rfl, ⟨rfl, rfl⟩, rfl, hroutes, ?_⟩
  rw [hroutes]
  rintro ⟨installed, hmem, -, hdev⟩
  rw [List.mem_singleton.mp hmem] at hdev
  exact absurd hdev (by decide)

end Route

end HostNet
