import PacketSession.Simulation.Callback

/-!
# Running a simulated network

What happens in a network is a sequence of steps, each an action at one station.

The callbacks of a network reach other stations through a network themselves, whose callbacks do
so through a third one, and so on. A session whose callbacks run has its connection already, and
only sessions without one let callbacks be reached from elsewhere, so there is no need of more
networks than there are stations.
-/

namespace PacketSession

namespace Simulation

variable {S : Schema}

namespace Network

/-- The network of some protocols, from whose callbacks so many stations can be reached one from
the other; or the number of the first protocol that cannot be put together and why. -/
def build (plans : List (ProtocolPlan S)) : (reach : Nat) → Except (Nat × Error) (Network S)
  | 0 => buildWith plans .empty
  | reach + 1 => do buildWith plans (← build plans reach)
where
  /-- The network of some protocols whose callbacks reach other stations through `n`. -/
  buildWith (plans : List (ProtocolPlan S)) (n : Network S) : Except (Nat × Error) (Network S) :=
    return { protocols := ← plans.zipIdx.mapM fun (plan, number) =>
      (plan.build n).mapError fun e => (number, e) }

variable (n : Network S)

/-- Carries out an action at a station. -/
def step (index : Nat) (action : Action S) (w : World S) : Step S (Outcome S) :=
  (n.runAt index (action.script n) w).getD ⟨.missing, [], w⟩

end Network

end Simulation

end PacketSession
