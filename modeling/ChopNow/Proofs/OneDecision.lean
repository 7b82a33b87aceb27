import ChopNow.Lib.Race
import ChopNow.Proofs.LifecycleStep

/-! One decision wins. The update of a waiting order is the only statement of the
five calls that touches it, and its `where` closes the race behind it. -/

namespace ChopNow

open Interleave Race

/-- An update that was made: by which call, from which row, at what time. -/
structure Decision where
  call : DecisionCall
  order : Order
  now : Time

def DecisionThread.made : DecisionThread → Option Decision
  | ⟨call, .decided order now⟩ | ⟨call, .done (some (order, now)) _⟩ => some ⟨call, order, now⟩
  | _ => none

/-- What the calls race for. -/
structure DecisionSlot where
  order : Order
  emitted : List DomainEvent

/-- The update and its event. -/
def Decision.put (d : Decision) (a : DecisionSlot) : DecisionSlot where
  order := a.order.decide d.now d.call.verdict
  emitted := a.emitted ++ [d.call.verdict.event d.order d.now]

section

variable {w w' : World} {t : DecisionThread} {ts : List DecisionThread} {e : Reply}

end

section

variable {w₀ w w' : World} {e : Reply} {fails : Prop}

end

end ChopNow
