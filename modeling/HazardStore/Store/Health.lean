import HazardStore.Session.Dialogue
/-!
The health of the server: one round trip without a result.
-/

namespace HazardStore.Store

open Dialogue

def healthCheck {ε : Type} [OfFault ε] : Dialogue ε Unit := do
  let _ ← send .ping

end HazardStore.Store
