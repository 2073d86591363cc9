import GatedResolver.Remote.Exchange
import GatedResolver.Site.Basic

/-!
# Delivery to a site

A message can be delivered to a site without loss: the site gets the target in the address
and the body, and its whole response comes back in time.
-/

namespace GatedResolver.Remote

variable {m : Type → Type} [Monad m]

/-- The request that a message stands for, once it has arrived. -/
def Message.request? (message : Message) : Option Http.Request :=
  (Http.Target.ofText message.url).toOption.map fun target => ⟨message.method, target, message.body⟩

/-- Deliver a message to a site. -/
def deliver (site : Site m) (message : Message) : m Exchange :=
  match message.request? with
  | none => return .failed
  | some request => do
    let response ← site.respond request
    return .answered response.status (.whole response.body)

end GatedResolver.Remote
