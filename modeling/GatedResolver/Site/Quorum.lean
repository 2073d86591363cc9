import GatedResolver.Http.NameQuery
import GatedResolver.Quorum.Panel
import GatedResolver.Site.Basic

/-!
# The site of the quorum

The panel replies to every request: one without a valid name is taken as a request for the
default name.
-/

namespace GatedResolver.Site

/-- The site of a panel. -/
def quorum {m : Type → Type} [Monad m] (panel : Quorum.Panel) (defaultName : Name) : Site m :=
  fun path =>
    if path = "/health" then some health
    else if path = "/query" then
      some { get := some fun request =>
        return .json 200 (panel.reply (Http.nameOr request.target.query defaultName)).toJson }
    else none

end GatedResolver.Site
