import GatedResolver.Deployment.Listeners
import GatedResolver.Proofs.Http.Target
import GatedResolver.Proofs.Interleaving.Filing
import GatedResolver.Proofs.Remote.Documents
import GatedResolver.Remote.Delivery

/-!
# What the sites of components answer

A site gets a message that is delivered to it, with the name and the documents that the message
was made of, and what comes back is its whole answer.
-/

namespace GatedResolver

open Http (Method Request Response Target)

namespace Policy.Decision

/-- A decision whose document is read back: its numbers are integers, nothing in it is read as
an enclosure, and it may be put into another document. -/
structure Relayable (decision : Decision) : Prop where
  integral : decision.toJson.isIntegral = true
  opened : decision.toJson.isOpen = true
  shallow : decision.toJson.depth < Json.depthLimit

/-- A decision in a file is in order. -/
theorem inOrder_of_readFile {files : FileSystem} {path : String} {decision : Decision}
    (read : readFile files path = .ok decision) : decision.InOrder := by
  unfold readFile at read
  split at read
  · cases read
  · next content found =>
    split at read
    · cases read
    · next known decoded =>
      cases read
      exact inOrder_of_decoder (Json.ok_of_readWith decoded).1

/-- A decision in a file is read back from its own document, if it is relayable. -/
theorem decode_compact {files : FileSystem} {path : String} {decision : Decision}
    (read : readFile files path = .ok decision) (relayable : decision.Relayable) :
    decoder.decode decision.toJson.compact = .ok decision :=
  (reads (inOrder_of_readFile read) relayable.opened).decode_compact relayable.integral
    (Nat.le_of_lt relayable.shallow)

end Policy.Decision

namespace Remote

/-- A message to an address that is a target arrives as a request for that target. -/
theorem request?_eq {message : Message} {target : Target}
    (addressed : Target.ofText message.url = .ok target) :
    message.request? = some ⟨message.method, target, message.body⟩ := by
  rw [Message.request?, addressed]
  rfl

/-- A site responds with its answer, less the body for those who want the headers only. -/
theorem respond_eq (site : Site (StateM World)) (request : Request) (world : World) :
    site.respond request world =
      (if request.method = .head then (site.answer request world).1.withoutBody
        else (site.answer request world).1, (site.answer request world).2) :=
  rfl

/-- A message that is delivered to a site gets what the site responds. -/
theorem deliver_of_request {site : Site (StateM World)} {message : Message} {request : Request}
    (arrives : message.request? = some request) (world : World) :
    deliver site message world =
      (.answered (site.respond request world).1.status
        (.whole (site.respond request world).1.body), (site.respond request world).2) := by
  simp only [deliver, arrives]
  rfl

/-- What comes back from a site is its whole answer. -/
theorem deliver_eq {site : Site (StateM World)} {message : Message} {target : Target}
    (addressed : Target.ofText message.url = .ok target) (whole : message.method ≠ .head)
    {world after : World} {response : Response}
    (answers : site.answer ⟨message.method, target, message.body⟩ world = (response, after)) :
    deliver site message world = (.answered response.status (.whole response.body), after) := by
  rw [deliver_of_request (request?_eq addressed), respond_eq, answers, if_neg whole]

end Remote

/-- A failure is not told with the status of a success. -/
theorem isSuccess_failureStatus (failure : Failure) :
    Http.isSuccess (Response.failureStatus failure) = false := by
  cases failure <;> rfl

namespace Site

/-- A lookup for a name gets that name out of its query string. -/
theorem lookupName_encode (name : Name) :
    lookupName (some (Http.Form.encode [("name", name.text)])) = .ok name := by
  have known : name.text.isEmpty = false := by
    by_contra missing
    have fault : nameFault? name.text = some .empty := if_pos (Bool.not_eq_false _ |>.mp missing)
    rw [name.valid] at fault
    cases fault
  simp only [lookupName, Http.queriedName?_encode, known, Name.parse_text]
  rfl

/-- A request to store an answer asks to store that answer under that name. -/
theorem writtenEntry_compact (name : Name) (answer : Answer) :
    writtenEntry (CacheWrite.toJson name answer).compact = .ok (name, answer) := by
  have decoded := (CacheWrite.reads name answer).decode_compact rfl (by
    simp [CacheWrite.toJson, Name.toJson, Answer.toJson, Json.Value.depth, Json.depthOfMembers,
      Json.Value.ofUInt32, Json.depthLimit])
  have written : (CacheWrite.toJson name answer).compact.isEmpty = false := by
    simp [Json.compact_eq, CacheWrite.toJson, Json.Value.spelled]
  simp only [writtenEntry, written, decoded, CacheWrite.entry_eq]
  rfl

/-- The record of a resolution is the resolution with its keys sorted. -/
theorem submittedRecord_compact {resolution : Resolution} (relayable : resolution.policy.Relayable) :
    submittedRecord resolution.toJson.compact = .ok (Filing.recordOf resolution) := by
  have shallow : resolution.toJson.depth ≤ Json.depthLimit := by
    have less := relayable.shallow
    rw [resolution.depth_toJson]
    simp only [Json.depthLimit] at less ⊢
    omega
  have read := Json.valueOfText_compact (Resolution.isIntegral_toJson relayable.integral)
    (Resolution.isOpen_toJson relayable.opened) shallow
  have written : resolution.toJson.compact.isEmpty = false := by
    simp [Json.compact_eq, Resolution.toJson, Json.Value.spelled]
  simp only [submittedRecord, written, read]
  rfl

end Site

namespace Components

variable {components : Components}

/-- The site of the policy serves the decision in the file. -/
theorem policySite_answer (world : World) (body : Bytes) :
    components.policySite.answer ⟨.get, ⟨"/policy", none⟩, body⟩ world =
      (Site.serveDecision (Policy.readFile world.files components.policyFile), world) :=
  rfl

/-- The site of the cache looks a name up. -/
theorem cacheSite_lookup (name : Name) (world : World) (body : Bytes) :
    cacheSite.answer ⟨.get, ⟨"/cache", some (Http.Form.encode [("name", name.text)])⟩, body⟩ world =
      ((match world.cache.find? name with
        | some answer => .json 200 answer.toJson
        | none => .notFound "Not found"),
        { world with cache := (world.cache.get name).2 }) := by
  have looked : Site.lookUp
      ⟨.get, ⟨"/cache", some (Http.Form.encode [("name", name.text)])⟩, body⟩ world.cache =
      ((match world.cache.find? name with
        | some answer => .json 200 answer.toJson
        | none => .notFound "Not found"), (world.cache.get name).2) := by
    simp only [Site.lookUp, Site.lookupName_encode, Cache.get]
    cases world.cache.find? name <;> rfl
  have answers : cacheSite.answer
      ⟨.get, ⟨"/cache", some (Http.Form.encode [("name", name.text)])⟩, body⟩ world =
      World.onCache (Site.lookUp
        ⟨.get, ⟨"/cache", some (Http.Form.encode [("name", name.text)])⟩, body⟩) world := rfl
  rw [answers, World.onCache, looked]

/-- The site of the cache stores an answer, if the request to do so is not too large. -/
theorem cacheSite_store {name : Name} {answer : Answer}
    (fits : (CacheWrite.toJson name answer).compact.length ≤ Site.bodyLimit) (world : World) :
    cacheSite.answer ⟨.post, ⟨"/cache", none⟩, (CacheWrite.toJson name answer).compact⟩ world =
      (.json 201 (Http.NoticeKind.cached.toJson name.text),
        { world with cache := world.cache.put name answer }) := by
  have stored : Site.takeBody Site.storeEntry
      ⟨.post, ⟨"/cache", none⟩, (CacheWrite.toJson name answer).compact⟩ world.cache =
      (.json 201 (Http.NoticeKind.cached.toJson name.text), world.cache.put name answer) := by
    simp only [Site.takeBody, if_neg (Nat.not_lt.mpr fits), Site.storeEntry,
      Site.writtenEntry_compact]
  change World.onCache (Site.takeBody Site.storeEntry _) world = _
  simp only [World.onCache, stored]

/-- The site of the panel replies to a question about a name. -/
theorem quorumSite_answer (name : Name) (world : World) (body : Bytes) :
    components.quorumSite.answer
        ⟨.get, ⟨"/query", some (Http.Form.encode [("name", name.text)])⟩, body⟩ world =
      (.json 200 (components.panel.reply name).toJson, world) := by
  change (Response.json 200 (components.panel.reply
    (Http.nameOr (some (Http.Form.encode [("name", name.text)])) components.defaultName)).toJson,
      world) = _
  rw [Http.nameOr_encode]

/-- The site of the signer submits the record of a resolution, if that is not too large. -/
theorem receiptSite_answer (signer : Receipt.Signer World) {resolution : Resolution}
    (relayable : resolution.policy.Relayable)
    (fits : resolution.toJson.compact.length ≤ Site.bodyLimit) (world : World) :
    ((Site.receipts signer).answer
        ⟨.post, ⟨"/receipt", none⟩, resolution.toJson.compact⟩ world).2 =
      (signer.submit (Filing.recordOf resolution) world).2 := by
  have submitted : (Site.submitRecord signer resolution.toJson.compact world).2 =
      (signer.submit (Filing.recordOf resolution) world).2 := by
    simp only [Site.submitRecord, Site.submittedRecord_compact relayable]
    rcases signer.submit (Filing.recordOf resolution) world with ⟨ticket | failure, stored⟩ <;> rfl
  have taken : Site.takeBody (Site.submitRecord signer)
      ⟨.post, ⟨"/receipt", none⟩, resolution.toJson.compact⟩ =
      Site.submitRecord signer resolution.toJson.compact := if_neg (Nat.not_lt.mpr fits)
  change (Site.takeBody (Site.submitRecord signer)
    ⟨.post, ⟨"/receipt", none⟩, resolution.toJson.compact⟩ world).2 = _
  rw [taken, submitted]

end Components

end GatedResolver
