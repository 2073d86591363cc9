import GatedResolver.Proofs.Deployment.Built
import GatedResolver.Proofs.Http.Target
import GatedResolver.Proofs.Json.Lines
import GatedResolver.Proofs.Remote.Sites
import GatedResolver.Proofs.Remote.WireFormats
import GatedResolver.Proofs.Stream.Words
import GatedResolver.Proofs.Success

/-!
# Two front doors to one resolver

The stream listener and the site of the resolver work on the components of one process. Bytes that
spell a word change the state as a request for that word does, and all other bytes leave it as it
is; the line that goes back says how many bytes came, and nothing of what the resolver made of them.
-/

namespace GatedResolver

open Http (Request Target)

namespace Site

/-- The site of a resolver leaves behind what the resolver does. -/
theorem frontDoor_respond (resolve : Name → StateM World Resolver.Outcome) (fallback : Name)
    (name : Name) (world : World) :
    ((frontDoor resolve fallback).respond
        ⟨.get, ⟨"/resolve", some (Http.Form.encode [("name", name.text)])⟩, []⟩ world).2 =
      (resolve name world).2 := by
  change (resolve (Http.nameOr (some (Http.Form.encode [("name", name.text)])) fallback) world).2 = _
  rw [Http.nameOr_encode]

end Site

namespace Stream

variable {resolve : Name → StateM World Resolver.Outcome} {world : World}

/-- A reply that is one line, which tells how many bytes came and when. -/
def IsLineFor (count : Nat) (time : Int64) (reply : Bytes) : Prop :=
  ∃ text envelope, reply = text ++ [0x0A] ∧ 0x0A ∉ text ∧
    Envelope.decoder.decode text = .ok envelope ∧ envelope.protocol = "dot" ∧
      envelope.bytes.toNat = count ∧ envelope.timestamp = time

/-- The line of an envelope is a line that tells what stands in it. -/
theorem isLineFor_line {count : Nat} (few : count < 2 ^ 64) (time : Int64) :
    IsLineFor count time (Envelope.ofCount count time).line := by
  refine ⟨_, Envelope.ofCount count time, rfl, Json.newline_notMem_compact _, ?_, rfl, ?_, rfl⟩
  · exact (Envelope.roundTrips _).1
  · exact UInt64.toNat_ofNat_of_lt' few

/-- Bytes that spell a word have that word resolved. -/
theorem resolveSpelled_of_spells {bytes : Bytes} {word : String} (spells : Spells bytes word) :
    (resolveSpelled (some resolve) bytes world).2 = (resolve spells.1.name world).2 := by
  have name : spelledName? bytes = some spells.1.name := spelledName?_eq_some_iff.mpr spells
  simp only [resolveSpelled, name]
  rfl

/-- Bytes that spell no word have nothing resolved. -/
theorem resolveSpelled_of_wordless {bytes : Bytes} (wordless : ∀ word, ¬ Spells bytes word) :
    (resolveSpelled (some resolve) bytes world).2 = world := by
  simp only [resolveSpelled, spelledName?_eq_none wordless]
  rfl

/-- The reply to bytes, and what they leave behind. -/
theorem reply_eq (payload : Bytes) (present : payload.take readLimit ≠ []) :
    reply (some resolve) World.now payload world =
      let after := (resolveSpelled (some resolve) (payload.take readLimit) world).2
      (some (Envelope.ofCount (payload.take readLimit).length after.clock).line, after) := by
  have delivered : (payload.take readLimit).isEmpty = false := by simpa using present
  simp only [reply, delivered]
  rfl

/-- A reply to nothing is none. -/
theorem reply_of_nothing {payload : Bytes} (nothing : payload.take readLimit = []) :
    reply (some resolve) World.now payload world = (none, world) := by
  simp only [reply, nothing, List.isEmpty_nil, if_true]
  rfl

/-- A word is no longer than the bytes that spell it. -/
theorem Spells.size_le {bytes : Bytes} {word : String} (spells : Spells bytes word) :
    word.utf8ByteSize ≤ bytes.length := by
  obtain ⟨-, front, back, -, -, rfl⟩ := spells
  rw [Text.length_utf8, String.utf8ByteSize_append, String.utf8ByteSize_append]
  omega

/-- No word is spelled without bytes. -/
theorem not_spells_nil (word : String) : ¬ Spells [] word := by
  intro spells
  have size := spells.size_le
  rw [List.length_nil, Nat.le_zero, String.utf8ByteSize_eq_zero_iff] at size
  exact spells.1.present size

/-- Bytes leave behind what is left when the word that they spell was resolved. -/
theorem reply_snd (payload : Bytes) :
    (reply (some resolve) World.now payload world).2 =
      (resolveSpelled (some resolve) (payload.take readLimit) world).2 := by
  by_cases nothing : payload.take readLimit = []
  · rw [reply_of_nothing nothing, nothing, resolveSpelled_of_wordless not_spells_nil]
  · rw [reply_eq payload nothing]

/-- The bytes of a word can be asked for at the site of the resolver. -/
theorem Spells.request {payload : Bytes} {word : String} (spells : Spells (payload.take readLimit) word) :
    Request.ofTexts "GET" ("/resolve?" ++ Http.Form.encode [("name", word)]) none [] =
      .ok ⟨.get, ⟨"/resolve", some (Http.Form.encode [("name", word)])⟩, []⟩ := by
  have size := spells.size_le
  have few := List.length_take_le readLimit payload
  exact Http.ofTexts_get "/resolve" rfl ⟨by decide, by decide⟩ (by decide) (by
    have limit : Target.sizeLimit = 65534 := rfl
    have read : readLimit = 1024 := rfl
    have path : "/resolve".utf8ByteSize = 8 := rfl
    omega)

/-- The requests that ask for what a connection delivers: one for the word that is read, or none. -/
def asked (payload : Bytes) : List Request :=
  match spelledName? (payload.take readLimit) with
  | some name => [⟨.get, ⟨"/resolve", some (Http.Form.encode [("name", name.text)])⟩, []⟩]
  | none => []

/-- What a site leaves behind of a state, request by request. -/
def afterRequests (site : Site (StateM World)) (requests : List Request) (world : World) : World :=
  requests.foldl (fun world request => (site.respond request world).2) world

/-- A delivery leaves behind what the requests for it leave behind at the site of the resolver. -/
theorem reply_asked (fallback : Name) (payload : Bytes) (world : World) :
    (reply (some resolve) World.now payload world).2 =
      afterRequests (Site.frontDoor resolve fallback) (asked payload) world := by
  rw [reply_snd, asked]
  cases spelled : spelledName? (payload.take readLimit) with
  | none =>
    refine resolveSpelled_of_wordless fun word spells => ?_
    have name : spelledName? (payload.take readLimit) = some spells.1.name :=
      spelledName?_eq_some_iff.mpr spells
    cases spelled.symm.trans name
  | some name =>
    have spells := spelledName?_eq_some_iff.mp spelled
    exact (resolveSpelled_of_spells spells).trans
      (Site.frontDoor_respond resolve fallback name world).symm

/-- Deliveries in a row leave behind what the requests for them leave behind, so nothing can be done
to a process through the stream that cannot be done through the site. -/
theorem foldl_reply (fallback : Name) (payloads : List Bytes) (world : World) :
    payloads.foldl (fun world payload => (reply (some resolve) World.now payload world).2) world =
      afterRequests (Site.frontDoor resolve fallback) (payloads.flatMap asked) world := by
  induction payloads generalizing world with
  | nil => rfl
  | cons payload rest inductionHypothesis =>
    rw [List.foldl_cons, List.flatMap_cons, inductionHypothesis, reply_asked fallback, afterRequests,
      afterRequests, afterRequests, List.foldl_append]

end Stream

namespace Components

variable {components : Components} {settings : Settings} {services : List Service} {random : Bytes}

/-- Components that were built for a front door have a resolver. -/
theorem resolver_of_ofSettings
    (built : Components.ofSettings settings services random = .ok components)
    (served : .doh ∈ services ∨ .dot ∈ services) (transport : Transport) :
    ∃ resolve, components.resolver settings.resolver transport = .ok resolve := by
  obtain ⟨collaborators, wired⟩ := exists_collaborators built served transport
  simp only [resolver, wired]
  exact ⟨_, rfl⟩

/-- The stream listener and the site of the resolver drive one pipeline. Of what a connection
delivers in one read only the first 1024 bytes matter. If there are none, nothing happens; otherwise
one line goes back, whatever comes of the bytes. If they spell a word, all that the process keeps
changes as it does for a request for that word, and if they do not, which is so if they end within a
character, nothing changes. -/
theorem streamDoor_agrees
    (built : Components.ofSettings settings services random = .ok components)
    (served : .doh ∈ services ∨ .dot ∈ services) (transport : Transport) :
    ∃ listen site, components.listener settings transport .dot = .ok (.stream listen) ∧
      components.listener settings transport .doh = .ok (.site site) ∧
      ∀ payload world,
        (payload.take 1024 = [] → listen payload world = (none, world)) ∧
        (payload.take 1024 ≠ [] → ∃ line, (listen payload world).1 = some line ∧
          Stream.IsLineFor (payload.take 1024).length (listen payload world).2.clock line) ∧
        (∀ word, Stream.Spells (payload.take 1024) word →
          ∃ request, Request.ofTexts "GET"
              ("/resolve?" ++ Http.Form.encode [("name", word)]) none [] = .ok request ∧
            (listen payload world).2 = (site.respond request world).2) ∧
        ((∀ word, ¬ Stream.Spells (payload.take 1024) word) → (listen payload world).2 = world) ∧
        (Stream.EndsWithin 1024 payload → (listen payload world).2 = world) := by
  obtain ⟨resolve, wired⟩ := resolver_of_ofSettings built served transport
  refine ⟨Stream.reply (some resolve) World.now, Site.frontDoor resolve components.defaultName,
    by simp only [listener, streamDoor, wired]; rfl, by simp only [listener, frontDoor, wired]; rfl,
    fun payload world => ?_⟩
  have quiet (wordless : ∀ word, ¬ Stream.Spells (payload.take 1024) word) :
      (Stream.reply (some resolve) World.now payload world).2 = world := by
    rw [Stream.reply_snd]
    exact Stream.resolveSpelled_of_wordless wordless
  refine ⟨Stream.reply_of_nothing, fun present => ?_, fun word spells => ?_, quiet,
    fun within => quiet within.wordless⟩
  · have few : (payload.take 1024).length < 2 ^ 64 :=
      Nat.lt_of_le_of_lt (List.length_take_le 1024 payload) (by decide)
    rw [Stream.reply_eq payload present]
    exact ⟨_, rfl, Stream.isLineFor_line few _⟩
  · refine ⟨_, spells.request, ?_⟩
    rw [Stream.reply_snd]
    exact (Stream.resolveSpelled_of_spells spells).trans
      (Site.frontDoor_respond resolve components.defaultName spells.1.name world).symm

/-- A word with blanks around it is resolved by the stream listener as it is at the site. -/
theorem streamDoor_agrees_padded :
    let world : World := { files := .empty, entropy := fun _ => Vector.replicate 16 0 }
    let transport : Transport := fun _ world => (.failed, world)
    ∃ components listen site, Components.ofSettings {} [.doh, .dot] [] = .ok components ∧
      components.listener {} transport .dot = .ok (.stream listen) ∧
      components.listener {} transport .doh = .ok (.site site) ∧
      ∃ request, Request.ofTexts "GET" ("/resolve?" ++ Http.Form.encode [("name", "é")]) none [] =
          .ok request ∧
        (listen (Text.utf8 "\u3000é\r\n") world).2 = (site.respond request world).2 := by
  intro world transport
  obtain ⟨components, built⟩ :
      ∃ components, Components.ofSettings {} [.doh, .dot] [] = .ok components := ⟨_, rfl⟩
  obtain ⟨listen, site, listens, serves, agrees⟩ :=
    streamDoor_agrees built (.inl List.mem_cons_self) transport
  have isWord : Stream.IsWord (Name.mk "é" (by decide)).text := Stream.isWord_iff.mpr (by decide)
  have spells : Stream.Spells ((Text.utf8 "\u3000é\r\n").take 1024) "é" :=
    ⟨isWord, "\u3000", "\r\n", by decide, by decide, by decide⟩
  obtain ⟨-, -, same, -⟩ := agrees (Text.utf8 "\u3000é\r\n") world
  exact ⟨components, listen, site, built, listens, serves, same "é" spells⟩

end Components

end GatedResolver
