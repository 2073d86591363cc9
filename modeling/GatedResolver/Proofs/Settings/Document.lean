import GatedResolver.Proofs.Settings.Nodes
import GatedResolver.Settings.File

/-!
# The settings of a document

A setting has a place in a document: a field of a section. If the settings of a document can be
read, then those that stand at their places are what is written there, and all others have their
defaults. The fields are found by the slots of the sections, and the sections by the slots of all
settings.
-/

namespace GatedResolver

open Json (Decoder Fields)
open Json.Fields (Slot)

namespace SettingKind

/-- The reader of a kind of settings. -/
def decoder : (kind : SettingKind) → Decoder kind.Value
  | .text => .text
  | .optionalText => .nullable .text
  | .word16 => .uint16
  | .word32 => .uint32
  | .optionalWord32 => .nullable .uint32
  | .word64 => .uint64
  | .texts => .list .text

/-- How a value is written in a document: texts as strings, words as integers, lists as arrays. -/
def IsWritten : (kind : SettingKind) → kind.Value → Toml.Node → Prop
  | .text, value, node => node = .string value
  | .optionalText, value, node => ∃ content, value = some content ∧ node = .string content
  | .word16, value, node => node = .integer value.toNat
  | .word32, value, node => node = .integer value.toNat
  | .optionalWord32, value, node => ∃ word, value = some word ∧ node = .integer word.toNat
  | .word64, value, node => node = .integer value.toNat
  | .texts, values, node => node.items? = some (values.map .string)

/-- A word is read from the integer that it is, if every integer of its range fits into it. -/
theorem eq_integer_of_word {Word : Type} {ofNat : Nat → Word} {toNat : Word → Nat}
    {range : Decoder.IntegerRange} {node : Toml.Node} {word : Word} (natural : range.least = 0)
    (fits : ∀ number : Nat, (number : Int) ≤ range.greatest → toNat (ofNat number) = number)
    (read : Decoder.map (fun value => ofNat value.toNat) (Decoder.integerIn range) .settings
      node.tree = .ok word) : node = .integer (toNat word) := by
  obtain ⟨value, valueRead, rfl⟩ := ok_of_map read
  obtain ⟨rfl, least, greatest⟩ := Toml.eq_integer_of_integerIn valueRead
  have whole : (value.toNat : Int) = value := Int.toNat_of_nonneg (natural ▸ least)
  rw [fits value.toNat (whole.symm ▸ greatest), whole]

/-- A 32-bit word is read from the integer that it is. -/
theorem eq_integer_of_uint32 {node : Toml.Node} {word : UInt32}
    (read : Decoder.uint32 .settings node.tree = .ok word) : node = .integer word.toNat :=
  eq_integer_of_word rfl
    (fun number small => UInt32.toNat_ofNat_of_lt' (by
      simp only [Decoder.range32] at small
      simp only [UInt32.size]
      omega)) read

/-- Texts are read from the strings that they are. -/
theorem eq_strings_of_itemsOnto {nodes : List Toml.Node} {done texts : List String}
    (read : Decoder.itemsOnto (Decoder.text .settings) done (nodes.map Toml.Node.tree) =
      .ok texts) : texts.map Toml.Node.string = done.reverse.map .string ++ nodes := by
  induction nodes generalizing done with
  | nil =>
    cases read
    simp
  | cons node rest inductionHypothesis =>
    rw [List.map_cons, Decoder.itemsOnto] at read
    split at read
    · cases read
    · next text textRead =>
      rw [inductionHypothesis read, Toml.eq_string_of_text textRead]
      simp

/-- What is read is written in the way of its kind. -/
theorem isWritten_of_decoder {kind : SettingKind} {node : Toml.Node} {value : kind.Value}
    (read : kind.decoder .settings node.tree = .ok value) : kind.IsWritten value node := by
  cases kind with
  | text =>
    have textRead : Decoder.text .settings node.tree = .ok value := read
    exact Toml.eq_string_of_text textRead
  | optionalText =>
    obtain ⟨content, same, contentRead⟩ := Toml.some_of_nullable read
    exact ⟨content, same, Toml.eq_string_of_text contentRead⟩
  | word16 =>
    refine eq_integer_of_word rfl (fun number small => UInt16.toNat_ofNat_of_lt' ?_) read
    simp only [Decoder.range16] at small
    simp only [UInt16.size]
    omega
  | word32 => exact eq_integer_of_uint32 read
  | optionalWord32 =>
    obtain ⟨word, same, wordRead⟩ := Toml.some_of_nullable read
    exact ⟨word, same, eq_integer_of_uint32 wordRead⟩
  | word64 =>
    refine eq_integer_of_word rfl (fun number small => UInt64.toNat_ofNat_of_lt' ?_) read
    simp only [Decoder.range64] at small
    simp only [UInt64.size]
    omega
  | texts =>
    obtain ⟨nodes, listed, nodesRead⟩ := Toml.items_of_list read
    rw [IsWritten, listed, eq_strings_of_itemsOnto nodesRead]
    rfl

end SettingKind

namespace Setting

/-- The section of a document that has a setting. -/
def sectionName : Setting → String
  | .bindAddress | .policyListener | .quorumListener | .cacheListener | .receiptListener
  | .dohListener | .dotListener => "server"
  | .policyUrl | .quorumUrl | .cacheUrl | .receiptUrl | .timeoutMs | .defaultName => "resolver"
  | .members | .recordType | .ttl | .data | .required => "upstream"
  | .secret | .directory => "receipt"
  | .policyPath => "policy"
  | .logLevel => "logging"

/-- The field of its section that a setting is. -/
def fieldName : Setting → String
  | .bindAddress => "bind_address"
  | .policyListener => "policy_port"
  | .quorumListener => "upstream_port"
  | .cacheListener => "cache_port"
  | .receiptListener => "receipt_port"
  | .dohListener => "doh_port"
  | .dotListener => "dot_port"
  | .policyUrl => "policy_url"
  | .quorumUrl => "upstream_url"
  | .cacheUrl => "cache_url"
  | .receiptUrl => "receipt_url"
  | .timeoutMs => "timeout_ms"
  | .defaultName => "default_name"
  | .members => "upstreams"
  | .recordType => "record_type"
  | .ttl => "ttl"
  | .data => "data"
  | .required => "quorum_required"
  | .secret => "secret"
  | .directory => "directory"
  | .policyPath => "config_path"
  | .logLevel => "level"

/-- The place of a setting in a section that is written as an array. -/
def place : Setting → Nat
  | .bindAddress | .policyUrl | .members | .secret | .policyPath | .logLevel => 0
  | .policyListener | .quorumUrl | .recordType | .directory => 1
  | .quorumListener | .cacheUrl | .ttl => 2
  | .cacheListener | .receiptUrl | .data => 3
  | .receiptListener | .timeoutMs | .required => 4
  | .dohListener | .defaultName => 5
  | .dotListener => 6

/-- What a document has at the place of a setting. -/
def node? (document : Toml.Members) (setting : Setting) : Option Toml.Node :=
  (document.find? setting.sectionName).bind (Toml.Node.part? setting.fieldName setting.place)

/-- The default of a setting. -/
def default (setting : Setting) : setting.kind.Value :=
  setting.get {}

end Setting

section Slots

variable {α β : Type} {sections : Fields Settings} {fields : Fields α} {decoder : Decoder β}

/-- A field of a section of a document that was read: it is what the document has at its place in
the section, or its default if the document lacks the field or the whole section. -/
theorem fills_of_slots {label sectionLabel sectionName fieldName : String}
    {sectionPlace fieldPlace : Nat} {whole : α} {getSection : Settings → α} (get : α → β)
    (outer : Slot sections .settings sectionName sectionPlace (.record sectionLabel fields) whole
      getSection)
    (inner : Slot fields .settings fieldName fieldPlace decoder (get whole) get)
    (sectionNamed : sectionName ≠ "") (fieldNamed : fieldName ≠ "")
    {document : Toml.Members} {settings : Settings}
    (read : Decoder.record label sections .settings (Toml.Node.table .headed document).tree =
      .ok settings) :
    decoder.Fills .settings (get whole) (get (getSection settings))
      (((document.find? sectionName).bind (Toml.Node.part? fieldName fieldPlace)).map
        Toml.Node.tree) := by
  have sectionFilled := outer.fills_of_record read
  rw [Toml.part?_tree sectionNamed, Toml.Node.part?] at sectionFilled
  cases found : document.find? sectionName with
  | none =>
    rw [found] at sectionFilled
    exact congrArg get sectionFilled
  | some node =>
    rw [found] at sectionFilled
    have fieldFilled := inner.fills_of_record sectionFilled
    rwa [Toml.part?_tree fieldNamed] at fieldFilled

end Slots

/-- The place of the server's settings. -/
def serverSlot : Slot Settings.fields .settings "server" 0
    (.record "ServerConfig" ServerSettings.fields) {} Settings.server :=
  .map ((Slot.only _ _ _ _).left _) fun _ => rfl

/-- The place of the resolver's settings. -/
def resolverSlot : Slot Settings.fields .settings "resolver" 1
    (.record "ResolverConfig" ResolverSettings.fields) {} Settings.resolver :=
  .map (.behind (by decide) ((Slot.only _ _ _ _).left _)) fun _ => rfl

/-- The place of the quorum's settings. -/
def quorumSlot : Slot Settings.fields .settings "upstream" 2
    (.record "UpstreamConfig" QuorumSettings.fields) {} Settings.quorum :=
  .map (.behind (by decide) (.behind (by decide) ((Slot.only _ _ _ _).left _))) fun _ => rfl

/-- The place of the settings for receipts. -/
def receiptSlot : Slot Settings.fields .settings "receipt" 3
    (.record "ReceiptConfig" ReceiptSettings.fields) {} Settings.receipt :=
  .map (.behind (by decide) (.behind (by decide) (.behind (by decide)
    ((Slot.only _ _ _ _).left _)))) fun _ => rfl

/-- The place of the settings for the policy. -/
def policySlot : Slot Settings.fields .settings "policy" 4
    (.record "PolicyConfig"
      ((Fields.defaulted "config_path" .text ({} : PolicySettings).path).map PolicySettings.mk))
    {} Settings.policy :=
  .map (.behind (by decide) (.behind (by decide) (.behind (by decide) (.behind (by decide)
    ((Slot.only _ _ _ _).left _))))) fun _ => rfl

/-- The place of the settings for the log. -/
def loggingSlot : Slot Settings.fields .settings "logging" 5
    (.record "LoggingConfig"
      ((Fields.defaulted "level" .text ({} : LoggingSettings).level).map LoggingSettings.mk))
    {} Settings.logging :=
  .map (.behind (by decide) (.behind (by decide) (.behind (by decide) (.behind (by decide)
    (.behind (by decide) (.only _ _ _ _)))))) fun _ => rfl

/-- The settings of a document, one by one. -/
theorem Setting.fills_of_decoder {document : Toml.Members} {settings : Settings}
    (read : Settings.decoder .settings (Toml.Node.table .headed document).tree = .ok settings)
    (setting : Setting) :
    setting.kind.decoder.Fills .settings setting.default (setting.get settings)
      ((setting.node? document).map Toml.Node.tree) := by
  cases setting with
  | bindAddress =>
    exact fills_of_slots ServerSettings.bindAddress serverSlot
      (.map ((Slot.only _ _ _ _).left _) fun _ => rfl) (by decide) (by decide) read
  | policyListener =>
    exact fills_of_slots ServerSettings.policyListener serverSlot
      (.map (.behind (by decide) ((Slot.only _ _ _ _).left _)) fun _ => rfl)
      (by decide) (by decide) read
  | quorumListener =>
    exact fills_of_slots ServerSettings.quorumListener serverSlot
      (.map (.behind (by decide) (.behind (by decide) ((Slot.only _ _ _ _).left _))) fun _ => rfl)
      (by decide) (by decide) read
  | cacheListener =>
    exact fills_of_slots ServerSettings.cacheListener serverSlot
      (.map (.behind (by decide) (.behind (by decide) (.behind (by decide) ((Slot.only _ _ _
        _).left _)))) fun _ => rfl) (by decide) (by decide) read
  | receiptListener =>
    exact fills_of_slots ServerSettings.receiptListener serverSlot
      (.map (.behind (by decide) (.behind (by decide) (.behind (by decide) (.behind (by decide)
        ((Slot.only _ _ _ _).left _))))) fun _ => rfl) (by decide) (by decide) read
  | dohListener =>
    exact fills_of_slots ServerSettings.dohListener serverSlot
      (.map (.behind (by decide) (.behind (by decide) (.behind (by decide) (.behind (by decide)
        (.behind (by decide) ((Slot.only _ _ _ _).left _)))))) fun _ => rfl)
      (by decide) (by decide) read
  | dotListener =>
    exact fills_of_slots ServerSettings.dotListener serverSlot
      (.map (.behind (by decide) (.behind (by decide) (.behind (by decide) (.behind (by decide)
        (.behind (by decide) (.behind (by decide) (.only _ _ _ _))))))) fun _ => rfl)
      (by decide) (by decide) read
  | policyUrl =>
    exact fills_of_slots ResolverSettings.policyUrl resolverSlot
      (.map ((Slot.only _ _ _ _).left _) fun _ => rfl) (by decide) (by decide) read
  | quorumUrl =>
    exact fills_of_slots ResolverSettings.quorumUrl resolverSlot
      (.map (.behind (by decide) ((Slot.only _ _ _ _).left _)) fun _ => rfl)
      (by decide) (by decide) read
  | cacheUrl =>
    exact fills_of_slots ResolverSettings.cacheUrl resolverSlot
      (.map (.behind (by decide) (.behind (by decide) ((Slot.only _ _ _ _).left _))) fun _ => rfl)
      (by decide) (by decide) read
  | receiptUrl =>
    exact fills_of_slots ResolverSettings.receiptUrl resolverSlot
      (.map (.behind (by decide) (.behind (by decide) (.behind (by decide) ((Slot.only _ _ _
        _).left _)))) fun _ => rfl) (by decide) (by decide) read
  | timeoutMs =>
    exact fills_of_slots ResolverSettings.timeoutMs resolverSlot
      (.map (.behind (by decide) (.behind (by decide) (.behind (by decide) (.behind (by decide)
        ((Slot.only _ _ _ _).left _))))) fun _ => rfl) (by decide) (by decide) read
  | defaultName =>
    exact fills_of_slots ResolverSettings.defaultName resolverSlot
      (.map (.behind (by decide) (.behind (by decide) (.behind (by decide) (.behind (by decide)
        (.behind (by decide) (.only _ _ _ _)))))) fun _ => rfl) (by decide) (by decide) read
  | members =>
    exact fills_of_slots QuorumSettings.members quorumSlot
      (.map ((Slot.only _ _ _ _).left _) fun _ => rfl) (by decide) (by decide) read
  | recordType =>
    exact fills_of_slots QuorumSettings.recordType quorumSlot
      (.map (.behind (by decide) ((Slot.only _ _ _ _).left _)) fun _ => rfl)
      (by decide) (by decide) read
  | ttl =>
    exact fills_of_slots QuorumSettings.ttl quorumSlot
      (.map (.behind (by decide) (.behind (by decide) ((Slot.only _ _ _ _).left _))) fun _ => rfl)
      (by decide) (by decide) read
  | data =>
    exact fills_of_slots QuorumSettings.data quorumSlot
      (.map (.behind (by decide) (.behind (by decide) (.behind (by decide) ((Slot.only _ _ _
        _).left _)))) fun _ => rfl) (by decide) (by decide) read
  | required =>
    exact fills_of_slots QuorumSettings.required quorumSlot
      (.map (.behind (by decide) (.behind (by decide) (.behind (by decide) (.behind (by decide)
        (.only _ _ _ _))))) fun _ => rfl) (by decide) (by decide) read
  | secret =>
    exact fills_of_slots ReceiptSettings.secret receiptSlot
      (.map ((Slot.only _ _ _ _).left _) fun _ => rfl) (by decide) (by decide) read
  | directory =>
    exact fills_of_slots ReceiptSettings.directory receiptSlot
      (.map (.behind (by decide) (.only _ _ _ _)) fun _ => rfl) (by decide) (by decide) read
  | policyPath =>
    exact fills_of_slots PolicySettings.path policySlot
      (.map (.only _ _ _ _) fun _ => rfl) (by decide) (by decide) read
  | logLevel =>
    exact fills_of_slots LoggingSettings.level loggingSlot
      (.map (.only _ _ _ _) fun _ => rfl) (by decide) (by decide) read

namespace Settings

/-- The text of a settings file. -/
def fileText? (files : FileSystem) (path : String) : Option String :=
  (files.read path).toOption.bind Text.decodeUtf8?

/-- The document that settings start from: that of their file, or an empty one if there is no
file. -/
def document? (files : FileSystem) : Option String → Option Toml.Members
  | some path => (fileText? files path).bind Toml.document?
  | none => some []

/-- Settings that were read from a file are those of its document. -/
theorem isWritten_of_ofFile {files : FileSystem} {path : String} {settings : Settings}
    (read : ofFile files path = .ok settings) :
    ∃ document, document? files (some path) = some document ∧ ∀ setting : Setting,
      match setting.node? document with
      | some node => setting.kind.IsWritten (setting.get settings) node
      | none => setting.get settings = setting.default := by
  unfold ofFile at read
  split at read
  · cases read
  · next content contentRead =>
    split at read
    · cases read
    · next text decoded =>
      unfold ofDocument at read
      split at read
      · cases read
      · next document parsed =>
        split at read
        · next settings' settingsRead =>
          cases read
          refine ⟨document, ?_, fun setting => ?_⟩
          · simp [document?, fileText?, contentRead, Except.toOption, decoded, parsed]
          · have filled := Setting.fills_of_decoder settingsRead setting
            cases written : setting.node? document with
            | none =>
              rw [written] at filled
              exact filled
            | some node =>
              rw [written] at filled
              exact SettingKind.isWritten_of_decoder filled
        · split at read <;> cases read

/-- A file that has no text is unreadable, and one that has a text but no settings is no document
or has a wrong value. -/
theorem fault_of_ofFile {files : FileSystem} {path : String} {fault : SettingsFault}
    (failed : ofFile files path = .error fault) :
    match fileText? files path with
    | none => ∃ reason, fault = .unreadable path reason
    | some _ => fault = .noDocument ∨ ∃ cause, fault = .wrongValue cause := by
  unfold ofFile at failed
  unfold fileText?
  cases contentRead : files.read path with
  | error cause =>
    rw [contentRead] at failed
    cases failed
    exact ⟨_, rfl⟩
  | ok content =>
    rw [contentRead] at failed
    cases decoded : Text.decodeUtf8? content with
    | none =>
      simp only [decoded] at failed
      cases failed
      simp [Except.toOption, decoded]
    | some text =>
      simp only [decoded, ofDocument] at failed
      simp only [Except.toOption, Option.bind_some, decoded]
      split at failed
      · cases failed
        exact .inl rfl
      · split at failed
        · cases failed
        · split at failed
          · cases failed
            exact .inr ⟨_, rfl⟩
          · cases failed
            exact .inl rfl

end Settings

end GatedResolver
