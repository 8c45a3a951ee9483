import ServiceBeacon.Config.File
import ServiceBeacon.Proofs.Config.Fields
import ServiceBeacon.Proofs.Toml.Keys

namespace ServiceBeacon
namespace Config

/-!
# What a file says about every field

A configuration knows twenty keys.  `knownKeys` lists them with what their fields take
and which fields they are, and what a document gives for each of them is looked up
without reading anything: by its name in a table, or by its place in an array, since a
section may also be written as an array of its fields.  A file is accepted if all that it
gives is of the right kind, and the configuration is then the default with just these
fields replaced.  Nothing else in the file, and no order in it, has a part in that.

No field is given twice, since no table of a document has a key twice.
-/

open Toml (Item Fault Key Span Table)

/-! ## Sections -/

/-- Within a section, and among the sections, no field gets in another's way. -/
theorem fields_apart :
    listenerFields.Pairwise Field.Apart ∧ registryFields.Pairwise Field.Apart ∧
      serviceFields.Pairwise Field.Apart ∧ tlsFields.Pairwise Field.Apart ∧
        timeoutFields.Pairwise Field.Apart ∧ observabilityFields.Pairwise Field.Apart ∧
          sections.Pairwise Field.Apart := by
  refine ⟨?_, ?_, ?_, ?_, ?_, ?_, ?_⟩
  all_goals
    repeat' first
      | exact .nil
      | exact fun _ member => absurd member List.not_mem_nil
      | refine List.Pairwise.cons ?_ ?_
      | refine List.forall_mem_cons.mpr ⟨?_, ?_⟩
      | exact Field.apart_of (by decide) _ _ fun _ _ _ => rfl

variable {given : String → Option Item}

theorem settleAll_listener {listener : Listener} :
    settleAll listenerFields given .default = .ok listener ↔
      Replaced IsText (given "bind_host") Listener.default.bindHost listener.bindHost ∧
      Replaced IsPort (given "port") Listener.default.port listener.port := by
  refine (settleAll_of_cons rfl (fun _ _ _ => textOf_eq_ok_iff) fun _ =>
    settleAll_of_cons rfl (fun _ _ _ => portOf_eq_ok_iff) fun _ =>
      settleAll_nil).trans ?_
  constructor
  · rintro ⟨_, bindHost, _, port, rfl⟩
    exact ⟨bindHost, port⟩
  · rintro ⟨bindHost, port⟩
    exact ⟨_, bindHost, _, port, rfl⟩

theorem settleAll_registry {registry : Registry} :
    settleAll registryFields given .default = .ok registry ↔
      Replaced IsFlag (given "enabled") Registry.default.enabled registry.enabled ∧
      Replaced IsText (given "host") Registry.default.host registry.host ∧
      Replaced IsPort (given "port") Registry.default.port registry.port ∧
      Replaced IsCount (given "timeout_secs") Registry.default.timeoutSeconds
        registry.timeoutSeconds := by
  refine (settleAll_of_cons rfl (fun _ _ _ => flagOf_eq_ok_iff) fun _ =>
    settleAll_of_cons rfl (fun _ _ _ => textOf_eq_ok_iff) fun _ =>
      settleAll_of_cons rfl (fun _ _ _ => portOf_eq_ok_iff) fun _ =>
        settleAll_of_cons rfl (fun _ _ _ => countOf_eq_ok_iff) fun _ =>
          settleAll_nil).trans ?_
  constructor
  · rintro ⟨_, enabled, _, host, _, port, _, timeout, rfl⟩
    exact ⟨enabled, host, port, timeout⟩
  · rintro ⟨enabled, host, port, timeout⟩
    exact ⟨_, enabled, _, host, _, port, _, timeout, rfl⟩

/-- What a reader makes of a value can be part of the reading or of the writing. -/
theorem Field.of_comp {Section α β : Type} (name : String) (read : Item → Except Fault α)
    (wrap : α → β) (write : β → Section → Section) :
    Field.of name read (fun value => write (wrap value)) =
      .of name (fun item => (read item).map wrap) write := by
  have same : (fun item (whole : Section) =>
        (read item).map fun value => write (wrap value) whole) =
      fun item whole => ((read item).map wrap).map fun value => write value whole := by
    funext item whole
    cases read item <;> rfl
  exact congrArg (Field.mk name) same

theorem settleAll_service
    (distinctMetadata : ∀ inner, given "meta" = some (.table inner) → HasDistinctKeys inner)
    {service : Service} :
    settleAll serviceFields given .default = .ok service ↔
      Replaced IsText (given "name") Service.default.name service.name ∧
      Replaced IsText (given "container_name") Service.default.containerName
        service.containerName ∧
      Replaced IsSomeText (given "id") Service.default.id service.id ∧
      Replaced (fun item metadata => IsMetadata item metadata ∨ IsDated item metadata)
        (given "meta") Service.default.metadata service.metadata := by
  have optional := @Field.of_comp Service _ _ "id" textOf some
    fun value whole => { whole with id := value }
  rw [serviceFields, optional]
  refine (settleAll_of_cons rfl (fun _ _ _ => textOf_eq_ok_iff) fun _ =>
    settleAll_of_cons rfl (fun _ _ _ => textOf_eq_ok_iff) fun _ =>
      settleAll_of_cons rfl (fun _ _ _ => someTextOf_eq_ok_iff) fun _ =>
        settleAll_of_cons rfl
          (fun _ found _ => metadataOf_eq_ok_iff fun inner same =>
            distinctMetadata inner (same ▸ found))
          fun _ => settleAll_nil).trans ?_
  constructor
  · rintro ⟨_, name, _, containerName, _, id, _, metadata, rfl⟩
    exact ⟨name, containerName, id, metadata⟩
  · rintro ⟨name, containerName, id, metadata⟩
    exact ⟨_, name, _, containerName, _, id, _, metadata, rfl⟩

theorem settleAll_tls {tls : Tls} :
    settleAll tlsFields given .default = .ok tls ↔
      Replaced IsFlag (given "enabled") Tls.default.enabled tls.enabled ∧
      Replaced IsCount (given "key_bits") Tls.default.keyBits tls.keyBits ∧
      Replaced AreTexts (given "extra_sans") Tls.default.extraSans tls.extraSans ∧
      Replaced AreTexts (given "cipher_suites") Tls.default.cipherSuites tls.cipherSuites := by
  refine (settleAll_of_cons rfl (fun _ _ _ => flagOf_eq_ok_iff) fun _ =>
    settleAll_of_cons rfl (fun _ _ _ => countOf_eq_ok_iff) fun _ =>
      settleAll_of_cons rfl (fun _ _ _ => textsOf_eq_ok_iff) fun _ =>
        settleAll_of_cons rfl (fun _ _ _ => textsOf_eq_ok_iff) fun _ =>
          settleAll_nil).trans ?_
  constructor
  · rintro ⟨_, enabled, _, keyBits, _, extraSans, _, cipherSuites, rfl⟩
    exact ⟨enabled, keyBits, extraSans, cipherSuites⟩
  · rintro ⟨enabled, keyBits, extraSans, cipherSuites⟩
    exact ⟨_, enabled, _, keyBits, _, extraSans, _, cipherSuites, rfl⟩

theorem settleAll_timeouts {timeouts : Timeouts} :
    settleAll timeoutFields given .default = .ok timeouts ↔
      Replaced IsCount (given "request_secs") Timeouts.default.requestSeconds
        timeouts.requestSeconds ∧
      Replaced IsCount (given "shutdown_grace_secs") Timeouts.default.shutdownGraceSeconds
        timeouts.shutdownGraceSeconds := by
  refine (settleAll_of_cons rfl (fun _ _ _ => countOf_eq_ok_iff) fun _ =>
    settleAll_of_cons rfl (fun _ _ _ => countOf_eq_ok_iff) fun _ =>
      settleAll_nil).trans ?_
  constructor
  · rintro ⟨_, request, _, grace, rfl⟩
    exact ⟨request, grace⟩
  · rintro ⟨request, grace⟩
    exact ⟨_, request, _, grace, rfl⟩

theorem settleAll_observability {observability : Observability} :
    settleAll observabilityFields given .default = .ok observability ↔
      Replaced IsText (given "log_level") Observability.default.logLevel
        observability.logLevel ∧
      Replaced (fun item format => IsLogFormat item format ∨ IsLogFormatTable item format)
        (given "log_format") Observability.default.logFormat observability.logFormat ∧
      Replaced IsFlag (given "metrics_enabled") Observability.default.metricsEnabled
        observability.metricsEnabled ∧
      Replaced IsText (given "metrics_address") Observability.default.metricsAddress
        observability.metricsAddress := by
  refine (settleAll_of_cons rfl (fun _ _ _ => textOf_eq_ok_iff) fun _ =>
    settleAll_of_cons rfl (fun _ _ _ => logFormatOf_eq_ok_iff) fun _ =>
      settleAll_of_cons rfl (fun _ _ _ => flagOf_eq_ok_iff) fun _ =>
        settleAll_of_cons rfl (fun _ _ _ => textOf_eq_ok_iff) fun _ =>
          settleAll_nil).trans ?_
  constructor
  · rintro ⟨_, level, _, format, _, enabled, _, address, rfl⟩
    exact ⟨level, format, enabled, address⟩
  · rintro ⟨level, format, enabled, address⟩
    exact ⟨_, level, _, format, _, enabled, _, address, rfl⟩

theorem settleAll_sections {config : Config} :
    settleAll sections given default = .ok config ↔
      Replaced (overlay "ListenerConfig" listenerFields .default · = .ok ·) (given "listener")
        Listener.default config.listener ∧
      Replaced (overlay "RegistryConfig" registryFields .default · = .ok ·) (given "registry")
        Registry.default config.registry ∧
      Replaced (overlay "ServiceConfig" serviceFields .default · = .ok ·) (given "service")
        Service.default config.service ∧
      Replaced (overlay "TlsConfig" tlsFields .default · = .ok ·) (given "tls")
        Tls.default config.tls ∧
      Replaced (overlay "TimeoutConfig" timeoutFields .default · = .ok ·) (given "timeouts")
        Timeouts.default config.timeouts ∧
      Replaced (overlay "ObservabilityConfig" observabilityFields .default · = .ok ·)
        (given "observability") Observability.default config.observability := by
  refine (settleAll_of_cons rfl (fun _ _ _ => Iff.rfl) fun _ =>
    settleAll_of_cons rfl (fun _ _ _ => Iff.rfl) fun _ =>
      settleAll_of_cons rfl (fun _ _ _ => Iff.rfl) fun _ =>
        settleAll_of_cons rfl (fun _ _ _ => Iff.rfl) fun _ =>
          settleAll_of_cons rfl (fun _ _ _ => Iff.rfl) fun _ =>
            settleAll_of_cons rfl (fun _ _ _ => Iff.rfl) fun _ => settleAll_nil).trans ?_
  constructor
  · rintro ⟨_, listener, _, registry, _, service, _, tls, _, timeouts, _, observability, rfl⟩
    exact ⟨listener, registry, service, tls, timeouts, observability⟩
  · rintro ⟨listener, registry, service, tls, timeouts, observability⟩
    exact ⟨_, listener, _, registry, _, service, _, tls, _, timeouts, _, observability, rfl⟩

/-- A section that may be absent settles its fields by what it gives for their names. -/
theorem replaced_overlay_iff {Section : Type} {fields : List (Field Section)}
    (apart : fields.Pairwise Field.Apart) {item : Option Item}
    (distinct : ∀ inner, item = some (.table inner) → HasDistinctKeys inner) {expected : String}
    {whole result : Section} :
    Replaced (overlay expected fields whole · = .ok ·) item whole result ↔
      (∀ found, item = some found → IsSection found) ∧
        settleAll fields (fun name => item.bind (givenIn (fields.map Field.name) name)) whole =
          .ok result := by
  cases item with
  | none =>
    have nothing : settleAll fields
        (fun name => (none : Option Item).bind (givenIn (fields.map Field.name) name)) whole =
          .ok whole := settleAll_none fields whole
    rw [nothing]
    constructor
    · rintro rfl
      exact ⟨nofun, rfl⟩
    · rintro ⟨-, same⟩
      exact (Except.ok.inj same).symm
  | some found =>
    refine (overlay_eq_ok_iff apart fun inner same => distinct inner (same ▸ rfl)).trans ?_
    refine and_congr_left' ⟨fun parted _ same => Option.some.inj same ▸ parted, fun all => ?_⟩
    exact all found rfl

/-! ## The keys of a configuration -/

/-- What a field takes. -/
inductive Kind where
  | text
  | someText
  | flag
  | port
  | count
  | texts
  | metadata
  | logFormat
deriving DecidableEq

namespace Kind

/-- What a field of a kind holds. -/
def Value : Kind → Type
  | text => String
  | someText => Option String
  | flag => Bool
  | port => UInt16
  | count => UInt64
  | texts => List String
  | metadata => Metadata
  | logFormat => LogFormat

/-- What a field should take. -/
def Denotes : (kind : Kind) → Item → kind.Value → Prop
  | text => IsText
  | someText => IsSomeText
  | flag => IsFlag
  | port => IsPort
  | count => IsCount
  | texts => AreTexts
  | metadata => IsMetadata
  | logFormat => IsLogFormat

/-- What a field does take: a date for metadata, too. -/
def Takes : (kind : Kind) → Item → kind.Value → Prop
  | metadata => fun item value => IsMetadata item value ∨ IsDated item value
  | kind => kind.Denotes

theorem takes_of_denotes {kind : Kind} {item : Item} {value : kind.Value}
    (denotes : kind.Denotes item value) : kind.Takes item value := by
  cases kind
  case metadata => exact .inl denotes
  all_goals exact denotes

/-- What a field does read: a table for a log format, too. -/
def Reads : (kind : Kind) → Item → kind.Value → Prop
  | logFormat => fun item format => IsLogFormat item format ∨ IsLogFormatTable item format
  | kind => kind.Takes

end Kind

/-- A key that a configuration knows, and the field that it replaces. -/
structure Known where
  table : String
  key : String
  kind : Kind
  value : Config → kind.Value

def metadataKey : Known := ⟨"service", "meta", .metadata, fun config => config.service.metadata⟩

def logFormatKey : Known :=
  ⟨"observability", "log_format", .logFormat, fun config => config.observability.logFormat⟩

def knownKeys : List Known :=
  [⟨"listener", "bind_host", .text, fun config => config.listener.bindHost⟩,
    ⟨"listener", "port", .port, fun config => config.listener.port⟩,
    ⟨"registry", "enabled", .flag, fun config => config.registry.enabled⟩,
    ⟨"registry", "host", .text, fun config => config.registry.host⟩,
    ⟨"registry", "port", .port, fun config => config.registry.port⟩,
    ⟨"registry", "timeout_secs", .count, fun config => config.registry.timeoutSeconds⟩,
    ⟨"service", "name", .text, fun config => config.service.name⟩,
    ⟨"service", "container_name", .text, fun config => config.service.containerName⟩,
    ⟨"service", "id", .someText, fun config => config.service.id⟩,
    metadataKey,
    ⟨"tls", "enabled", .flag, fun config => config.tls.enabled⟩,
    ⟨"tls", "key_bits", .count, fun config => config.tls.keyBits⟩,
    ⟨"tls", "extra_sans", .texts, fun config => config.tls.extraSans⟩,
    ⟨"tls", "cipher_suites", .texts, fun config => config.tls.cipherSuites⟩,
    ⟨"timeouts", "request_secs", .count, fun config => config.timeouts.requestSeconds⟩,
    ⟨"timeouts", "shutdown_grace_secs", .count, fun config => config.timeouts.shutdownGraceSeconds⟩,
    ⟨"observability", "log_level", .text, fun config => config.observability.logLevel⟩,
    logFormatKey,
    ⟨"observability", "metrics_enabled", .flag, fun config => config.observability.metricsEnabled⟩,
    ⟨"observability", "metrics_address", .text, fun config => config.observability.metricsAddress⟩]

theorem metadataKey_mem : metadataKey ∈ knownKeys := by
  simp only [knownKeys, List.mem_cons, true_or, or_true]

theorem eq_metadataKey : ∀ known ∈ knownKeys, known.kind = .metadata → known = metadataKey := by
  simp [knownKeys, logFormatKey]

theorem eq_logFormatKey : ∀ known ∈ knownKeys, known.kind = .logFormat → known = logFormatKey := by
  simp [knownKeys, metadataKey]

/-- The keys of a section, in the order in which its fields are declared. -/
def keysOf (table : String) : List String :=
  (knownKeys.filter fun known => known.table == table).map Known.key

/-- What a document gives for a key. -/
def Known.given? (known : Known) (table : Table) : Option Item :=
  (table.get? known.table).bind (givenIn (keysOf known.table) known.key)

/-! ## Documents -/

/-- Whether a configuration is what a document describes: all its sections can be sections,
and it is the default with exactly the fields replaced for which something is given. -/
structure Describes (table : Table) (config : Config) : Prop where
  sections : ∀ known ∈ knownKeys, ∀ item, table.get? known.table = some item → IsSection item
  fields : ∀ known ∈ knownKeys,
    Replaced known.kind.Reads (known.given? table) (known.value default) (known.value config)

/-- Documents that have no key twice where a configuration looks for one. -/
structure Unrepeated (table : Table) : Prop where
  sections : HasDistinctKeys table
  keys : ∀ known ∈ knownKeys, ∀ inner, table.get? known.table = some (.table inner) →
    HasDistinctKeys inner
  metadata : ∀ inner, metadataKey.given? table = some (.table inner) → HasDistinctKeys inner

/-- A document is read exactly as it describes a configuration. -/
theorem ofTable_eq_ok_iff_describes {table : Table} (unrepeated : Unrepeated table)
    (config : Config) : ofTable table = .ok config ↔ Describes table config := by
  rcases fields_apart with ⟨listener, registry, service, tls, timeouts, observability, apart⟩
  have distinct : ∀ {name : String}, name ∈ knownKeys.map Known.table → ∀ inner,
      table.get? name = some (.table inner) → HasDistinctKeys inner := by
    intro name listed
    rcases List.mem_map.mp listed with ⟨known, member, rfl⟩
    exact unrepeated.keys known member
  refine (overlayTable_eq_ok_iff apart unrepeated.sections).trans (settleAll_sections.trans ?_)
  rw [replaced_overlay_iff listener (distinct (by decide)), settleAll_listener,
    replaced_overlay_iff registry (distinct (by decide)), settleAll_registry,
    replaced_overlay_iff service (distinct (by decide)), settleAll_service unrepeated.metadata,
    replaced_overlay_iff tls (distinct (by decide)), settleAll_tls,
    replaced_overlay_iff timeouts (distinct (by decide)), settleAll_timeouts,
    replaced_overlay_iff observability (distinct (by decide)), settleAll_observability]
  constructor
  · rintro ⟨⟨isListener, bindHost, port⟩, ⟨isRegistry, announced, host, agentPort, callTime⟩,
      ⟨isService, name, containerName, id, metadata⟩,
      ⟨isTls, secured, keyBits, extraSans, cipherSuites⟩, ⟨isTimeouts, requestTime, graceTime⟩,
      ⟨isObservability, level, format, exposed, address⟩⟩
    constructor
    all_goals
      simp only [knownKeys, List.forall_mem_cons, List.not_mem_nil, false_implies, implies_true,
        and_true]
    · exact ⟨isListener, isListener, isRegistry, isRegistry, isRegistry, isRegistry, isService,
        isService, isService, isService, isTls, isTls, isTls, isTls, isTimeouts, isTimeouts,
        isObservability, isObservability, isObservability, isObservability⟩
    · exact ⟨bindHost, port, announced, host, agentPort, callTime, name, containerName, id,
        metadata, secured, keyBits, extraSans, cipherSuites, requestTime, graceTime, level, format,
        exposed, address⟩
  · rintro ⟨parted, fields⟩
    simp only [knownKeys, List.forall_mem_cons, List.not_mem_nil, false_implies, implies_true,
      and_true] at parted fields
    rcases parted with ⟨isListener, -, isRegistry, -, -, -, isService, -, -, -, isTls, -, -, -,
      isTimeouts, -, isObservability, -⟩
    rcases fields with ⟨bindHost, port, announced, host, agentPort, callTime, name, containerName,
      id, metadata, secured, keyBits, extraSans, cipherSuites, requestTime, graceTime, level,
      format, exposed, address⟩
    exact ⟨⟨isListener, bindHost, port⟩, ⟨isRegistry, announced, host, agentPort, callTime⟩,
      ⟨isService, name, containerName, id, metadata⟩,
      ⟨isTls, secured, keyBits, extraSans, cipherSuites⟩, ⟨isTimeouts, requestTime, graceTime⟩,
      ⟨isObservability, level, format, exposed, address⟩⟩

/-! ## Files -/

theorem unambiguous_of_givenIn {names : List String} {name : String} {item found : Item}
    (unambiguous : item.Unambiguous) (given : givenIn names name item = some found) :
    found.Unambiguous := by
  cases unambiguous with
  | scalar value span => cases given
  | array span items => exact items found (List.mem_of_getElem? given)
  | table distinct items => exact Toml.Table.Unambiguous.get? (.table distinct items) given
  | tables all =>
    rcases List.mem_map.mp (List.mem_of_getElem? given) with ⟨table, member, rfl⟩
    exact all table member

/-- Where a configuration looks for keys, a document that was read has none twice. -/
theorem unrepeated_of_unambiguous {table : Table} (unambiguous : table.Unambiguous) :
    Unrepeated table where
  sections := (Toml.Table.unambiguous_iff.mp unambiguous).1
  keys := fun _ _ _ found => (Toml.Table.unambiguous_iff.mp (unambiguous.get? found)).1
  metadata := by
    intro inner given
    rcases Option.bind_eq_some_iff.mp given with ⟨item, found, inside⟩
    exact (Toml.Table.unambiguous_iff.mp
      (unambiguous_of_givenIn (unambiguous.get? found) inside)).1

/-- Whether a file can be read and its document describes a configuration. -/
def DescribedBy (content : FileContent) (config : Config) : Prop :=
  ∃ source table, content.text = .ok source ∧ Toml.parse source = .ok table ∧
    Describes table config

/-- A file is accepted exactly for the configuration that its document describes. -/
theorem ofContent_eq_ok_iff {content : FileContent} {config : Config} :
    ofContent content = .ok config ↔ DescribedBy content config := by
  have exact : ∀ {source : String} {table : Table}, Toml.parse source = .ok table →
      (ofTable table = .ok config ↔ Describes table config) := fun parsed =>
    ofTable_eq_ok_iff_describes
      (unrepeated_of_unambiguous (Toml.unambiguous_of_parse parsed)) config
  constructor
  · intro read
    unfold ofContent ofText at read
    split at read
    · rename_i source text
      split at read
      · cases read
      · rename_i table parsed
        split at read <;> cases read
        exact ⟨source, table, text, parsed, (exact parsed).mp ‹_›⟩
    · cases read
  · rintro ⟨source, table, text, parsed, describes⟩
    rw [ofContent, text]
    dsimp only
    rw [ofText, parsed]
    dsimp only
    rw [(exact parsed).mpr describes]

end Config
end ServiceBeacon
