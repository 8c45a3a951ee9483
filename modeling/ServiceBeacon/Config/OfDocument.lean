import ServiceBeacon.Config.Basic
import ServiceBeacon.Text.Quoted
import ServiceBeacon.Toml.Document

namespace ServiceBeacon
namespace Config

/-!
# Reading a configuration from a document

A document overlays the defaults: a key that a section knows replaces one
field, every other key is ignored, and a section or key that is absent leaves
its default.  A section may also be written as an array of its fields in their
declared order.  The first value, in document order, that does not fit its
field refuses the document.
-/

open Toml (Item Fault Key Span Table)

/-! ## Values -/

/-- What a value is, in messages about values of the wrong type. -/
def described : Item → String
  | .scalar (.string text) _ => "string " ++ Text.quoted text
  | .scalar (.integer value) _ => "integer `" ++ toString value ++ "`"
  | .scalar (.float bits) _ => "floating point `" ++ Toml.floatText bits ++ "`"
  | .scalar (.boolean value) _ => "boolean `" ++ (if value then "true" else "false") ++ "`"
  | .scalar (.dateTime _) _ => "map"
  | .array _ _ => "sequence"
  | .table _ => "map"
  | .tables _ => "sequence"

def wrongType (item : Item) (expected : String) : Fault :=
  ⟨item.span, "invalid type: " ++ described item ++ ", expected " ++ expected⟩

def outOfRange (item : Item) (expected : String) : Fault :=
  ⟨item.span, "invalid value: " ++ described item ++ ", expected " ++ expected⟩

def textOf (item : Item) : Except Fault String :=
  match item with
  | .scalar (.string text) _ => .ok text
  | _ => .error (wrongType item "a string")

def flagOf (item : Item) : Except Fault Bool :=
  match item with
  | .scalar (.boolean value) _ => .ok value
  | _ => .error (wrongType item "a boolean")

/-- The number of an integer below a limit that is not negative. -/
def numberOf (limit : Nat) (expected : String) (item : Item) : Except Fault Nat :=
  match item with
  | .scalar (.integer value) _ =>
    if 0 ≤ value && value < limit then .ok value.toNat else .error (outOfRange item expected)
  | _ => .error (wrongType item expected)

def portOf (item : Item) : Except Fault UInt16 :=
  (numberOf (Nat.pow 2 16) "u16" item).map UInt16.ofNat

/-- The number of seconds that an integer denotes. -/
def secondsOf (item : Item) : Except Fault UInt64 :=
  (numberOf (Nat.pow 2 64) "u64" item).map UInt64.ofNat

def sizeOf (item : Item) : Except Fault UInt64 :=
  (numberOf (Nat.pow 2 64) "usize" item).map UInt64.ofNat

/-- A fault without a place of its own is placed at the entry it arose in. -/
def placedAt {α : Type} (place : Option Span) : Except Fault α → Except Fault α
  | .ok value => .ok value
  | .error fault => .error { fault with span := fault.span.or place }

/-- The place of an entry: that of its item, or else that of its key. -/
def placeOf (key : Key) (item : Item) : Option Span := item.span.or (some key.span)

/-- The texts of an array of strings. -/
def textsOf (item : Item) : Except Fault (List String) :=
  match item with
  | .array items _ => items.mapM textOf
  | .tables repeated => repeated.mapM fun table => textOf (.table table)
  | _ => .error (wrongType item "a sequence")

/-- The key under which a date stands where a map is expected. -/
def dateKey : String := "$__toml_private_datetime"

/-- The pairs of a table of strings. -/
def metadataOf (item : Item) : Except Fault Metadata :=
  match item with
  | .table table =>
    (table.entries.mapM fun (entry : Key × Item) =>
      (placedAt (placeOf entry.1 entry.2) (textOf entry.2)).map fun text =>
        (entry.1.name, text)).map Metadata.ofList
  | .scalar (.dateTime value) _ => .ok (Metadata.ofList [(dateKey, value.text)])
  | _ => .error (wrongType item "a map")

def logFormatNamed (span : Option Span) (name : String) : Except Fault LogFormat :=
  match LogFormat.ofName? name with
  | some format => .ok format
  | none => .error ⟨span, "unknown variant `" ++ name ++ "`, expected `text` or `json`"⟩

/-- Whether an item may stand under the name of a log format: only what is empty. -/
def requireEmpty (item : Item) : Except Fault Unit :=
  match item with
  | .table table =>
    if table.entries.isEmpty then .ok () else .error ⟨item.span, "expected empty table"⟩
  | .array items _ =>
    if items.isEmpty then .ok () else .error ⟨item.span, "expected empty table"⟩
  | .tables repeated =>
    if repeated.isEmpty then .ok () else .error ⟨item.span, "expected empty array"⟩
  | .scalar _ _ => .error ⟨item.span, "expected table, found " ++ item.typeName⟩

/-- The log format that the first entry of a table names. -/
def logFormatOfEntries (table : Table) : Except Fault LogFormat :=
  match table.entries with
  | [] => .error ⟨table.span, "expected table with exactly 1 entry, found empty table"⟩
  | (key, item) :: _ => do
    let format ← logFormatNamed (some key.span) key.name
    requireEmpty item
    return format

/-- The log format of a string, or of a table whose only key is its name. -/
def logFormatOf (item : Item) : Except Fault LogFormat :=
  placedAt item.span
    (match item with
    | .scalar (.string name) _ => logFormatNamed item.span name
    | .table table =>
      if table.origin.isInline then
        match table.entries with
        | [] => .error ⟨item.span, "wanted exactly 1 element, found 0 elements"⟩
        | [_] => logFormatOfEntries table
        | _ => .error ⟨item.span, "wanted exactly 1 element, more than 1 element"⟩
      else logFormatOfEntries table
    | _ => .error ⟨item.span, "wanted string or table"⟩)

/-! ## Sections -/

/-- A field of a section: its name, and how an item replaces it. -/
structure Field (Section : Type) where
  name : String
  replace : Item → Section → Except Fault Section

/-- A field that a reader of values fills. -/
def Field.of {Section α : Type} (name : String) (read : Item → Except Fault α)
    (write : α → Section → Section) : Field Section :=
  ⟨name, fun item whole => (read item).map fun value => write value whole⟩

/-- Replaces the field that an entry names, if there is one. -/
def overlayEntry {Section : Type} (fields : List (Field Section)) (whole : Section)
    (entry : Key × Item) : Except Fault Section :=
  match fields.find? fun field => field.name == entry.1.name with
  | none => .ok whole
  | some field => placedAt (placeOf entry.1 entry.2) (field.replace entry.2 whole)

/-- Replaces all fields that the entries of a table name, in document order. -/
def overlayTable {Section : Type} (fields : List (Field Section)) (whole : Section)
    (table : Table) : Except Fault Section :=
  table.entries.foldlM (overlayEntry fields) whole

/-- Replaces fields by items in the order of the fields; items without a field
are ignored. -/
def overlayItems {Section : Type} (fields : List (Field Section)) (whole : Section)
    (items : List Item) : Except Fault Section :=
  (fields.zip items).foldlM (fun whole pair => pair.1.replace pair.2 whole) whole

/-- Reads a section over its defaults.  A date has no keys that a section knows. -/
def overlay {Section : Type} (expected : String) (fields : List (Field Section))
    (whole : Section) (item : Item) : Except Fault Section :=
  placedAt item.span
    (match item with
    | .table table => overlayTable fields whole table
    | .array items _ => overlayItems fields whole items
    | .tables repeated => overlayItems fields whole (repeated.map .table)
    | .scalar (.dateTime _) _ => .ok whole
    | .scalar _ _ => .error (wrongType item ("struct " ++ expected)))

def listenerFields : List (Field Listener) :=
  [.of "bind_host" textOf fun value whole => { whole with bindHost := value },
    .of "port" portOf fun value whole => { whole with port := value }]

def registryFields : List (Field Registry) :=
  [.of "enabled" flagOf fun value whole => { whole with enabled := value },
    .of "host" textOf fun value whole => { whole with host := value },
    .of "port" portOf fun value whole => { whole with port := value },
    .of "timeout_secs" secondsOf fun value whole => { whole with timeoutSeconds := value }]

def serviceFields : List (Field Service) :=
  [.of "name" textOf fun value whole => { whole with name := value },
    .of "container_name" textOf fun value whole => { whole with containerName := value },
    .of "id" textOf fun value whole => { whole with id := some value },
    .of "meta" metadataOf fun value whole => { whole with metadata := value }]

def tlsFields : List (Field Tls) :=
  [.of "enabled" flagOf fun value whole => { whole with enabled := value },
    .of "key_bits" sizeOf fun value whole => { whole with keyBits := value },
    .of "extra_sans" textsOf fun value whole => { whole with extraSans := value },
    .of "cipher_suites" textsOf fun value whole => { whole with cipherSuites := value }]

def timeoutFields : List (Field Timeouts) :=
  [.of "request_secs" secondsOf fun value whole => { whole with requestSeconds := value },
    .of "shutdown_grace_secs" secondsOf fun value whole =>
      { whole with shutdownGraceSeconds := value }]

def observabilityFields : List (Field Observability) :=
  [.of "log_level" textOf fun value whole => { whole with logLevel := value },
    .of "log_format" logFormatOf fun value whole => { whole with logFormat := value },
    .of "metrics_enabled" flagOf fun value whole => { whole with metricsEnabled := value },
    .of "metrics_address" textOf fun value whole => { whole with metricsAddress := value }]

/-- The sections of a configuration. -/
def sections : List (Field Config) :=
  [.of "listener" (overlay "ListenerConfig" listenerFields .default) fun value whole =>
      { whole with listener := value },
    .of "registry" (overlay "RegistryConfig" registryFields .default) fun value whole =>
      { whole with registry := value },
    .of "service" (overlay "ServiceConfig" serviceFields .default) fun value whole =>
      { whole with service := value },
    .of "tls" (overlay "TlsConfig" tlsFields .default) fun value whole =>
      { whole with tls := value },
    .of "timeouts" (overlay "TimeoutConfig" timeoutFields .default) fun value whole =>
      { whole with timeouts := value },
    .of "observability" (overlay "ObservabilityConfig" observabilityFields .default)
      fun value whole => { whole with observability := value }]

/-- The configuration that a document describes. -/
def ofTable (table : Table) : Except Fault Config := overlayTable sections default table

end Config
end ServiceBeacon
