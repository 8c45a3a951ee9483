import ServiceBeacon.Identity
import ServiceBeacon.Json.Basic

namespace ServiceBeacon

/-!
# The registration descriptor

What a registry agent is told about an instance: its identifier, name,
address, port and routing metadata, as one JSON object with these members in
this order.
-/

/-- The description of an instance as an agent receives it. -/
structure Registration where
  id : String
  name : String
  address : String
  port : UInt16
  metadata : Metadata
deriving DecidableEq, Repr

namespace Registration

def ofIdentity (identity : Identity) : Registration :=
  ⟨identity.serviceId, identity.serviceName, identity.address, identity.port, identity.routing⟩

def toJson (registration : Registration) : Json :=
  .object
    [("ID", .string registration.id), ("Name", .string registration.name),
      ("Address", .string registration.address), ("Port", .number registration.port.toNat),
      ("Meta", .object (registration.metadata.entries.map fun entry => (entry.1, .string entry.2)))]

/-- The text that is sent to an agent. -/
def body (registration : Registration) : String := registration.toJson.text

end Registration
end ServiceBeacon
