import ServiceBeacon.Config.Basic

namespace ServiceBeacon

/-!
# Service identity

The identity is what the fixture announces and what it withdraws.  An
instance without a configured identifier is called by its address and port,
so a derived identifier follows the port when the listener turns out to be
bound elsewhere; a configured identifier never changes.
-/

/-- Who the service is to the registry and to its clients. -/
structure Identity where
  serviceName : String
  serviceId : String
  address : String
  port : UInt16
  routing : Metadata
deriving DecidableEq, Repr

namespace Identity

/-- The identifier of an instance that is known by its address and port only. -/
def derivedId (address : String) (port : UInt16) : String :=
  address ++ ":" ++ toString port.toNat

/-- The routes of a service that configures none: by path, and by header. -/
def defaultRouting (serviceName : String) : Metadata :=
  Metadata.ofList
    [("route_1_match_type", "path"),
      ("route_1_path_prefix", "/" ++ serviceName ++ "/"),
      ("route_1_prefix_rewrite", "/"),
      ("route_2_match_type", "header"),
      ("route_2_header_name", "X-Service"),
      ("route_2_header_value", serviceName),
      ("route_2_path_prefix", "/")]

def ofConfig (config : Config) : Identity where
  serviceName := config.service.name
  serviceId :=
    config.service.id.getD (derivedId config.service.containerName config.listener.port)
  address := config.service.containerName
  port := config.listener.port
  routing :=
    if config.service.metadata.isEmpty then defaultRouting config.service.name
    else config.service.metadata

/-- The same instance on another port.  An identifier that spells the old
address and port is taken for a derived one and follows. -/
def withPort (identity : Identity) (port : UInt16) : Identity where
  serviceName := identity.serviceName
  serviceId :=
    if identity.serviceId = derivedId identity.address identity.port then
      derivedId identity.address port
    else identity.serviceId
  address := identity.address
  port := port
  routing := identity.routing

end Identity
end ServiceBeacon
