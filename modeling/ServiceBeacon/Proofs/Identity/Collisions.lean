import ServiceBeacon.Proofs.Identity.Ports

namespace ServiceBeacon

/-!
# Instances that are told apart

Two instances with one identifier would overwrite and withdraw each other's entry
at the registry.  A derived identifier is free text, a colon and a number, and the
text may itself hold colons and end in a number.  What settles the matter is that
the number holds no colon: the last colon of the identifier is always the one that
was put there, so address and port can be read off, whatever the address is.

An instance without a configured identifier always carries a derived one, on
whichever ports it has been announced before.
-/

namespace Identity

/-- An identity that spells its own port does so on every port that it is moved to. -/
theorem spells_withPorts {identity : Identity} (spells : identity.Spells identity.port)
    (ports : List UInt16) :
    (identity.withPorts ports).Spells (identity.withPorts ports).port := by
  induction ports generalizing identity with
  | nil => exact spells
  | cons port rest inductionHypothesis =>
    exact inductionHypothesis (spells_withPort_of_spells spells port)

theorem port_withPorts_eq_getLastD (identity : Identity) (ports : List UInt16) :
    (identity.withPorts ports).port = ports.getLastD identity.port := by
  induction ports generalizing identity with
  | nil => rfl
  | cons port rest inductionHypothesis =>
    rw [withPorts_cons, inductionHypothesis, List.getLastD_cons]
    rfl

theorem spells_ofConfig {config : Config} (unconfigured : config.service.id = none) :
    (ofConfig config).Spells (ofConfig config).port := by
  unfold Spells ofConfig
  rw [unconfigured]
  rfl

/-- Without a configured identifier, instances have the same one exactly if they have
the same address and end up on the same port: the last one of those they were moved to,
or the configured one. -/
theorem derived_ids_distinct {first second : Config} (unconfigured : first.service.id = none)
    (otherUnconfigured : second.service.id = none) (ports others : List UInt16) :
    let one := (ofConfig first).withPorts ports
    let other := (ofConfig second).withPorts others
    (one.serviceId = other.serviceId ↔
      first.service.containerName = second.service.containerName ∧ one.port = other.port) ∧
      one.port = ports.getLastD first.listener.port ∧
      other.port = others.getLastD second.listener.port := by
  intro one other
  have derived : one.serviceId = derivedId one.address one.port :=
    spells_withPorts (spells_ofConfig unconfigured) ports
  have otherDerived : other.serviceId = derivedId other.address other.port :=
    spells_withPorts (spells_ofConfig otherUnconfigured) others
  have address : one.address = first.service.containerName := (withPorts_kept _ ports).2.1
  have otherAddress : other.address = second.service.containerName := (withPorts_kept _ others).2.1
  refine ⟨?_, port_withPorts_eq_getLastD _ ports, port_withPorts_eq_getLastD _ others⟩
  rw [derived, otherDerived, derivedId_inj, address, otherAddress]

/-- A name that ends like an identifier is no way to somebody else's entry. -/
theorem derived_ids_distinct_ambiguous :
    let named (name : String) (port : UInt16) : Config :=
      { Config.default with
        listener := { Config.Listener.default with port }
        service := { Config.Service.default with containerName := name } }
    (named "host:1" 80).service.id = none ∧ (named "host" 180).service.id = none ∧
      ((ofConfig (named "host:1" 80)).withPorts [8080]).serviceId = "host:1:8080" ∧
      ((ofConfig (named "host" 180)).withPorts []).serviceId = "host:180" ∧
      ((ofConfig (named "host:1" 80)).withPorts [8080]).serviceId ≠
        ((ofConfig (named "host" 180)).withPorts []).serviceId := by
  intro named
  have distinct := @derived_ids_distinct (named "host:1" 80) (named "host" 180) rfl rfl [8080] []
  refine ⟨rfl, rfl, by decide, by decide, fun same => ?_⟩
  exact absurd (distinct.1.mp same).1 (by decide)

end Identity
end ServiceBeacon
