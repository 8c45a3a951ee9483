import ServiceBeacon.Identity
import ServiceBeacon.Proofs.Text.Decimal
import ServiceBeacon.Proofs.Text.Parts

namespace ServiceBeacon

/-!
# Announcing a service on other ports

A service that turns out to listen on another port than the configured one is
announced on that port, and the outcome should be the identity of a
configuration with that port in the first place.  It is, unless the configured
identifier spells the address and one of the ports that are given up: nothing
tells such an identifier from a derived one, so it follows the port as well.
The theorem at the end finds the exact configurations and ports for which that
happens, and says what the identity is in every case.
-/

/-- The configuration whose listener has another port. -/
def Config.onPort (config : Config) (port : UInt16) : Config :=
  { config with listener := { config.listener with port } }

attribute [ext] Identity

namespace Identity

/-- The identity that was announced on one port after the other. -/
def withPorts (identity : Identity) (ports : List UInt16) : Identity :=
  ports.foldl withPort identity

/-! ## Derived identifiers -/

/-- Behind the last colon of a derived identifier stands the port, in front of it the address. -/
theorem splitFirst_reverse_derivedId (address : String) (port : UInt16) :
    Text.splitFirst ':' (derivedId address port).toList.reverse =
      ((Text.decimal port.toNat).reverse, some address.toList.reverse) := by
  have plain : ':' ∉ (Text.decimal port.toNat).reverse := by
    intro colon
    have digit := Text.isDigit_of_mem_decimal (List.mem_reverse.mp colon)
    exact absurd digit (by decide)
  have written : (derivedId address port).toList =
      address.toList ++ ':' :: Text.decimal port.toNat := by
    rw [derivedId, String.toList_append, String.toList_append, List.append_assoc]
    rfl
  rw [written, List.reverse_append, List.reverse_cons, List.append_assoc, List.singleton_append]
  exact Text.splitFirst_append plain _

theorem derivedId_inj {address other : String} {port another : UInt16} :
    derivedId address port = derivedId other another ↔ address = other ∧ port = another := by
  constructor
  · intro same
    have parts := splitFirst_reverse_derivedId address port
    rw [same, splitFirst_reverse_derivedId, Prod.mk.injEq, Option.some.injEq, List.reverse_inj,
      List.reverse_inj] at parts
    rcases parts with ⟨digits, name⟩
    have numbers := congrArg (Text.ofDigits 10) digits
    rw [Text.ofDigits_decimal, Text.ofDigits_decimal] at numbers
    exact ⟨(String.toList_injective name).symm, (UInt16.toNat_inj.mp numbers).symm⟩
  · rintro ⟨rfl, rfl⟩
    rfl

/-! ## One port after the other -/

/-- Whether the identifier spells the address and a port, as a derived one does. -/
def Spells (identity : Identity) (port : UInt16) : Prop :=
  identity.serviceId = derivedId identity.address port

instance (identity : Identity) (port : UInt16) : Decidable (identity.Spells port) :=
  inferInstanceAs (Decidable (_ = _))

@[simp] theorem withPorts_cons (identity : Identity) (port : UInt16) (rest : List UInt16) :
    identity.withPorts (port :: rest) = (identity.withPort port).withPorts rest := rfl

theorem withPorts_kept (identity : Identity) (ports : List UInt16) :
    (identity.withPorts ports).serviceName = identity.serviceName ∧
      (identity.withPorts ports).address = identity.address ∧
      (identity.withPorts ports).routing = identity.routing := by
  induction ports generalizing identity with
  | nil => exact ⟨rfl, rfl, rfl⟩
  | cons port rest inductionHypothesis => exact inductionHypothesis (identity.withPort port)

theorem port_withPorts (identity : Identity) (earlier : List UInt16) (last : UInt16) :
    (identity.withPorts (earlier ++ [last])).port = last := by
  rw [withPorts, List.foldl_append]
  rfl

/-- An identifier that spells the present port follows, and then spells the new one. -/
theorem spells_withPort_of_spells {identity : Identity} (spells : identity.Spells identity.port)
    (port : UInt16) : (identity.withPort port).Spells port :=
  if_pos spells

/-- An identifier that does not spell the present port stays as it is. -/
theorem serviceId_withPort_of_not_spells {identity : Identity}
    (different : ¬ identity.Spells identity.port) (port : UInt16) :
    (identity.withPort port).serviceId = identity.serviceId :=
  if_neg different

/-- The identifier follows to the last port as soon as it spells the port that
is given up, be it the first port or one that was taken in between. -/
theorem serviceId_withPorts (identity : Identity) (earlier : List UInt16) (last : UInt16) :
    (identity.withPorts (earlier ++ [last])).serviceId =
      if ∃ port ∈ identity.port :: earlier, identity.Spells port then
        derivedId identity.address last
      else identity.serviceId := by
  induction earlier generalizing identity with
  | nil =>
    simp only [List.mem_singleton, exists_eq_left]
    rfl
  | cons port rest inductionHypothesis =>
    have onward := inductionHypothesis (identity.withPort port)
    rw [List.cons_append, withPorts_cons, onward]
    by_cases spells : identity.Spells identity.port
    · have follows : ∃ other ∈ (identity.withPort port).port :: rest,
          (identity.withPort port).Spells other :=
        ⟨port, List.mem_cons_self, spells_withPort_of_spells spells port⟩
      rw [if_pos follows, if_pos ⟨identity.port, List.mem_cons_self, spells⟩]
      rfl
    · have kept := serviceId_withPort_of_not_spells spells port
      -- The port that is given up first does not count, since it is not spelled.
      have elsewhere : (∃ other ∈ identity.port :: port :: rest, identity.Spells other) ↔
          ∃ other ∈ (identity.withPort port).port :: rest,
            (identity.withPort port).Spells other := by
        simp only [List.mem_cons, or_and_right, exists_or, exists_eq_left, spells, false_or]
        unfold Spells
        rw [kept]
        rfl
      simp only [kept, elsewhere]
      rfl

/-! ## The configuration with the last port -/

theorem serviceId_of_configured {config : Config} {id : String}
    (configured : config.service.id = some id) (earlier : List UInt16) (last : UInt16) :
    ((ofConfig config).withPorts (earlier ++ [last])).serviceId =
      if ∃ port ∈ config.listener.port :: earlier,
          id = derivedId config.service.containerName port then
        derivedId config.service.containerName last
      else id := by
  have identifier : (ofConfig config).serviceId = id := by
    unfold ofConfig
    rw [configured]
    rfl
  rw [serviceId_withPorts]
  simp only [Spells, identifier]
  rfl

theorem serviceId_of_unconfigured {config : Config} (unconfigured : config.service.id = none)
    (earlier : List UInt16) (last : UInt16) :
    ((ofConfig config).withPorts (earlier ++ [last])).serviceId =
      derivedId config.service.containerName last := by
  have spells : (ofConfig config).Spells config.listener.port := by
    unfold Spells ofConfig
    rw [unconfigured]
    rfl
  exact (serviceId_withPorts _ earlier last).trans
    (if_pos ⟨config.listener.port, List.mem_cons_self, spells⟩)

/-- An identifier that follows is kept exactly if the ports that it spells among
those that are given up are the last port. -/
theorem follows_eq_self_iff (address id : String) (given : List UInt16) (last : UInt16) :
    (if ∃ port ∈ given, id = derivedId address port then derivedId address last else id) = id ↔
      ∀ port ∈ given, id = derivedId address port → port = last := by
  by_cases follows : ∃ port ∈ given, id = derivedId address port
  · rw [if_pos follows]
    constructor
    · intro same port _ spelled
      exact (derivedId_inj.mp (same.trans spelled)).2.symm
    · intro only
      rcases follows with ⟨port, member, spelled⟩
      rw [← only port member spelled, spelled]
  · rw [if_neg follows]
    exact iff_of_true rfl fun port member spelled => absurd ⟨port, member, spelled⟩ follows

/-- Re-announcing and configuring agree in the name, the address, the port and
the routes, and in the identifier if none is configured.  A configured one is
kept unless it spells a port that is given up.  Hence both are the same identity
exactly if every such port that is spelled is the last port. -/
theorem reannounced_eq_configured_iff (config : Config) (earlier : List UInt16)
    (last : UInt16) :
    let announced := (ofConfig config).withPorts (earlier ++ [last])
    let configured := ofConfig (config.onPort last)
    (announced.serviceName = configured.serviceName ∧
      announced.address = configured.address ∧
      announced.port = configured.port ∧
      announced.routing = configured.routing) ∧
    (config.service.id = none →
      announced.serviceId = derivedId config.service.containerName last) ∧
    (∀ id, config.service.id = some id →
      announced.serviceId =
        if ∃ port ∈ config.listener.port :: earlier,
            id = derivedId config.service.containerName port then
          derivedId config.service.containerName last
        else id) ∧
    (announced = configured ↔
      ∀ port ∈ config.listener.port :: earlier,
        config.service.id = some (derivedId config.service.containerName port) →
          port = last) := by
  intro announced configured
  have kept := withPorts_kept (ofConfig config) (earlier ++ [last])
  have port : announced.port = last := port_withPorts (ofConfig config) earlier last
  have others : announced = configured ↔ announced.serviceId = configured.serviceId := by
    constructor
    · exact congrArg serviceId
    · intro same
      exact Identity.ext kept.1 same kept.2.1 port kept.2.2
  refine ⟨⟨kept.1, kept.2.1, port, kept.2.2⟩,
    fun absent => serviceId_of_unconfigured absent earlier last,
    fun id present => serviceId_of_configured present earlier last, others.trans ?_⟩
  have target : configured.serviceId =
      config.service.id.getD (derivedId config.service.containerName last) := rfl
  rw [target]
  cases present : config.service.id with
  | none =>
    exact iff_of_true (serviceId_of_unconfigured present earlier last)
      fun _ _ spelled => absurd spelled.symm (Option.some_ne_none _)
  | some id =>
    have identifier := serviceId_of_configured present earlier last
    simp only [Option.getD_some, Option.some.injEq]
    exact identifier ▸ follows_eq_self_iff _ id _ last

/-- A configured identifier that spells the configured port is rewritten when the
listener turns out to be bound elsewhere. -/
theorem configured_identifier_rewritten :
    let config : Config :=
      { Config.default with
        service := { Config.Service.default with
          containerName := "host1", id := some "host1:8080" } }
    ((ofConfig config).withPorts [40123]).serviceId = "host1:40123" ∧
      (ofConfig (config.onPort 40123)).serviceId = "host1:8080" ∧
      (ofConfig config).withPorts [40123] ≠ ofConfig (config.onPort 40123) := by
  decide

end Identity
end ServiceBeacon
