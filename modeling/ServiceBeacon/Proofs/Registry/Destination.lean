import ServiceBeacon.Config.Validation
import ServiceBeacon.Proofs.Registry.SingleRequest

namespace ServiceBeacon

namespace Url

/-!
# Where registry calls go

A configuration names an agent by a host and a port, and a client puts both into
the text of a URL, which is then read.  The host is not looked at before that.  A
text that is no host makes no client, unless it has a separator in it: then the URL
is divided elsewhere, and a client is made that goes astray.
-/

/-- That a URL leads to the root of a host and port, and says nothing else.  The host is
given as the text that it is read from as a whole. -/
structure LeadsTo (url : Url) (host : List Char) (port : UInt16) : Prop where
  scheme : url.scheme = "http".toList
  username : url.username = []
  password : url.password = []
  host : ∃ read, Host.ofDomain host = .ok read ∧ url.host = some read
  port : url.effectivePort? = some port
  path : url.path.text = "/".toList
  query : url.query = none
  fragment : url.fragment = none

section Text

variable {host : List Char}

theorem leadsTo_ofHost {read : Host} (whole : Host.ofDomain host = .ok read) (port : UInt16) :
    LeadsTo (ofHost read port) host port where
  scheme := rfl
  username := rfl
  password := rfl
  host := ⟨read, whole, rfl⟩
  port := effectivePort?_ofHost read port
  path := rfl
  query := rfl
  fragment := rfl

/-- A URL that is made of a host and a port leads to them exactly if the host has no
separator in it. -/
theorem leadsTo_iff {port : UInt16} {url : Url}
    (made : parse ("http://".toList ++ hostAndPort host port) = .ok url) :
    LeadsTo url host port ↔ ∀ c ∈ separators, c ∉ host := by
  constructor
  · intro leads c separator
    rcases leads.host with ⟨read, whole, _⟩
    exact Host.separator_notMem_of_ofDomain whole separator
  · intro undivided
    rcases ofDomain_of_parse undivided made with ⟨read, whole, rfl⟩
    exact leadsTo_ofHost whole port

end Text

end Url

namespace Registry
namespace Client

variable {registry : Config.Registry}

/-- The base URL of a client is what is read of the configured host and port. -/
theorem parse_of_ofConfig {client : Client} (made : ofConfig registry = .ok client) :
    Url.parse ("http://".toList ++ Url.hostAndPort registry.host.toList registry.port) =
      .ok client.baseUrl := by
  unfold ofConfig ofText at made
  rw [toList_baseUrl] at made
  split at made
  · rename_i url read
    cases made
    exact read
  · cases made

/-- What is a host makes a client that goes there. -/
theorem ofConfig_of_ofDomain {host : Url.Host}
    (whole : Url.Host.ofDomain registry.host.toList = .ok host) :
    ofConfig registry =
      .ok ⟨Url.ofHost host registry.port, .ofSeconds registry.timeoutSeconds.toNat⟩ := by
  unfold ofConfig ofText
  rw [toList_baseUrl, Url.parse_of_ofDomain whole]

/-- A client that is made goes to the configured host and port exactly if the host has
no separator in it. -/
theorem goes_as_configured_iff {client : Client} (made : ofConfig registry = .ok client) :
    client.baseUrl.LeadsTo registry.host.toList registry.port ↔
      ∀ c ∈ Url.separators, c ∉ registry.host.toList :=
  Url.leadsTo_iff (parse_of_ofConfig made)

/-- An address in brackets, with the port that is left out of a URL. -/
theorem goes_as_configured_bracketed :
    let registry := { Config.Registry.default with host := "[::1]", port := 80 }
    ∃ client, ofConfig registry = .ok client ∧ client.baseUrl.port = none ∧
      client.baseUrl.LeadsTo registry.host.toList registry.port := by
  intro registry
  have whole : Url.Host.ofDomain registry.host.toList =
      .ok (.v6 ⟨[0, 0, 0, 0, 0, 0, 0, 1], rfl⟩) := by decide +kernel
  have made := ofConfig_of_ofDomain whole
  have undivided : ∀ c ∈ Url.separators, c ∉ registry.host.toList :=
    List.all_iff_forall_prop.mp (by decide)
  exact ⟨_, made, rfl, (goes_as_configured_iff made).mpr undivided⟩

/-- A configuration whose registry has a path behind its host. -/
def divided : Config :=
  { Config.default with
    registry := { Config.Registry.default with enabled := true, host := "consul/x" } }

/-- The path is accepted, and the configured port becomes the end of it: the client goes
to another port. -/
theorem goes_to_other_port :
    divided.validate = .ok divided ∧ divided.registry.enabled = true ∧
      ∃ client, ofConfig divided.registry = .ok client ∧
        client.baseUrl.host = some (.name "consul".toList) ∧
        client.baseUrl.effectivePort? = some 80 ∧
        client.baseUrl.path.text = "/x:8500".toList ∧
        ¬ client.baseUrl.LeadsTo divided.registry.host.toList divided.registry.port := by
  let url : Url :=
    { Url.ofPlainHost "consul".toList 80 with path := .segments ["x:8500".toList] }
  have read : Url.parse divided.registry.baseUrl.toList = .ok url := by decide +kernel
  have made : ofConfig divided.registry = .ok ⟨url, .ofSeconds 5⟩ := by
    unfold ofConfig ofText
    rw [read]
    rfl
  refine ⟨rfl, rfl, _, made, rfl, rfl, rfl, ?_⟩
  intro leads
  have port : (some 80 : Option UInt16) = some 8500 := leads.port
  revert port
  decide

/-- Tabs and line ends in a host are the lesser evil: the client goes where it would have
gone without them. -/
theorem goes_without_dropped_iff {client : Client} (made : ofConfig registry = .ok client) :
    client.baseUrl.LeadsTo (registry.host.toList.filter (!Url.isDropped ·)) registry.port ↔
      ∀ c ∈ ['/', '\\', '?', '#', '@'], c ∉ registry.host.toList := by
  have read := parse_of_ofConfig made
  rw [← Url.parse_filter] at read
  rw [Url.leadsTo_iff read]
  have kept : ∀ c ∈ ['/', '\\', '?', '#', '@'],
      c ∈ Url.separators ∧ Url.isDropped c = false := List.all_iff_forall_prop.mp (by decide)
  have rest : ∀ c ∈ Url.separators, Url.isDropped c = false → c ∈ ['/', '\\', '?', '#', '@'] :=
    List.all_iff_forall_prop.mp (by decide)
  constructor
  · intro undivided c listed member
    rcases kept c listed with ⟨separator, solid⟩
    refine undivided c separator (List.mem_filter.mpr ⟨member, ?_⟩)
    rw [solid]
    rfl
  · intro undivided c separator member
    rw [List.mem_filter, Bool.not_eq_true'] at member
    exact undivided c (rest c separator member.2) member.1

end Client
end Registry
end ServiceBeacon
