namespace ServiceBeacon

/-!
# Cipher suites

A listener always offers the three suites of TLS 1.3.  Which suites of TLS 1.2
it offers is configured by name, and only the forward-secret authenticated
suites below have a name.  Names are compared letter by letter.

A configuration that names no suites gets a list of its own, which is not read
off the table of names; that each of its names is known is a theorem.
-/

/-- A suite that a listener can offer. -/
inductive CipherSuite where
  | aes128GcmSha256
  | aes256GcmSha384
  | chacha20Poly1305Sha256
  | ecdheRsaAes128GcmSha256
  | ecdheRsaAes256GcmSha384
  | ecdheRsaChacha20Poly1305
  | ecdheEcdsaAes128GcmSha256
  | ecdheEcdsaAes256GcmSha384
  | ecdheEcdsaChacha20Poly1305
deriving DecidableEq, Repr

namespace CipherSuite

/-- The versions of the protocol. -/
inductive Version where
  | tls12
  | tls13
deriving DecidableEq, Repr

def version : CipherSuite → Version
  | aes128GcmSha256 | aes256GcmSha384 | chacha20Poly1305Sha256 => .tls13
  | _ => .tls12

def registeredName : CipherSuite → String
  | aes128GcmSha256 => "TLS13_AES_128_GCM_SHA256"
  | aes256GcmSha384 => "TLS13_AES_256_GCM_SHA384"
  | chacha20Poly1305Sha256 => "TLS13_CHACHA20_POLY1305_SHA256"
  | ecdheRsaAes128GcmSha256 => "TLS_ECDHE_RSA_WITH_AES_128_GCM_SHA256"
  | ecdheRsaAes256GcmSha384 => "TLS_ECDHE_RSA_WITH_AES_256_GCM_SHA384"
  | ecdheRsaChacha20Poly1305 => "TLS_ECDHE_RSA_WITH_CHACHA20_POLY1305_SHA256"
  | ecdheEcdsaAes128GcmSha256 => "TLS_ECDHE_ECDSA_WITH_AES_128_GCM_SHA256"
  | ecdheEcdsaAes256GcmSha384 => "TLS_ECDHE_ECDSA_WITH_AES_256_GCM_SHA384"
  | ecdheEcdsaChacha20Poly1305 => "TLS_ECDHE_ECDSA_WITH_CHACHA20_POLY1305_SHA256"

/-- The suites of TLS 1.3, in the order of preference. -/
def always : List CipherSuite := [aes128GcmSha256, aes256GcmSha384, chacha20Poly1305Sha256]

/-- The suites of TLS 1.2 with the names that a configuration uses. -/
def named : List (String × CipherSuite) :=
  [("ECDHE-RSA-AES128-GCM-SHA256", ecdheRsaAes128GcmSha256),
    ("ECDHE-RSA-AES256-GCM-SHA384", ecdheRsaAes256GcmSha384),
    ("ECDHE-RSA-CHACHA20-POLY1305", ecdheRsaChacha20Poly1305),
    ("ECDHE-ECDSA-AES128-GCM-SHA256", ecdheEcdsaAes128GcmSha256),
    ("ECDHE-ECDSA-AES256-GCM-SHA384", ecdheEcdsaAes256GcmSha384),
    ("ECDHE-ECDSA-CHACHA20-POLY1305", ecdheEcdsaChacha20Poly1305)]

/-- The names in a configuration that does not say otherwise. -/
def names : List String :=
  ["ECDHE-RSA-AES128-GCM-SHA256", "ECDHE-RSA-AES256-GCM-SHA384", "ECDHE-RSA-CHACHA20-POLY1305",
    "ECDHE-ECDSA-AES128-GCM-SHA256", "ECDHE-ECDSA-AES256-GCM-SHA384",
    "ECDHE-ECDSA-CHACHA20-POLY1305"]

/-- The suite of TLS 1.2 that a name stands for. -/
def ofName? (name : String) : Option CipherSuite := named.lookup name

/-- The names that are listed by default are all that there are. -/
theorem names_eq_named : names = named.map Prod.fst := rfl

theorem isNone_ofName?_iff {name : String} : (ofName? name).isNone = true ↔ name ∉ names := by
  rw [ofName?, Option.isNone_iff_eq_none, List.lookup_eq_none_iff, names_eq_named, List.mem_map]
  constructor
  · rintro unlisted ⟨entry, member, rfl⟩
    exact absurd rfl (bne_iff_ne.mp (unlisted entry member))
  · intro unlisted entry member
    apply bne_iff_ne.mpr
    rintro rfl
    exact unlisted ⟨entry, member, rfl⟩

/-- Every name that is listed by default is known. -/
theorem isSome_ofName?_of_mem {name : String} (listed : name ∈ names) :
    (ofName? name).isSome = true := by
  refine Option.isSome_iff_ne_none.mpr fun missing => ?_
  exact isNone_ofName?_iff.mp (Option.isNone_iff_eq_none.mpr missing) listed

end CipherSuite
end ServiceBeacon
