import ServiceBeacon.Proofs.Fixture.Uncertified
import ServiceBeacon.Proofs.Text.Decimal

namespace ServiceBeacon

/-!
# What the issuer is asked for

The issuer says at the start of every issuance for whom it issues and how large
the key will be.  In a run it is asked at most while the certificate is prepared
or the preparation is given up, and with nothing but what is configured.
Everything else that a run logs comes from other parts of the fixture.
-/

/-- Whether a happening is an event of the issuer. -/
def Happening.isFromIssuer : Happening → Bool
  | noticed (.logged event) => event.source == .issuer
  | noticed (.counted _) | shutdownRequested | changed _ | bound | sent _ | called _ _ |
    accepting | answered _ | stopped => false

namespace History

/-- Whether the issuer says nothing in a part. -/
abbrev Unissued : History → Prop := Lacks Happening.isFromIssuer

theorem unissued_ofChanges (changes : List FileChange) : Unissued (ofChanges changes) :=
  lacks_map fun _ _ => rfl

/-- What has nothing to do with the certificate does not come from the issuer. -/
theorem Uncertified.unissued {part : History} (uncertified : Uncertified part) : Unissued part := by
  refine uncertified.mono fun happening issued => ?_
  cases happening with
  | noticed notice =>
    cases notice with
    | logged event => exact issued
    | counted counter => cases issued
  | _ => cases issued

end History

namespace Issuer

theorem startEvent_injective {first second : String} {firstBits secondBits : UInt64}
    (same : startEvent first firstBits = startEvent second secondBits) :
    first = second ∧ firstBits = secondBits := by
  simp only [startEvent, report, Notice.logged.injEq, Event.mk.injEq, List.map_cons,
    List.cons.injEq, Prod.mk.injEq, FieldValue.shown.injEq, true_and, and_true, List.map_nil]
    at same
  have digits : Text.decimal firstBits.toNat = Text.decimal secondBits.toNat :=
    congrArg String.toList same.2
  have values := congrArg (Text.ofDigits 10) digits
  rw [Text.ofDigits_decimal, Text.ofDigits_decimal] at values
  exact ⟨same.1, UInt64.toNat_inj.mp values⟩

/-- An issuance starts once, with what was asked for. -/
theorem eq_of_startEvent_mem_issue {keyBits bits : UInt64} {commonName name : String}
    {extras : List String} {draw : Draw}
    (member : startEvent name bits ∈ (issue keyBits commonName extras draw).2) :
    name = commonName ∧ bits = keyBits := by
  have only : ∀ rest, (∀ notice ∈ rest, notice ≠ startEvent name bits) →
      startEvent name bits ∈ startEvent commonName keyBits :: rest →
        name = commonName ∧ bits = keyBits := by
    intro rest other listed
    rcases List.mem_cons.mp listed with same | later
    · exact startEvent_injective same
    · exact absurd rfl (other _ later)
  unfold issue at member
  dsimp only at member
  split at member
  · exact only _ (by simp) member
  · split at member
    · exact only _ (by simp [generatedEvent, stageEvent, startEvent, report]) member
    · split at member
      · exact only _ (by simp [generatedEvent, stageEvent, startEvent, report]) member
      · exact only _ (by simp [generatedEvent, signedEvent, encodedEvent, stageEvent, startEvent,
          report]) member

end Issuer

namespace Fixture

open History (Unissued)

variable {config : Config} {circumstances : Circumstances}

/-- Whether the issuer is asked for nothing but what a configuration says. -/
def AsksAsConfigured (config : Config) (part : History) : Prop :=
  ∀ name bits, .noticed (Issuer.startEvent name bits) ∈ part →
    config.tls.enabled = true ∧ name = config.service.containerName ∧ bits = config.tls.keyBits

namespace AsksAsConfigured

theorem of_unissued {part : History} (unissued : Unissued part) :
    AsksAsConfigured config part :=
  fun _ _ member => absurd member (unissued.notMem rfl)

theorem append {first second : History} (one : AsksAsConfigured config first)
    (two : AsksAsConfigured config second) : AsksAsConfigured config (first ++ second) := by
  intro name bits member
  rcases List.mem_append.mp member with early | late
  · exact one name bits early
  · exact two name bits late

end AsksAsConfigured

/-! ## Before the server -/

theorem unissued_requests (circumstances : Circumstances) (phase : Phase) :
    Unissued (requests circumstances phase) :=
  History.Uncertified.unissued (uncertified_requests circumstances phase)

theorem not_startEvent_mem_persist (disk : Issuer.Disk) (bundle : Issuer.Bundle) (name : String)
    (bits : UInt64) :
    .noticed (Issuer.startEvent name bits) ∉ (Issuer.persist disk bundle).2 := by
  have unchanged : ∀ changes,
      Happening.noticed (Issuer.startEvent name bits) ∉ History.ofChanges changes :=
    fun changes => (History.unissued_ofChanges changes).notMem rfl
  unfold Issuer.persist
  split
  · exact unchanged _
  · split
    · exact unchanged _
    · intro member
      rcases List.mem_append.mp member with change | event
      · exact unchanged _ change
      · simp [Issuer.startEvent, Issuer.persistedEvent, report] at event

theorem asksAsConfigured_issue (secure : config.tls.enabled = true)
    (circumstances : Circumstances) : AsksAsConfigured config (issue config circumstances).2 := by
  have issued : ∀ name bits notices,
      (Issuer.issue config.tls.keyBits config.service.containerName config.tls.extraSans
        circumstances.draw).2 = notices →
      Happening.noticed (Issuer.startEvent name bits) ∈ History.ofNotices notices →
        config.tls.enabled = true ∧ name = config.service.containerName ∧
          bits = config.tls.keyBits := by
    rintro name bits _ rfl member
    rcases List.mem_map.mp member with ⟨notice, listed, same⟩
    cases same
    exact ⟨secure, Issuer.eq_of_startEvent_mem_issue listed⟩
  intro name bits member
  unfold issue Issuer.issueToFiles at member
  split at member <;> rename_i issuing
  · exact issued name bits _ (congrArg Prod.snd issuing) member
  · rcases List.mem_append.mp member with started | written
    · exact issued name bits _ (congrArg Prod.snd issuing) started
    · exact absurd written (not_startEvent_mem_persist _ _ _ _)

theorem unissued_loadMaterial (config : Config) (circumstances : Circumstances)
    (persisted : Issuer.Persisted) :
    Unissued (loadMaterial config circumstances persisted).2 := by
  have loaded : ∀ certificate key names,
      Unissued (History.ofNotices (Tls.load certificate key names).2) := by
    intro certificate key names
    refine History.lacks_map fun notice listed => ?_
    unfold Tls.load at listed
    split at listed
    · rw [List.mem_singleton.mp listed]
      rfl
    · cases listed
  unfold loadMaterial
  dsimp only
  split <;> rename_i loading <;> have events := loading ▸ loaded _ _ _
  · exact History.lacks_append.mpr ⟨events, History.unissued_ofChanges _⟩
  · exact events

theorem asksAsConfigured_prepare (config : Config) (circumstances : Circumstances) :
    AsksAsConfigured config (prepare config circumstances).2 := by
  unfold prepare
  split
  · rename_i secure
    have issued := asksAsConfigured_issue secure circumstances
    split <;> rename_i issuing <;> rw [issuing] at issued
    · exact issued
    · rename_i persisted _
      have loaded := unissued_loadMaterial config circumstances persisted
      split <;> rename_i loading <;> rw [loading] at loaded <;>
        exact issued.append (.of_unissued loaded)
  · exact .of_unissued History.lacks_nil

theorem asksAsConfigured_abandon (secure : config.tls.enabled = true)
    (circumstances : Circumstances) :
    AsksAsConfigured config (abandon config circumstances) := by
  unfold abandon
  have issued := asksAsConfigured_issue secure circumstances
  split <;> rename_i issuing <;> rw [issuing] at issued
  · exact issued
  · exact issued.append (.of_unissued (History.unissued_ofChanges _))

theorem unissued_releaseMaterial (material : Option Material) :
    Unissued (releaseMaterial material) := by
  cases material with
  | none => exact History.lacks_nil
  | some material => exact History.unissued_ofChanges _

/-! ## The whole run -/

/-- Whatever happens in a run, the issuer is asked for what is configured, and
only if TLS is enabled. -/
theorem asksAsConfigured_run (config : Config) (circumstances : Circumstances) :
    AsksAsConfigured config (run config circumstances).history := by
  have course := course_run config circumstances
  generalize run config circumstances = outcome at course
  cases course with
  | stoppedAtOnce _ =>
    exact .of_unissued (History.lacks_cons.mpr
      ⟨rfl, History.lacks_singleton rfl⟩)
  | stoppedPreparing secure _ =>
    exact (AsksAsConfigured.of_unissued (History.lacks_cons.mpr
      ⟨rfl, History.lacks_singleton rfl⟩)).append
        (asksAsConfigured_abandon secure circumstances)
  | @unprepared failure history _ failed =>
    have prepared := asksAsConfigured_prepare config circumstances
    rw [failed] at prepared
    exact (AsksAsConfigured.of_unissued (unissued_requests _ _)).append prepared
  | @prepared material history outcome _ ready listening =>
    have prepared := asksAsConfigured_prepare config circumstances
    rw [ready] at prepared
    have front := ((AsksAsConfigured.of_unissued
      (unissued_requests circumstances .preparing)).append prepared).append
        (.of_unissued (unissued_requests circumstances .binding))
    have whole := front.append (.of_unissued (History.Uncertified.unissued listening.uncertified))
    unfold Outcome.followedBy
    split
    · exact whole
    · exact whole.append (.of_unissued (unissued_releaseMaterial material))

end Fixture
end ServiceBeacon
