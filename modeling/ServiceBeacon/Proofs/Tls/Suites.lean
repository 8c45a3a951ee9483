import ServiceBeacon.Tls

namespace ServiceBeacon
namespace Tls

/-!
# The suites of a listener

A listener offers the suites of TLS 1.3 and, in the order of the list, those
that a list of names stands for.  The first name that stands for none is
reported, but only when both files could be read; so with files that can be
read, that report depends on nothing but the names.
-/

/-- Whether a name is that of no suite. -/
def isUnknown (name : String) : Bool := (CipherSuite.ofName? name).isNone

/-- The first unknown name is reported; without one, every name is a suite. -/
theorem suitesOf_eq (names : List String) :
    suitesOf names =
      match names.find? isUnknown with
      | some name => .error (.unknownSuite name)
      | none => .ok (names.filterMap CipherSuite.ofName?) := by
  induction names with
  | nil => rfl
  | cons name rest inductionHypothesis =>
    unfold suitesOf
    cases known : CipherSuite.ofName? name with
    | none =>
      have unknown : isUnknown name = true := by rw [isUnknown, known]; rfl
      rw [List.find?_cons_of_pos unknown]
    | some suite =>
      have knownName : ¬ isUnknown name = true := by
        rw [isUnknown, known]
        exact Bool.false_ne_true
      rw [inductionHypothesis, List.find?_cons_of_neg knownName,
        List.filterMap_cons_some known]
      cases rest.find? isUnknown <;> rfl

/-- Every suite that has a name belongs to TLS 1.2. -/
theorem version_of_ofName? {name : String} {suite : CipherSuite}
    (found : CipherSuite.ofName? name = some suite) : suite.version = .tls12 := by
  have listed : ∀ entry ∈ CipherSuite.named, entry.2.version = .tls12 := by decide
  have member : ∃ entry ∈ CipherSuite.named, entry.2 = suite := by
    unfold CipherSuite.ofName? at found
    rw [List.lookup_eq_some_iff] at found
    rcases found with ⟨before, after, split, _⟩
    exact ⟨(name, suite), split ▸ List.mem_append_right _ List.mem_cons_self, rfl⟩
  rcases member with ⟨entry, member, rfl⟩
  exact listed entry member

theorem certificates_ne_unknownSuite (file : File) (name : String) :
    certificates file ≠ .error (.unknownSuite name) := by
  unfold certificates
  split
  · exact fun same => by cases same
  · split <;> exact fun same => by cases same

theorem privateKey_ne_unknownSuite (file : File) (name : String) :
    privateKey file ≠ .error (.unknownSuite name) := by
  unfold privateKey
  split
  · exact fun same => by cases same
  · split <;> exact fun same => by cases same

namespace Listener

variable {certificate key : File} {names : List String}

theorem ofFiles_of_certificates {problem : Problem}
    (failed : certificates certificate = .error problem) :
    ofFiles certificate key names = .error problem := by
  unfold ofFiles
  rw [failed]
  rfl

theorem ofFiles_of_privateKey {chain : List (List UInt8)} {problem : Problem}
    (certified : certificates certificate = .ok chain) (failed : privateKey key = .error problem) :
    ofFiles certificate key names = .error problem := by
  unfold ofFiles
  rw [certified, failed]
  rfl

/-- With files that can be read, the names are looked up next. -/
theorem ofFiles_eq {chain : List (List UInt8)} {secret : Pem.Section}
    (certified : certificates certificate = .ok chain) (keyed : privateKey key = .ok secret) :
    ofFiles certificate key names =
      match names.find? isUnknown with
      | some name => .error (.unknownSuite name)
      | none =>
        match matchKey chain secret with
        | .error refusal => .error (.refused refusal)
        | .ok _ =>
          .ok ⟨CipherSuite.always ++ names.filterMap CipherSuite.ofName?, ["h2", "http/1.1"]⟩ := by
  unfold ofFiles
  rw [certified, keyed, suitesOf_eq]
  cases names.find? isUnknown <;> rfl

/-- A file that cannot be read is reported instead of an unknown name, so an
unknown name is reported only if it is the first one. -/
theorem find?_of_unknownSuite {name : String}
    (failed : ofFiles certificate key names = .error (.unknownSuite name)) :
    names.find? isUnknown = some name := by
  cases certified : certificates certificate with
  | error problem =>
    rw [ofFiles_of_certificates certified] at failed
    cases failed
    exact absurd certified (certificates_ne_unknownSuite certificate name)
  | ok chain =>
    cases keyed : privateKey key with
    | error problem =>
      rw [ofFiles_of_privateKey certified keyed] at failed
      cases failed
      exact absurd keyed (privateKey_ne_unknownSuite key name)
    | ok secret =>
      rw [ofFiles_eq certified keyed] at failed
      cases found : names.find? isUnknown with
      | some other =>
        rw [found] at failed
        cases failed
        rfl
      | none =>
        rw [found] at failed
        dsimp only at failed
        split at failed <;> cases failed

/-- With files that can be read, an unknown name is reported exactly if it is
the first one. -/
theorem unknownSuite_iff {chain : List (List UInt8)} {secret : Pem.Section} {name : String}
    (certified : certificates certificate = .ok chain) (keyed : privateKey key = .ok secret) :
    ofFiles certificate key names = .error (.unknownSuite name) ↔
      names.find? isUnknown = some name := by
  refine ⟨find?_of_unknownSuite, fun found => ?_⟩
  rw [ofFiles_eq certified keyed, found]

/-- A listener offers the suites of TLS 1.3 and those that are named. -/
theorem suites_of_ofFiles {listener : Listener}
    (made : ofFiles certificate key names = .ok listener) :
    listener.suites = CipherSuite.always ++ names.filterMap CipherSuite.ofName? := by
  cases certified : certificates certificate with
  | error problem =>
    rw [ofFiles_of_certificates certified] at made
    cases made
  | ok chain =>
    cases keyed : privateKey key with
    | error problem =>
      rw [ofFiles_of_privateKey certified keyed] at made
      cases made
    | ok secret =>
      rw [ofFiles_eq certified keyed] at made
      split at made
      · cases made
      · split at made <;> cases made
        rfl

end Listener
end Tls
end ServiceBeacon
