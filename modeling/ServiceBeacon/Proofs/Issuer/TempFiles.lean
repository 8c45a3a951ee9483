import ServiceBeacon.Issuer.TempFiles
import ServiceBeacon.Proofs.History
import ServiceBeacon.Proofs.Storage

namespace ServiceBeacon

/-!
# What an issuance leaves behind

An issuance that succeeds leaves two files, and one that fails leaves none, at
whichever step it fails.  It also tells how far it came: an error names the stage
after the last one that was logged.  A certificate counts once it is there, whether
or not it gets into its file.
-/

/-! ## Stages and certificates in a history -/

/-- The stage that an event tells of, if it does. -/
def Issuer.Stage.logged? : Notice → Option Stage
  | .logged event =>
    (event.fields.lookup "stage").bind fun value => all.find? (·.name == value.text)
  | .counted _ => none

namespace History

/-- The last stage that was logged. -/
def lastStage (history : History) : Issuer.Stage :=
  (history.notices.filterMap Issuer.Stage.logged?).getLast?.getD .uninitialized

/-- The number of certificates that were counted. -/
def issuances (history : History) : Nat := history.count (.noticed (.counted Issuer.issuedCounter))

theorem issuances_append (first second : History) :
    History.issuances (first ++ second) = first.issuances + second.issuances := List.count_append

theorem issuances_ofChanges (changes : List FileChange) : (ofChanges changes).issuances = 0 := by
  refine List.count_eq_zero.mpr fun member => ?_
  rcases List.mem_map.mp member with ⟨change, _, same⟩
  cases same

end History

namespace Issuer

/-! ## Files -/

/-- Whether both files of a disk are new in a directory, each at the time of its creation. -/
structure Disk.IsFresh (disk : Disk) (directory : Directory) : Prop where
  certificate : directory.Avoids disk.certificatePath
  key : directory.Avoids disk.keyPath
  apart : disk.certificatePath ≠ disk.keyPath

/-- The two files of a bundle. -/
def Disk.files (disk : Disk) (bundle : Bundle) : Directory :=
  [⟨disk.certificatePath, 0o600, bundle.certificateText⟩, ⟨disk.keyPath, 0o600, bundle.keyText⟩]

/-- A bundle in the files of a disk. -/
def Disk.persisted (disk : Disk) (bundle : Bundle) : Persisted :=
  ⟨bundle, disk.certificatePath, disk.keyPath⟩

section Files

variable {disk : Disk} {directory : Directory}

theorem Disk.IsFresh.key_behind (fresh : disk.IsFresh directory) (bundle : Bundle) :
    Directory.Avoids (directory ++ [⟨disk.certificatePath, 0o600, bundle.certificateText⟩])
      disk.keyPath :=
  Directory.avoids_append.mpr ⟨fresh.key, Directory.avoids_singleton.mpr fresh.apart⟩

/-- Writing a bundle leaves both files or none. -/
theorem after_persist (fresh : disk.IsFresh directory) (bundle : Bundle) :
    directory.after (persist disk bundle).2.changes =
      match (persist disk bundle).1 with
      | .ok _ => directory ++ disk.files bundle
      | .error _ => directory := by
  have certificate := Directory.after_writeFile fresh.certificate bundle.certificateText
    disk.certificateWriting
  have key := Directory.after_writeFile (fresh.key_behind bundle) bundle.keyText disk.keyWriting
  unfold persist
  split <;> rename_i first writing <;> rw [writing] at certificate <;> dsimp only at certificate
  · rw [History.changes_ofChanges]
    exact certificate
  · split <;> rename_i second writingKey <;> rw [writingKey] at key <;> dsimp only at key
    · -- The key is not there, and then the certificate is removed.
      have removed := Directory.change_removed fresh.certificate (List.forall_mem_nil _) 0o600
        bundle.certificateText
      rw [List.append_nil] at removed
      rw [History.changes_ofChanges, Directory.after_append, Directory.after_append, certificate,
        key]
      exact removed
    · rw [History.changes_append, History.changes_ofChanges, Directory.after_append,
        Directory.after_append, certificate, key, List.append_assoc]
      rfl

theorem persist_eq_ok {bundle : Bundle} {persisted : Persisted} {history : History}
    (done : persist disk bundle = (.ok persisted, history)) : persisted = disk.persisted bundle := by
  unfold persist at done
  split at done
  · cases done
  · split at done <;> cases done
    rfl

/-- Letting go of a bundle removes its files. -/
theorem after_release (fresh : disk.IsFresh directory) (bundle : Bundle) :
    Directory.after (directory ++ disk.files bundle)
      (disk.persisted bundle).release.changes = directory := by
  have apart : Directory.Avoids [⟨disk.keyPath, 0o600, bundle.keyText⟩] disk.certificatePath :=
    Directory.avoids_singleton.mpr fresh.apart.symm
  have first := Directory.change_removed fresh.certificate apart 0o600 bundle.certificateText
  have second := Directory.change_removed fresh.key (List.forall_mem_nil _) 0o600 bundle.keyText
  rw [List.append_nil] at second
  rw [Persisted.release, History.changes_ofChanges, Directory.after_cons, Directory.after_cons,
    Directory.after_nil]
  exact (congrArg (Directory.change · _) first).trans second

/-- The files of a bundle are found with their texts. -/
theorem content?_files (fresh : disk.IsFresh directory) (bundle : Bundle) :
    Directory.content? (directory ++ disk.files bundle) disk.certificatePath =
        some bundle.certificateText ∧
      Directory.content? (directory ++ disk.files bundle) disk.keyPath = some bundle.keyText := by
  constructor
  · exact Directory.content?_append fresh.certificate 0o600 bundle.certificateText
  · have found := @Directory.content?_append _ _ [] (fresh.key_behind bundle) 0o600 bundle.keyText
    rw [List.append_assoc] at found
    exact found

end Files

/-! ## Issuing -/

section Issuing

variable {keyBits : UInt64} {commonName : String} {extras : List String} {draw : Draw} {disk : Disk}

/-- What an issuance logs and counts: how far it came, and its certificate if there is one. -/
theorem issue_cases (keyBits : UInt64) (commonName : String) (extras : List String) (draw : Draw) :
    (∃ bundle, issue keyBits commonName extras draw =
      (.ok bundle, [startEvent commonName keyBits, generatedEvent, signedEvent, encodedEvent,
        .counted issuedCounter])) ∨
    (∃ fault, issue keyBits commonName extras draw =
      (.error (.keyGeneration fault), [startEvent commonName keyBits])) ∨
    ∃ fault, issue keyBits commonName extras draw =
      (.error (.signing fault), [startEvent commonName keyBits, generatedEvent]) := by
  unfold issue
  dsimp only
  split
  · exact .inr (.inl ⟨_, rfl⟩)
  split
  · exact .inr (.inr ⟨_, rfl⟩)
  split
  · exact .inr (.inr ⟨_, rfl⟩)
  · exact .inl ⟨_, rfl⟩

/-- Writing a bundle fails behind the last stage but one. -/
theorem stage_of_persist {bundle : Bundle} {error : Error} {history : History}
    (failed : persist disk bundle = (.error error, history)) :
    error.stage = .persisted ∧ history.notices = [] := by
  have unnoticed : ∀ changes, (History.ofChanges changes).notices = [] :=
    History.notices_map_eq_nil fun _ => rfl
  unfold persist at failed
  split at failed
  · cases failed
    exact ⟨rfl, unnoticed _⟩
  · split at failed <;> cases failed
    exact ⟨rfl, unnoticed _⟩

/-- An issuance that fails names the stage after the last one that it logged. -/
theorem stage_of_issueToFiles {error : Error} {history : History}
    (failed : issueToFiles keyBits commonName extras draw disk = (.error error, history)) :
    ∃ front back, Stage.all = front ++ history.lastStage :: error.stage :: back := by
  unfold issueToFiles at failed
  rcases issue_cases keyBits commonName extras draw with
    ⟨bundle, issued⟩ | ⟨fault, issued⟩ | ⟨fault, issued⟩ <;> rw [issued] at failed
  · rcases Prod.mk.inj failed with ⟨unwritten, rfl⟩
    have persisting := stage_of_persist (Prod.ext unwritten rfl)
    refine ⟨[.uninitialized, .keyGenerated, .certificateSigned], [], ?_⟩
    rw [persisting.1, History.lastStage, History.notices_append, persisting.2,
      History.notices_ofNotices]
    rfl
  · cases failed
    exact ⟨[], [.certificateSigned, .encoded, .persisted], rfl⟩
  · cases failed
    exact ⟨[.uninitialized], [.encoded, .persisted], rfl⟩

theorem issuances_persist (disk : Disk) (bundle : Bundle) :
    (persist disk bundle).2.issuances = 0 := by
  unfold persist
  split
  · exact History.issuances_ofChanges _
  · split
    · exact History.issuances_ofChanges _
    · rw [History.issuances_append, History.issuances_ofChanges, History.issuances,
        List.count_singleton]
      rfl

/-- A certificate counts if it was issued, whether or not it can be written. -/
theorem issuances_issueToFiles (keyBits : UInt64) (commonName : String) (extras : List String)
    (draw : Draw) (disk : Disk) :
    (issueToFiles keyBits commonName extras draw disk).2.issuances =
      if (issue keyBits commonName extras draw).1.isOk then 1 else 0 := by
  unfold issueToFiles
  rcases issue_cases keyBits commonName extras draw with
    ⟨bundle, issued⟩ | ⟨fault, issued⟩ | ⟨fault, issued⟩ <;> rw [issued]
  · rw [History.issuances_append, issuances_persist]
    rfl
  · rfl
  · rfl

/-- An issuance that fails leaves nothing. -/
theorem after_failure {directory : Directory} (fresh : disk.IsFresh directory) {error : Error}
    {history : History}
    (failed : issueToFiles keyBits commonName extras draw disk = (.error error, history)) :
    directory.after history.changes = directory := by
  unfold issueToFiles at failed
  split at failed
  · cases failed
    rw [History.changes_ofNotices]
    rfl
  · rename_i bundle notices _
    rcases Prod.mk.inj failed with ⟨unwritten, rfl⟩
    have written := after_persist fresh bundle
    rw [unwritten] at written
    rw [History.changes_append, History.changes_ofNotices, List.nil_append]
    exact written

/-- An issuance that succeeds leaves the two files of what it issued. -/
theorem after_success {directory : Directory} (fresh : disk.IsFresh directory)
    {persisted : Persisted} {history : History}
    (done : issueToFiles keyBits commonName extras draw disk = (.ok persisted, history)) :
    ∃ bundle, (issue keyBits commonName extras draw).1 = .ok bundle ∧
      persisted = disk.persisted bundle ∧
      directory.after history.changes = directory ++ disk.files bundle := by
  unfold issueToFiles at done
  split at done
  · cases done
  · rename_i bundle notices issuing
    rcases Prod.mk.inj done with ⟨whole, rfl⟩
    have written := after_persist fresh bundle
    rw [whole] at written
    refine ⟨bundle, congrArg Prod.fst issuing, persist_eq_ok (Prod.ext whole rfl), ?_⟩
    rw [History.changes_append, History.changes_ofNotices, List.nil_append]
    exact written

end Issuing

end Issuer
end ServiceBeacon
