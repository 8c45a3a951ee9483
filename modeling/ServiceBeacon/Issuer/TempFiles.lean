import ServiceBeacon.History
import ServiceBeacon.Issuer

namespace ServiceBeacon
namespace Issuer

/-!
# Certificates in temporary files

A listener reads its certificate and key from files.  They are written to the
temporary directory, certificate first, and live as long as what was issued is
held: letting go of it removes both, and failing at the second removes the
first.
-/

/-- The start of the name of a file. -/
def Part.fileStart : Part → String
  | certificate => "mesh-fixture-cert-"
  | privateKey => "mesh-fixture-key-"

def fileEnd : String := ".pem"

/-- The path of a file in a directory.  The middle of its name is drawn. -/
def Part.path (part : Part) (directory middle : String) : String :=
  directory ++ "/" ++ part.fileStart ++ middle ++ fileEnd

/-- Where the two files are put and how their writing goes. -/
structure Disk where
  certificatePath : String
  certificateWriting : Writing
  keyPath : String
  keyWriting : Writing
deriving DecidableEq, Repr

/-- A bundle whose texts are in files. -/
structure Persisted where
  bundle : Bundle
  certificatePath : String
  keyPath : String
deriving DecidableEq, Repr

/-- What letting go of the files does to them. -/
def Persisted.release (persisted : Persisted) : History :=
  History.ofChanges [.removed persisted.certificatePath, .removed persisted.keyPath]

def persistedEvent (persisted : Persisted) : Notice :=
  report .info .issuer "Certificate material written"
    [("stage", Stage.persisted.name), ("cert_path", persisted.certificatePath),
      ("key_path", persisted.keyPath), ("not_after", persisted.bundle.notAfter.text)]

/-- Writes a bundle to its two files. -/
def persist (disk : Disk) (bundle : Bundle) : Except Error Persisted × History :=
  match writeFile disk.certificatePath bundle.certificateText disk.certificateWriting with
  | (.error cause, changes) => (.error (.persistence .certificate cause), History.ofChanges changes)
  | (.ok _, first) =>
    match writeFile disk.keyPath bundle.keyText disk.keyWriting with
    | (.error cause, second) =>
      (.error (.persistence .privateKey cause),
        History.ofChanges (first ++ second ++ [.removed disk.certificatePath]))
    | (.ok _, second) =>
      let persisted : Persisted := ⟨bundle, disk.certificatePath, disk.keyPath⟩
      (.ok persisted, History.ofChanges (first ++ second) ++ [.noticed (persistedEvent persisted)])

/-- Issues a certificate and writes it to files. -/
def issueToFiles (keyBits : UInt64) (commonName : String) (extras : List String) (draw : Draw)
    (disk : Disk) : Except Error Persisted × History :=
  match issue keyBits commonName extras draw with
  | (.error error, notices) => (.error error, History.ofNotices notices)
  | (.ok bundle, notices) =>
    let persisted := persist disk bundle
    (persisted.1, History.ofNotices notices ++ persisted.2)

end Issuer
end ServiceBeacon
