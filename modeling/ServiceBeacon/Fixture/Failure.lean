import ServiceBeacon.Config.File
import ServiceBeacon.Issuer
import ServiceBeacon.Tls

namespace ServiceBeacon
namespace Fixture

/-!
# Fatal failures

Whatever goes wrong before or while the fixture serves ends it, the registry
excepted.  A configuration that cannot be used has an exit status of its own.

The certificate is issued by a task apart.  That this task could break off
without a result is left out, since nothing in it does and nobody cancels it.
-/

/-- Why the fixture ends. -/
inductive Failure where
  | config (problem : Config.Problem)
  | certificate (error : Issuer.Error)
  | tls (problem : Tls.Problem)
  | bind (address cause : String)
  | serve (cause : String)
deriving DecidableEq, Repr

namespace Failure

def message : Failure → String
  | config problem => "configuration error: " ++ problem.message
  | certificate error =>
    "certificate issuance failed at stage " ++ error.stage.name ++ ": " ++ error.message
  | tls problem => "TLS setup failed: " ++ problem.message
  | bind address cause => "failed to bind " ++ address ++ ": " ++ cause
  | serve cause => "server error: " ++ cause

def exitCode : Failure → Nat
  | config _ => 2
  | _ => 1

end Failure
end Fixture
end ServiceBeacon
