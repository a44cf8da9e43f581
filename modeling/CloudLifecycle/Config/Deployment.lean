import CloudLifecycle.Backend.Builtin
import CloudLifecycle.Backend.Park
import CloudLifecycle.Config.Settings
import CloudLifecycle.Session

/-!
# Deployments

A configuration put to work: each backend that it names is simulated after its profile, and a gateway stands before
them. Until a request comes in, nothing is under guard and no backend has a resource.
-/

namespace CloudLifecycle

/-- A gateway and the backends behind it. -/
structure Deployment where
  gateway : Gateway
  park : Park

/-- Why a configuration could not be put to work. -/
inductive DeploymentError where
  | profile (id : String) (cause : UnknownProfile)
  | mount (error : MountError)
  | gateway (error : GatewayError)
  deriving DecidableEq, Repr

namespace DeploymentError

/-- Why a configuration could not be put to work, in words. -/
def message : DeploymentError → String
  | profile id _ => "バックエンド '" ++ id ++ "' の初期化に失敗しました"
  | mount error => error.message
  | gateway error => error.message

/-- What lies behind the error. -/
def cause? : DeploymentError → Option String
  | profile _ cause => some cause.message
  | mount error => some error.cause.message
  | gateway _ => none

end DeploymentError

/-- The profile of a backend, under the id and the name that the configuration gives it. -/
def BackendEntry.loadProfile (b : BackendEntry) : Except DeploymentError Profile :=
  match Profile.find b.profile with
  | .ok p =>
    let p := p.withId b.id
    .ok (match b.displayName with
      | some name => p.withDisplayName name
      | none => p)
  | .error cause => .error (.profile b.id cause)

namespace GatewayConfig

/-- How new resources are watched. An interval that is given goes before the one of the configuration. -/
def plan (c : GatewayConfig) (interval : Option Duration) : PollingPlan :=
  ⟨c.convergence.maxAttempts.toNat, interval.getD c.pollInterval⟩

/-- Puts a configuration to work. -/
def deploy (c : GatewayConfig) (interval : Option Duration) (seed : Nat) : Except DeploymentError Deployment := do
  let profiles ← c.backends.mapM BackendEntry.loadProfile
  let park ← (Park.mount profiles seed).mapError .mount
  let gateway ← (Gateway.assemble .standard park.normalizer true c.backendTimeout (c.plan interval)).mapError .gateway
  return ⟨gateway, park⟩

end GatewayConfig

/-- Why no backend is meant. -/
inductive BackendChoiceError where
  | noBackends
  | notConfigured (id : String)
  deriving DecidableEq, Repr

/-- Why no backend is meant, in words. -/
def BackendChoiceError.message : BackendChoiceError → String
  | noBackends => "バックエンドが設定されていません"
  | notConfigured id => "バックエンド '" ++ id ++ "' は設定されていません"

/-- The id of the backend that is meant: the one that is named, or else the default. -/
def GatewayConfig.chooseBackend (c : GatewayConfig) (named : Option String) : Except BackendChoiceError String :=
  match named <|> c.defaultBackendId? with
  | some id => if (c.backend? id).isSome then .ok id else .error (.notConfigured id)
  | none => .error .noBackends

namespace Deployment

/-- The backend of an id. -/
def backend? (d : Deployment) (id : String) : Option Backend := d.park.registry.get? id

/-- A session that begins with the deployment. -/
def session (d : Deployment) : Session Park Flight := .begin ⟨.empty, d.park⟩

end Deployment

end CloudLifecycle
