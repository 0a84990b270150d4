import KubeManifest.Build.Project
import KubeManifest.Build.Settings
import KubeManifest.Model.Probe
import KubeManifest.Number.Integer
import KubeManifest.Text.Digit
import KubeManifest.Text.Words
import KubeManifest.Url.Basic

/-!
# Probes of containers

* `ProbeSettings.probe?` : the probe that is set: a request if there is an address, else a command, else a
  port;
* `Project.healthProbe?` : the request for the health of an application that offers one.
-/

namespace KubeManifest

namespace ProbeSettings

/-- A text as a value; the empty one stands for none. -/
def givenText (s : String) : Value :=
  if s == "" then .null else .ofString s

def request (s : String) : Except Failure HttpGet := do
  match Url.split? s with
  | none => throw (.misfit .badValue)
  | some url =>
    match url.port with
    | .error fault => throw (.badConfig none (.badProbeUrl s fault))
    | .ok port =>
      return {
        host := (url.host?.map Value.ofString).getD .null
        port := (port.map fun n => Value.ofInt n).getD .null
        path := givenText url.path
        scheme := givenText (String.ofList (url.scheme.toList.map Char.toUpper)) }

def exec (s : String) : Except Failure Exec :=
  match Text.shellWords? s with
  | some words => .ok { command := .ofList (words.map Value.ofString) }
  | none => .error (.misfit .badValue)

/-- The port of a text: a number if it consists of digits, else a name. -/
def socket (s : String) : Except Failure TcpSocket :=
  if s.toList.all Text.isDigit then
    match Number.readInteger s with
    | some n => .ok { port := .ofInt n }
    | none => .error (.misfit .badValue)
  else .ok { port := .ofString s }

def probe? (settings : ProbeSettings) : Except Failure (Option Probe) := do
  let base : Probe :=
    { initialDelaySeconds := settings.initialDelaySeconds, timeoutSeconds := settings.timeoutSeconds }
  if settings.url.isTruthy then
    match settings.url.text? with
    | some s => return some { base with httpGet := some (← request s) }
    | none => throw (.misfit (if settings.url.isScalar then .noSuchPart else .wrongKind))
  else if settings.command.isTruthy then
    match settings.command.text? with
    | some s => return some { base with exec := some (← exec s) }
    | none => throw (.misfit .noSuchPart)
  else
    match settings.tcpPort with
    | some s => if s == "" then return none else return some { base with tcpSocket := some (← socket s) }
    | none => return none

end ProbeSettings

def Probe.ofSettings? : Option ProbeSettings → Except Failure (Option Probe)
  | some settings => settings.probe?
  | none => .ok none

namespace Project

/-- The class of applications that tell their health. -/
def healthIndicator : String := "org.springframework.boot.actuate.health.HealthIndicator"

/-- The port that is asked when no property says otherwise. -/
def defaultPort : Int := 8080

/-- The properties of a project, those of the application counting before the others. -/
def property? (p : Project) (name : String) : Option String :=
  ((Fields.find? p.applicationProperties name).or (Fields.find? p.properties name)).bind Value.text?

/-- The number that a property gives, or else another one. -/
def numberOr (p : Project) (name : String) (other : Int) : Int :=
  ((p.property? name).bind Number.readInteger).getD other

def healthPort (p : Project) : Int :=
  p.numberOr "management.port" (p.numberOr "server.port" defaultPort)

/-- The request for the health of the application, if it tells it. -/
def healthProbe? (p : Project) (delay : Int) : Option Probe :=
  if p.hasClass healthIndicator then
    some {
      httpGet := some { port := .ofInt p.healthPort, path := .ofString "/health" }
      initialDelaySeconds := .ofInt delay }
  else none

/-- The seconds before a container is first asked whether it is ready. -/
def readinessDelay : Int := 10

/-- The seconds before a container is first asked whether it is alive, in which it can start. -/
def livenessDelay : Int := 180

def readinessProbe? (p : Project) : Option Probe :=
  p.healthProbe? readinessDelay

def livenessProbe? (p : Project) : Option Probe :=
  p.healthProbe? livenessDelay

end Project

end KubeManifest
