import KubeManifest.Model.Entries
import KubeManifest.Value.Same

/-!
# Probes

* `HttpGet`, `Exec`, `TcpSocket` : the ways to look whether a container is well;
* `Probe` : one of them, with its delays and thresholds.

Every model has `read?`, which makes it from a value, `toValue`, which writes it, and `parts`, by
which models are compared.
-/

namespace KubeManifest

open Model

structure HttpGet where
  path : Value := .null
  port : Value := .null
  host : Value := .null
  scheme : Value := .null
  httpHeaders : Value := .null
  extra : Fields := []

namespace HttpGet

def names : List String := ["host", "httpHeaders", "path", "port", "scheme"]

def read? (v : Value) : Except Misfit (Option HttpGet) := do
  let some fs ← entriesOf? "HTTPGetAction" v | return none
  return some {
    path := field fs "path"
    port := field fs "port"
    host := field fs "host"
    scheme := field fs "scheme"
    httpHeaders := field fs "httpHeaders"
    extra := extraOf names fs }

def toValue (m : HttpGet) : Value :=
  .ofFields (compact [("host", m.host), ("httpHeaders", m.httpHeaders), ("path", m.path),
    ("port", m.port), ("scheme", m.scheme)] ++ m.extra)

def parts (m : HttpGet) : Value :=
  .ofList [m.path, m.port, m.host, m.scheme, m.httpHeaders, .ofFields m.extra]

end HttpGet

structure Exec where
  command : Value := .null
  extra : Fields := []

namespace Exec

def read? (v : Value) : Except Misfit (Option Exec) := do
  let some fs ← entriesOf? "ExecAction" v | return none
  return some { command := field fs "command", extra := extraOf ["command"] fs }

def toValue (m : Exec) : Value :=
  .ofFields (compact [("command", m.command)] ++ m.extra)

def parts (m : Exec) : Value :=
  .ofList [m.command, .ofFields m.extra]

end Exec

structure TcpSocket where
  port : Value := .null
  host : Value := .null
  extra : Fields := []

namespace TcpSocket

def read? (v : Value) : Except Misfit (Option TcpSocket) := do
  let some fs ← entriesOf? "TCPSocketAction" v | return none
  return some {
    port := field fs "port"
    host := field fs "host"
    extra := extraOf ["host", "port"] fs }

def toValue (m : TcpSocket) : Value :=
  .ofFields (compact [("host", m.host), ("port", m.port)] ++ m.extra)

def parts (m : TcpSocket) : Value :=
  .ofList [m.port, m.host, .ofFields m.extra]

end TcpSocket

/-- A way to look whether a container is well. -/
structure Probe where
  httpGet : Option HttpGet := none
  exec : Option Exec := none
  tcpSocket : Option TcpSocket := none
  initialDelaySeconds : Value := .null
  timeoutSeconds : Value := .null
  periodSeconds : Value := .null
  successThreshold : Value := .null
  failureThreshold : Value := .null
  extra : Fields := []

namespace Probe

def names : List String :=
  ["exec", "failureThreshold", "httpGet", "initialDelaySeconds", "periodSeconds", "successThreshold",
    "tcpSocket", "timeoutSeconds"]

def read? (v : Value) : Except Misfit (Option Probe) := do
  let some fs ← entriesOf? "Probe" v | return none
  let exec ← Exec.read? (Fields.get fs "exec")
  let httpGet ← HttpGet.read? (Fields.get fs "httpGet")
  let tcpSocket ← TcpSocket.read? (Fields.get fs "tcpSocket")
  return some {
    httpGet, exec, tcpSocket
    initialDelaySeconds := field fs "initialDelaySeconds"
    timeoutSeconds := field fs "timeoutSeconds"
    periodSeconds := field fs "periodSeconds"
    successThreshold := field fs "successThreshold"
    failureThreshold := field fs "failureThreshold"
    extra := extraOf names fs }

def toValue (m : Probe) : Value :=
  .ofFields (compact [
    ("exec", optional Exec.toValue m.exec),
    ("failureThreshold", m.failureThreshold),
    ("httpGet", optional HttpGet.toValue m.httpGet),
    ("initialDelaySeconds", m.initialDelaySeconds),
    ("periodSeconds", m.periodSeconds),
    ("successThreshold", m.successThreshold),
    ("tcpSocket", optional TcpSocket.toValue m.tcpSocket),
    ("timeoutSeconds", m.timeoutSeconds)] ++ m.extra)

def parts (m : Probe) : Value :=
  .ofList [optional HttpGet.parts m.httpGet, optional Exec.parts m.exec,
    optional TcpSocket.parts m.tcpSocket, m.initialDelaySeconds, m.timeoutSeconds, m.periodSeconds,
    m.successThreshold, m.failureThreshold, .ofFields m.extra]

end Probe

end KubeManifest
