/-
# Kubediag.Http.Handlers — the HTTP handlers that serve a list

Two handlers of the sources serve a list as JSON: `recovererChain.Handler` the recoverer
catalog on GET, and `podCollector.Handler` (`pkg/processors/pod_collector.go`) the pods of its
node on POST, after refusing every request with 422 while it is disabled. Both are
`listHandler` with their own method, noun and list. A response is its status code,
`Content-Type` and body, as `http.Error` and `w.Write` make them; the lists and `json.Marshal`
are oracles.

Of `corev1.Pod` only `Spec.NodeName` is read; the other fields travel to `json.Marshal`
untouched and are left out.

The handlers are straight-line code over their oracles, modelled as the sources have them.
-/
import Kubediag.RecovererChain.RunRecovery

namespace Kubediag.Http

open Kubediag.Api

set_option autoImplicit false

structure Response where
  status : Nat
  contentType : String
  body : String
deriving DecidableEq, Repr

def statusOK : Nat := 200
def statusMethodNotAllowed : Nat := 405
def statusUnprocessableEntity : Nat := 422
def statusInternalServerError : Nat := 500

/-- `http.Error`: a plain-text body, the message and a newline. -/
def httpError (error : String) (code : Nat) : Response :=
  ⟨code, "text/plain; charset=utf-8", error ++ "\n"⟩

/-- The body both handlers share: on the `allowed` method, list, marshal and answer with JSON;
any other method is refused. -/
def listHandler {α : Type} (allowed noun : String) (list : Except String (List α))
    (marshal : List α → Except String String) (method : String) : Response :=
  if method = allowed then
    match list with
    | .error err => httpError ("failed to list " ++ noun ++ ": " ++ err) statusInternalServerError
    | .ok items =>
        match marshal items with
        | .error err => httpError ("failed to marshal " ++ noun ++ ": " ++ err) statusInternalServerError
        | .ok data => ⟨statusOK, "application/json", data⟩
  else httpError ("method " ++ method ++ " is not supported") statusMethodNotAllowed

/-! ## The recoverer chain's catalog -/

/-- `recovererChain.Handler`: the catalog, as the cache lists it, on GET. -/
def recovererChainHandler (env : RecovererChain.Env) (marshal : List Recoverer → Except String String)
    (method : String) : Response :=
  listHandler "GET" "recoverers" env.list marshal method

/-! ## The pod collector -/

structure PodSpec where
  nodeName : String
deriving DecidableEq, Repr

structure Pod where
  name : String
  spec : PodSpec
deriving DecidableEq, Repr

/-- Modelled from the spec: `util.RetrievePodsOnNode`, as `TestRetrievePodsOnNode` pins it
down: the pods scheduled to the node, in list order. -/
def retrievePodsOnNode (pods : List Pod) (nodeName : String) : List Pod :=
  pods.filter (·.spec.nodeName = nodeName)

/-- The fields of `podCollector` the handler reads. -/
structure PodCollector where
  nodeName : String
  podCollectorEnabled : Bool

/-- What the pod collector consults outside itself: the cache's pod list and `json.Marshal`. -/
structure PodEnv where
  list : Except String (List Pod)
  marshal : List Pod → Except String String

/-- `podCollector.listPods`. -/
def listPods (env : PodEnv) (pc : PodCollector) : Except String (List Pod) :=
  match env.list with
  | .error err => .error err
  | .ok pods => .ok (retrievePodsOnNode pods pc.nodeName)

/-- `podCollector.Handler`: refused while disabled, then the pods of its node on POST. -/
def podCollectorHandler (env : PodEnv) (pc : PodCollector) (method : String) : Response :=
  if !pc.podCollectorEnabled then httpError "pod collector is not enabled" statusUnprocessableEntity
  else listHandler "POST" "pods" (listPods env pc) env.marshal method

end Kubediag.Http
