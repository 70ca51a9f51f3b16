import ProvingGround.Http.Exchange
import ProvingGround.Manifest.Node

/-!
# The timing API

The timing service runs inside a pod and is reached through the cluster. Its answer is handed on
whatever its status, so that the caller judges it.
-/

namespace ProvingGround.TimingApi

open Http

def startPath : String := "v1/start"

def start (ns : String) (pod : Pod) (body : String) : Errand String where
  request := .ok ⟨.post, .pod ns pod.name timingPort startPath, none, some body⟩
  lost := .http (.unreachable s!"pod {pod.name}/{startPath}")
  read response := .ok response.body

end ProvingGround.TimingApi
