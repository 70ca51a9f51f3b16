import ProvingGround.Text.Keyed

/-!
# Labels

Every object of a run carries the same three labels: the workload it belongs to, twice, and who
manages it. Selectors use the first of them alone.
-/

namespace ProvingGround

def appLabel : String := "app"

def nameLabel : String := "app.kubernetes.io/name"

/-- The label that says who manages an object. -/
def managerLabel : String := "app.kubernetes.io/managed-by"

/-- Who manages the objects of a run. -/
def managerName : String := "testnet-harness"

def poolLabel : String := "cloud.google.com/gke-nodepool"

/-- The labels of an object of a workload and of its pods. -/
def standardLabels (app : String) : Keyed String :=
  Keyed.ofList [(appLabel, app), (nameLabel, app), (managerLabel, managerName)]

def selectorLabels (app : String) : Keyed String := Keyed.ofList [(appLabel, app)]

def podSelector (app : String) : String := appLabel ++ "=" ++ app

end ProvingGround
