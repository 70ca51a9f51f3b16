import ProvingGround.Hint
import ProvingGround.Manifest.Basic
import ProvingGround.Settings

/-!
# The logging stack

An indexer, a collector on every machine and a dashboard. The collector ships the logs of all
containers to the indexer, one index a day. Objects are created in a fixed order; the three
workloads among them have to serve before the stack counts as ready.
-/

namespace ProvingGround

/-! ### Images and ports -/

def indexerImage : String := "docker.elastic.co/elasticsearch/elasticsearch:7.5.0"

def collectorImage : String := "fluent/fluent-bit:1.3"

def dashboardImage : String := "docker.elastic.co/kibana/kibana:7.5.0"

def indexerPort : Nat := 9200

def dashboardPort : Nat := 5601

def indexerHost (ns : String) : String := s!"{indexerName}.{ns}.svc.cluster.local"

/-! ### Configuration of the collector -/

/-- What the collector reads, adds and writes. -/
def collectorConfig (store : StoreSettings) : String :=
  "[SERVICE]\n" ++
  "    Flush        5\n" ++
  "    Log_Level    info\n" ++
  "    Parsers_File parsers.conf\n" ++
  "\n" ++
  "[INPUT]\n" ++
  "    Name             tail\n" ++
  "    Path             /var/log/containers/*.log\n" ++
  "    Parser           docker\n" ++
  "    Tag              kube.*\n" ++
  "    Mem_Buf_Limit    5MB\n" ++
  "    Skip_Long_Lines  On\n" ++
  "\n" ++
  "[FILTER]\n" ++
  "    Name   kubernetes\n" ++
  "    Match  kube.*\n" ++
  "    Merge_Log On\n" ++
  "\n" ++
  "[OUTPUT]\n" ++
  "    Name            es\n" ++
  "    Match           *\n" ++
  s!"    Host            {indexerName}\n" ++
  s!"    Port            {indexerPort}\n" ++
  s!"    HTTP_User       {store.user}\n" ++
  s!"    HTTP_Passwd     {store.password}\n" ++
  "    Logstash_Format On\n" ++
  "    Logstash_DateFormat %Y.%m.%d\n" ++
  "    Retry_Limit     False\n"

/-- How the collector reads a line. -/
def collectorParsers : String :=
  "[PARSER]\n" ++
  "    Name        docker\n" ++
  "    Format      json\n" ++
  "    Time_Key    time\n" ++
  "    Time_Format %Y-%m-%dT%H:%M:%S.%L\n" ++
  "    Time_Keep   On\n"

/-! ### Objects -/

/-- The service of the indexer; those who copy its indices reach it from outside. -/
def indexerService (ns : String) : Manifest := ⟨indexerName, ns, .service indexerPort⟩

def indexerSet (ns password : String) : Manifest where
  name := indexerName
  ns
  spec := .statefulSet 1
    { containers := [
        { name := indexerName
          image := indexerImage
          ports := [⟨"http", indexerPort⟩]
          environment :=
            [⟨"discovery.type", "single-node"⟩, ⟨"xpack.security.enabled", "true"⟩,
             ⟨"ELASTIC_PASSWORD", password⟩, ⟨"ES_JAVA_OPTS", "-Xms2g -Xmx2g"⟩]
          resources := some { requests := Keyed.ofList [("memory", "4Gi"), ("cpu", "1")] }
          probe := some ⟨.connect indexerPort, 20, 5⟩ }] }

def collectorMap (ns : String) (store : StoreSettings) : Manifest where
  name := collectorName
  ns
  spec := .configMap (Keyed.ofList
    [("fluent-bit.conf", collectorConfig store), ("parsers.conf", collectorParsers)])

/-- The collector, on every machine. -/
def collectorSet (ns : String) : Manifest where
  name := collectorName
  ns
  spec := .daemonSet
    { containers := [
        { name := collectorName
          image := collectorImage
          mounts :=
            [⟨"varlog", "/var/log", true⟩, ⟨"containers", "/var/lib/docker/containers", true⟩,
             ⟨"config", "/fluent-bit/etc/", false⟩] }]
      toleratesAll := true
      volumes :=
        [⟨"varlog", .hostPath "/var/log"⟩,
         ⟨"containers", .hostPath "/var/lib/docker/containers"⟩,
         ⟨"config", .configMap collectorName⟩] }

def dashboardService (ns : String) : Manifest := ⟨dashboardName, ns, .service dashboardPort⟩

def dashboardDeployment (ns : String) (store : StoreSettings) : Manifest where
  name := dashboardName
  ns
  spec := .deployment 1
    { containers := [
        { name := dashboardName
          image := dashboardImage
          ports := [⟨"http", dashboardPort⟩]
          environment :=
            [⟨"ELASTICSEARCH_HOSTS", s!"http://{indexerName}:{indexerPort}"⟩,
             ⟨"ELASTICSEARCH_USERNAME", store.user⟩, ⟨"ELASTICSEARCH_PASSWORD", store.password⟩]
          probe := some ⟨.page "/api/status" dashboardPort, 10, 5⟩ }] }

/-! ### The stack -/

/-- Every object of the stack, in the order of creation. -/
def loggingStack (ns : String) (store : StoreSettings) : List Manifest :=
  [indexerService ns, indexerSet ns store.password, collectorMap ns store, collectorSet ns,
   dashboardService ns, dashboardDeployment ns store]

def collectorWorkload : Workload := ⟨.daemonSet, collectorName⟩

/-- The workloads that have to serve. -/
def loggingWorkloads : List Workload :=
  [⟨.statefulSet, indexerName⟩, collectorWorkload, ⟨.deployment, dashboardName⟩]

/-- Each workload is one of the objects of the stack. -/
theorem loggingWorkloads_subset (ns : String) (store : StoreSettings) :
    loggingWorkloads ⊆ (loggingStack ns store).map Manifest.workload := by
  intro w h
  simp only [loggingWorkloads, List.mem_cons, List.not_mem_nil, or_false] at h
  rcases h with rfl | rfl | rfl <;>
    simp [loggingStack, Manifest.workload, Manifest.kind, ObjectSpec.kind, indexerService,
      indexerSet, collectorMap, collectorSet, dashboardService, dashboardDeployment,
      collectorWorkload]

end ProvingGround
