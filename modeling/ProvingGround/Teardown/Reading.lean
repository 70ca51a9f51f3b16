import ProvingGround.Json.Decoding
import ProvingGround.Teardown.Task

/-!
# Reading teardown tasks

Whoever takes a task from its queue reads it back. A task that carries the date of log indices
carries a dump; then all fields of the dump have to be there.
-/

namespace ProvingGround

def QueueAddress.ofJson (j : Json) : Json.Decoded QueueAddress := do
  pure ⟨← j.textAt "project_id", ← j.textAt "queue_name", ← j.textAt "queue_zone"⟩

def DumpRequest.ofJson (j : Json) : Json.Decoded DumpRequest := do
  pure ⟨← j.textAt "index_date", ← j.textAt "es_ip", ← j.textAt "es_user", ← j.textAt "es_pass",
    ← j.textAt "main_es_ip", ← j.textAt "dump_queue_name", ← j.textAt "dump_queue_zone"⟩

def TeardownTask.ofJson (j : Json) : Json.Decoded TeardownTask := do
  let dump ← match j.member? "index_date" with
    | none => pure none
    | some _ => some <$> DumpRequest.ofJson j
  pure ⟨← j.textAt "namespace", j.flagAt "is_delns", j.flagAt "is_dump", ← j.textAt "project_id",
    ← j.textAt "pool_name", ← j.textAt "cluster_name", ← j.textAt "node_pool_zone", dump⟩

theorem QueueAddress.ofJson_toJson (q : QueueAddress) : QueueAddress.ofJson q.toJson = .ok q := rfl

theorem TeardownTask.ofJson_toJson (t : TeardownTask) : TeardownTask.ofJson t.toJson = .ok t := by
  obtain ⟨ns, deletes, dumps, project, pool, cluster, zone, dump⟩ := t
  cases dump <;> cases deletes <;> cases dumps <;> rfl

end ProvingGround
