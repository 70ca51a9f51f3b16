import ProvingGround.Api.Queue
import ProvingGround.Proofs.JsonReading
import ProvingGround.Teardown.Reading

/-!
# What a queue delivers

A task is written three times over: its fields as JSON, that text in bytes as Base64, and the whole
request as JSON again. Read back in turn, it is the task that was handed over, with the fields of a
dump beside its own just when the run did not succeed.
-/

namespace ProvingGround

/-! ### Texts in Base64 -/

namespace Base64

/-- The text whose bytes the digits stand for. -/
def toText? (s : String) : Option String := do
  let bytes ← decode s.toList
  String.fromUTF8? bytes.toByteArray

theorem toList_loop (bytes : ByteArray) (i : Nat) (acc : List UInt8) :
    ByteArray.toList.loop bytes i acc = acc.reverse ++ bytes.data.toList.drop i := by
  fun_induction ByteArray.toList.loop bytes i acc with
  | case1 i acc more ih =>
    have inside : i < bytes.data.toList.length := more
    have byte : bytes.get! i = bytes.data.toList[i] := getElem!_pos bytes.data i more
    rw [ih, List.drop_eq_getElem_cons inside, List.reverse_cons, List.append_assoc, byte]
    rfl
  | case2 i acc past =>
    rw [List.drop_eq_nil_of_le (Nat.le_of_not_lt past), List.append_nil]

theorem toByteArray_toList (bytes : ByteArray) : bytes.toList.toByteArray = bytes := by
  apply ByteArray.ext
  rw [← Array.toList_inj, List.toList_data_toByteArray]
  exact toList_loop bytes 0 []

theorem toText?_ofText (s : String) : toText? (ofText s) = some s := by
  unfold toText? ofText
  rw [String.toList_ofList, decode_encode]
  show String.fromUTF8? s.toUTF8.toList.toByteArray = some s
  rw [toByteArray_toList]
  exact dif_pos s.isValidUTF8

end Base64

/-! ### Reading a task back -/

namespace QueueApi

/-- The body of the request that the queue is asked to make. -/
def body? (handed : Json) : Option String := do
  let task ← handed.get? "task"
  let request ← task.get? "appEngineHttpRequest"
  let body ← request.get? "body"
  body.text?

/-- What the body says. -/
def received? (handed : Json) : Option Json := do
  let body ← body? handed
  let text ← Base64.toText? body
  Json.read? text

end QueueApi

open QueueApi

theorem TeardownTask.worded_toJson (t : TeardownTask) (depth : Nat) :
    Json.Worded (depth + 1) t.toJson := by
  unfold toJson
  cases t.dump <;> simp [DumpRequest.members]

theorem worded_taskBody (t : TeardownTask) (depth : Nat) : Json.Worded (depth + 4) (taskBody t) := by
  simp [taskBody]

theorem received?_taskBody (t : TeardownTask) : received? (taskBody t) = some t.toJson := by
  have text : Base64.toText? (encodedTask t) = some t.toJson.render := Base64.toText?_ofText _
  show (Base64.toText? (encodedTask t)).bind Json.read? = _
  rw [text]
  exact Json.read?_render (t.worded_toJson 126)

/-- No two tasks have the same body. -/
theorem body?_taskBody_injective {t t' : TeardownTask}
    (same : body? (taskBody t) = body? (taskBody t')) : t = t' := by
  have received : received? (taskBody t) = received? (taskBody t') := by
    unfold received?
    rw [same]
  rw [received?_taskBody, received?_taskBody, Option.some.injEq] at received
  have read := t.ofJson_toJson
  rw [received, t'.ofJson_toJson] at read
  exact (Except.ok.inj read).symm

/-- The members of the task for a run. -/
def reportedMembers (cloud : CloudSettings) (queues : QueueSettings) (store : StoreSettings)
    (address : String) (o : RunOutcome) : List (String × Json) :=
  [("namespace", .text o.ns), ("is_delns", .bool true), ("is_dump", .bool !o.success),
   ("project_id", .text cloud.project), ("pool_name", .text (poolName o.ns)),
   ("cluster_name", .text cloud.cluster), ("node_pool_zone", .text cloud.zone)] ++
  if o.success then []
  else
    [("index_date", .text o.indexDate), ("es_ip", .text address), ("es_user", .text store.user),
     ("es_pass", .text store.password), ("main_es_ip", .text store.mainAddress),
     ("dump_queue_name", .text queues.dump), ("dump_queue_zone", .text queues.dumpZone)]

theorem toJson_teardownTask (cloud : CloudSettings) (queues : QueueSettings) (store : StoreSettings)
    (address : String) (o : RunOutcome) :
    (teardownTask cloud queues store address o).toJson =
      .object (reportedMembers cloud queues store address o) := by
  unfold teardownTask dumpRequest? reportedMembers
  cases o.success <;> rfl

theorem nodup_reportedMembers (cloud : CloudSettings) (queues : QueueSettings)
    (store : StoreSettings) (address : String) (o : RunOutcome) :
    ((reportedMembers cloud queues store address o).map Prod.fst).Nodup := by
  unfold reportedMembers
  cases o.success <;> simp

/-- Whatever texts a run has to report, the body of what is handed over says the members of its task,
each once; it tells tasks apart, and after a success it says nothing of the log store. What is handed
over is read back itself from its written form. -/
theorem teardown_task_reads_back (cloud : CloudSettings) (queues : QueueSettings)
    (store : StoreSettings) (address : String) (o : RunOutcome) :
    let task := teardownTask cloud queues store address o
    received? (taskBody task) = some (.object (reportedMembers cloud queues store address o)) ∧
      ((reportedMembers cloud queues store address o).map Prod.fst).Nodup ∧
      Json.read? (taskBody task).render = some (taskBody task) ∧
      (∀ cloud' queues' store' address' o',
        body? (taskBody (teardownTask cloud' queues' store' address' o')) = body? (taskBody task) →
          teardownTask cloud' queues' store' address' o' = task) ∧
      (o.success = true → ∀ store' address',
        taskBody (teardownTask cloud queues store' address' o) = taskBody task) := by
  intro task
  refine ⟨?_, nodup_reportedMembers cloud queues store address o,
    Json.read?_render (worded_taskBody task 123), fun _ _ _ _ _ => body?_taskBody_injective, ?_⟩
  · rw [received?_taskBody, toJson_teardownTask]
  · intro succeeded store' address'
    have none : ∀ store address, dumpRequest? queues store address o = none :=
      fun store address => if_pos succeeded
    have same : teardownTask cloud queues store' address' o = task := by
      unfold task teardownTask
      rw [none, none]
    rw [same]

end ProvingGround
