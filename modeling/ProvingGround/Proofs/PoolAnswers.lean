import ProvingGround.Api.Pools
import ProvingGround.Proofs.Json.Records
import ProvingGround.Proofs.Trace.Checks

/-!
# What an answer tells of a pool

A look at a pool is answered with a status code and a body. The code alone settles most answers. The
body of an answer that grants the look tells the status of the pool, or nothing when it is not of the
form that is expected; what it has besides is of no account as long as it follows the grammar.
-/

namespace ProvingGround

open Http Text

/-! ### Status codes -/

section CheckGranted

variable {what url : String} {r : Http.Response}

theorem checkGranted_granted (h : 200 ≤ r.status ∧ r.status < 300) :
    checkGranted what url r = .ok r := by
  have success : r.isSuccess = true := by
    unfold Http.Response.isSuccess
    rw [Bool.and_eq_true, decide_eq_true_eq, decide_eq_true_eq]
    exact h
  unfold checkGranted
  rw [if_pos success]

theorem not_isSuccess (h : ¬ (200 ≤ r.status ∧ r.status < 300)) : ¬ r.isSuccess = true := by
  unfold Http.Response.isSuccess
  rw [Bool.and_eq_true, decide_eq_true_eq, decide_eq_true_eq]
  exact h

theorem isTransient_iff : r.isTransient = true ↔
    r.status = 429 ∨ 500 ≤ r.status ∧ r.status < 600 := by
  unfold Http.Response.isTransient
  rw [Bool.or_eq_true, Bool.and_eq_true, decide_eq_true_eq, decide_eq_true_eq, beq_iff_eq, or_comm]

theorem checkGranted_transient (h : r.status = 429 ∨ 500 ≤ r.status ∧ r.status < 600) :
    checkGranted what url r = .error (.http (.status r.status url)) := by
  unfold checkGranted
  rw [if_neg (not_isSuccess (by omega)), if_pos (isTransient_iff.2 h)]

theorem checkGranted_refused (granted : ¬ (200 ≤ r.status ∧ r.status < 300))
    (transient : ¬ (r.status = 429 ∨ 500 ≤ r.status ∧ r.status < 600)) :
    checkGranted what url r =
      .error (.cloud s!"{what} returned {statusText r.status}: {trim r.body}") := by
  unfold checkGranted
  rw [if_neg (not_isSuccess granted), if_neg (mt isTransient_iff.1 transient)]

end CheckGranted

namespace PoolApi

/-! ### Bodies -/

/-- What a body tells of a pool: the texts of two members of an object, or the items of a list of at
most two texts. What is left out is empty. -/
inductive Tells (body : String) : Resource → Prop where
  | object {ms status message} (object : Json.IsObject body.toList ms)
    (status_ : Json.HasText ms "status" status)
    (message_ : Json.HasText ms "statusMessage" message) : Tells body ⟨status, message⟩
  | nothing (list : Json.IsTexts body.toList []) : Tells body ⟨"", ""⟩
  | status {status} (list : Json.IsTexts body.toList [status]) : Tells body ⟨status, ""⟩
  | both {status message} (list : Json.IsTexts body.toList [status, message]) :
    Tells body ⟨status, message⟩

theorem Resource.read?_eq_some_iff {body : String} {p : Resource} :
    Resource.read? body = some p ↔ Tells body p := by
  unfold Resource.read?
  rw [Option.bind_eq_bind, Option.bind_eq_some_iff]
  simp only [Json.readRecord?_eq_some_iff, Option.some.injEq]
  constructor
  · rintro ⟨fields, ⟨ms, object, taken, once⟩ | ⟨texts, list, few, rfl⟩, rfl⟩
    · have told : ∀ key ∈ ["status", "statusMessage"],
          Json.HasText ms key ((fields.lookup key).getD "") := fun key known =>
        (Json.hasText_known known).1 (Json.hasText_of_forall₂ taken once key)
      exact .object object (told _ (by decide)) (told _ (by decide))
    · match texts, few with
      | [], _ => exact .nothing list
      | [status], _ => exact .status list
      | [status, message], _ => exact .both list
  · intro told
    cases told with
    | @object ms status message object status_ message_ =>
      have each : ∀ key ∈ ["status", "statusMessage"],
          Json.HasText ms key (if key = "status" then status else message) := by
        intro key known
        simp only [List.mem_cons, List.not_mem_nil, or_false] at known
        rcases known with rfl | rfl
        · exact status_
        · exact message_
      obtain ⟨fields, taken, once, told⟩ := Json.exists_taken each
      refine ⟨fields, .inl ⟨ms, object, taken, once⟩, ?_⟩
      rw [told "status" (by decide), told "statusMessage" (by decide)]
      rfl
    | nothing list => exact ⟨[], .inr ⟨[], list, Nat.zero_le _, rfl⟩, rfl⟩
    | @status status list => exact ⟨_, .inr ⟨[status], list, Nat.le_succ 1, rfl⟩, rfl⟩
    | @both status message list =>
      exact ⟨_, .inr ⟨[status, message], list, Nat.le_refl 2, rfl⟩, rfl⟩

theorem Tells.unique {body : String} {p p' : Resource} (h : Tells body p) (h' : Tells body p') :
    p' = p := by
  rw [← Resource.read?_eq_some_iff] at h h'
  exact Option.some.inj (h'.symm.trans h)

/-! ### Answers -/

/-- What an answer to a look at a pool says about the wait for it. Nobody may have answered. -/
inductive Outlook (name : String) : Option Http.Response → Verdict Unit → Prop where
  | lost : Outlook name none .notYet
  | passing {r : Http.Response}
    (status : r.status = 404 ∨ r.status = 429 ∨ 500 ≤ r.status ∧ r.status < 600) :
    Outlook name (some r) .notYet
  | refused {r : Http.Response} (granted : ¬ (200 ≤ r.status ∧ r.status < 300))
    (status : ¬ (r.status = 404 ∨ r.status = 429 ∨ 500 ≤ r.status ∧ r.status < 600)) :
    Outlook name (some r)
      (.failed (.cloud s!"node pool get returned {statusText r.status}: {trim r.body}"))
  | undecodable {r : Http.Response} (granted : 200 ≤ r.status ∧ r.status < 300)
    (silent : ∀ p, ¬ Tells r.body p) :
    Outlook name (some r) (.failed (.http (.undecodable "no node pool")))
  | running {r : Http.Response} {p : Resource} (granted : 200 ≤ r.status ∧ r.status < 300)
    (told : Tells r.body p) (status : p.status = "RUNNING") : Outlook name (some r) (.ready ())
  | failed {r : Http.Response} {p : Resource} (granted : 200 ≤ r.status ∧ r.status < 300)
    (told : Tells r.body p)
    (status : p.status = "ERROR" ∨ p.status = "RUNNING_WITH_ERROR" ∨ p.status = "STOPPING")
    {reason : String} (reason_ : reason = if p.message = "" then p.status else p.message) :
    Outlook name (some r) (.failed (.cloud s!"node pool {name} failed: {reason}"))
  | provisioning {r : Http.Response} {p : Resource} (granted : 200 ≤ r.status ∧ r.status < 300)
    (told : Tells r.body p)
    (status : p.status ≠ "RUNNING" ∧ p.status ≠ "ERROR" ∧ p.status ≠ "RUNNING_WITH_ERROR" ∧
      p.status ≠ "STOPPING") : Outlook name (some r) .notYet

theorem failedStatuses_contains_iff {status : String} :
    failedStatuses.contains status = true ↔
      status = "ERROR" ∨ status = "RUNNING_WITH_ERROR" ∨ status = "STOPPING" := by
  rw [List.contains_iff_mem]
  unfold failedStatuses
  simp only [List.mem_cons, List.not_mem_nil, or_false]

theorem outlook_of_tells {name : String} {r : Http.Response} {p : Resource}
    (granted : 200 ≤ r.status ∧ r.status < 300) (told : Tells r.body p) :
    Outlook name (some r) (Verdict.of (poolVerdict name (.ok (some p.poolStatus)))) := by
  unfold Resource.poolStatus
  by_cases running : p.status = "RUNNING"
  · rw [if_pos running]
    exact .running granted told running
  rw [if_neg running]
  by_cases failed : failedStatuses.contains p.status = true
  · rw [if_pos failed]
    refine .failed granted told (failedStatuses_contains_iff.1 failed) ?_
    simp only [String.isEmpty_iff]
  · rw [if_neg failed]
    have other := mt failedStatuses_contains_iff.2 failed
    rw [not_or, not_or] at other
    exact .provisioning granted told ⟨running, other⟩

/-- A look at a pool is judged by its answer. -/
theorem outlook_of_read (name url : String) (r : Http.Response) :
    Outlook name (some r) (Verdict.of (poolVerdict name (readStatus url r))) := by
  unfold readStatus
  by_cases missing : r.status = 404
  · rw [if_pos missing]
    exact .passing (.inl missing)
  rw [if_neg missing]
  by_cases transient : r.status = 429 ∨ 500 ≤ r.status ∧ r.status < 600
  · rw [checkGranted_transient transient]
    have again : Fault.isTransient (.http (.status r.status url)) = true :=
      isTransient_iff.2 transient
    simp only [poolVerdict, Verdict.of, again, if_true]
    exact .passing (.inr transient)
  by_cases granted : 200 ≤ r.status ∧ r.status < 300
  · rw [checkGranted_granted granted]
    dsimp only
    cases read : Resource.read? r.body with
    | some p => exact outlook_of_tells granted (Resource.read?_eq_some_iff.1 read)
    | none =>
      refine .undecodable granted fun p told => ?_
      rw [Resource.read?_eq_some_iff.2 told] at read
      cases read
  · rw [checkGranted_refused granted transient]
    exact .refused granted (by rintro (h | h); exacts [missing h, transient h])

theorem readStatus_told {url : String} {r : Http.Response} {p : Resource}
    (granted : 200 ≤ r.status ∧ r.status < 300) (told : Tells r.body p) :
    readStatus url r = .ok (some p.poolStatus) := by
  unfold readStatus
  rw [if_neg (by omega), checkGranted_granted granted]
  dsimp only
  rw [Resource.read?_eq_some_iff.2 told]

/-- An answer says one thing about a wait only: what the look makes of it. -/
theorem outlook_iff {name : String} (url : String) {r : Http.Response} {v : Verdict Unit} :
    Outlook name (some r) v ↔ v = Verdict.of (poolVerdict name (readStatus url r)) := by
  constructor
  · intro h
    cases h with
    | passing status =>
      unfold readStatus
      by_cases missing : r.status = 404
      · rw [if_pos missing]
        rfl
      have transient := status.resolve_left missing
      have again : Fault.isTransient (.http (.status r.status url)) = true :=
        isTransient_iff.2 transient
      simp only [if_neg missing, checkGranted_transient transient, poolVerdict, Verdict.of, again,
        if_true]
    | refused granted status =>
      rw [not_or] at status
      simp only [readStatus, if_neg status.1, checkGranted_refused granted status.2]
      rfl
    | undecodable granted silent =>
      have none_ : Resource.read? r.body = none := by
        rw [Option.eq_none_iff_forall_ne_some]
        intro p read
        exact silent p (Resource.read?_eq_some_iff.1 read)
      simp only [readStatus, if_neg (show ¬ r.status = 404 by omega), checkGranted_granted granted,
        none_]
      rfl
    | running granted told status =>
      simp only [readStatus_told granted told, Resource.poolStatus, if_pos status]
      rfl
    | @failed _ p granted told status reason reason_ =>
      have running : ¬ p.status = "RUNNING" := by
        rintro same
        rw [same] at status
        revert status
        decide
      subst reason_
      simp only [readStatus_told granted told, Resource.poolStatus, if_neg running,
        if_pos (failedStatuses_contains_iff.2 status), String.isEmpty_iff]
      rfl
    | @provisioning _ p granted told status =>
      obtain ⟨running, others⟩ := status
      rw [← not_or, ← not_or] at others
      simp only [readStatus_told granted told, Resource.poolStatus, if_neg running,
        if_neg (mt failedStatuses_contains_iff.1 others)]
      rfl
  · rintro rfl
    exact outlook_of_read name url r

end PoolApi

end ProvingGround
