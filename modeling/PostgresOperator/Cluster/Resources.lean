import PostgresOperator.Cluster.Volumes

/-!
# The cluster's objects, and `Delete`

`Create`, `Update` and `Delete` create, write and delete the cluster's objects through
the operator's `resources.go`, which is not part of this package. Each of its functions
makes one call and, when the call succeeds, records the object in `kubeResources`, or
forgets it once deleted; `Update` compares the desired objects with these records.
`Delete` deletes the endpoint, the service, the statefulset and then every secret, and
stops at the first failure.
-/

namespace PostgresOperator

/-! ### The resource functions -/

/-- `createEndpoint`: create the cluster's endpoint and record it. -/
def createEndpoint (env : Env) : ClusterM (Option String) :=
  callRecording .createEndpoint (fun _ => env.createEndpoint) fun k =>
    { k with endpoint := some ⟨⟩ }

/-- `createService`: create the service generated for the spec's allowed source ranges,
and record it. -/
def createService (env : Env) : ClusterM (Option String) := do
  let service := env.genService (← get).spec.allowedSourceRanges
  callRecording (.createService service) (fun _ => env.createService) fun k =>
    { k with service := some service }

/-- `applySecrets`: create a secret for every user; those created are recorded by UID,
also when a later one fails. -/
def applySecrets (env : Env) : ClusterM (Option String) := do
  let (created, err) ← callReturning .applySecrets env.applySecrets
  modify fun c => { c with kubeResources.secrets := created ∪ c.kubeResources.secrets }
  return err

/-- `createStatefulSet`: generate the statefulset from the spec, create it and record it. -/
def createStatefulSet (env : Env) : ClusterM (Option String) := do
  match env.genStatefulSet (← get).spec with
  | .error err => return some s!"could not generate statefulset: {err}"
  | .ok statefulSet =>
      callRecording (.createStatefulSet statefulSet) (fun _ => env.createStatefulSet) fun k =>
        { k with statefulset := some statefulSet }

/-- `updateService`: write the service and record it. -/
def updateService (env : Env) (newService : Service) : ClusterM (Option String) :=
  callRecording (.updateService newService) (fun _ => env.updateService) fun k =>
    { k with service := some newService }

/-- `updateStatefulSet`: write the statefulset in place and record it. -/
def updateStatefulSet (env : Env) (newStatefulSet : StatefulSet) : ClusterM (Option String) :=
  callRecording (.updateStatefulSet newStatefulSet) (fun _ => env.updateStatefulSet) fun k =>
    { k with statefulset := some newStatefulSet }

/-- `replaceStatefulSet`: delete the statefulset, create the new one and record it. -/
def replaceStatefulSet (env : Env) (newStatefulSet : StatefulSet) : ClusterM (Option String) :=
  callRecording (.replaceStatefulSet newStatefulSet) (fun _ => env.replaceStatefulSet) fun k =>
    { k with statefulset := some newStatefulSet }

/-- `recreatePods`: recreate the pods of the statefulset; no object is recorded. -/
def recreatePods (env : Env) : ClusterM (Option String) :=
  callReturning .recreatePods env.recreatePods

/-- `deleteEndpoint`: delete the endpoint and forget it. -/
def deleteEndpoint (env : Env) : ClusterM (Option String) :=
  callRecording .deleteEndpoint (fun _ => env.deleteEndpoint) fun k => { k with endpoint := none }

/-- `deleteService`: delete the service and forget it. -/
def deleteService (env : Env) : ClusterM (Option String) :=
  callRecording .deleteService (fun _ => env.deleteService) fun k => { k with service := none }

/-- `deleteStatefulSet`: delete the statefulset and forget it. -/
def deleteStatefulSet (env : Env) : ClusterM (Option String) :=
  callRecording .deleteStatefulSet (fun _ => env.deleteStatefulSet) fun k =>
    { k with statefulset := none }

/-- `deleteSecret`: delete the secret of UID `uid` and forget it. -/
def deleteSecret (env : Env) (uid : String) : ClusterM (Option String) :=
  callRecording (.deleteSecret uid) env.deleteSecret fun k =>
    { k with secrets := k.secrets.erase uid }

/-- `action` makes the one call `call` and changes nothing but the cluster's resources. -/
def OneCall (call : Call) (action : ClusterM (Option String)) : Prop :=
  ∀ c, ∃ r k, action c = .ok r { c with calls := c.calls ++ [call], kubeResources := k }

theorem callRecording_oneCall (call : Call) (reply : List Call → Option String)
    (record : KubeResources → KubeResources) : OneCall call (callRecording call reply record) := by
  intro c
  cases h : reply (c.calls ++ [call]) with
  | none => exact ⟨none, record c.kubeResources, by simp [h]⟩
  | some err => exact ⟨some err, c.kubeResources, by simp [h]⟩

theorem callReturning_oneCall (call : Call) (reply : Option String) :
    OneCall call (callReturning call reply) :=
  fun c => ⟨reply, c.kubeResources, rfl⟩

theorem applySecrets_oneCall (env : Env) : OneCall .applySecrets (applySecrets env) :=
  fun _ => ⟨_, _, rfl⟩

theorem updateService_oneCall (env : Env) (newService : Service) :
    OneCall (.updateService newService) (updateService env newService) :=
  callRecording_oneCall _ _ _

theorem updateStatefulSet_oneCall (env : Env) (newStatefulSet : StatefulSet) :
    OneCall (.updateStatefulSet newStatefulSet) (updateStatefulSet env newStatefulSet) :=
  callRecording_oneCall _ _ _

theorem replaceStatefulSet_oneCall (env : Env) (newStatefulSet : StatefulSet) :
    OneCall (.replaceStatefulSet newStatefulSet) (replaceStatefulSet env newStatefulSet) :=
  callRecording_oneCall _ _ _

theorem recreatePods_oneCall (env : Env) : OneCall .recreatePods (recreatePods env) :=
  callReturning_oneCall _ _

/-! ### `Delete` -/

/-- The loop of `Delete` over the secrets, by UID, in the order of the map. -/
def deleteSecrets (env : Env) : List (Σ _ : String, String) → ClusterM (Option String)
  | [] => return none
  | ⟨uid, _⟩ :: secrets => do
      if let some err ← deleteSecret env uid then
        return some s!"could not delete secret: {err}"
      deleteSecrets env secrets

/-- `Delete`: the endpoint, the service and the statefulset, then every secret. -/
def delete (env : Env) : ClusterM (Option String) := do
  if let some err ← deleteEndpoint env then
    return some s!"could not delete endpoint: {err}"
  if let some err ← deleteService env then
    return some s!"could not delete service: {err}"
  if let some err ← deleteStatefulSet env then
    return some s!"could not delete statefulset: {err}"
  deleteSecrets env (← get).kubeResources.secrets.entries

/-- The deletions of `Delete` as steps: a call whose failure is the step's error, and
which forgets its object when it succeeds. -/
def deleteSteps (env : Env) (secrets : List (Σ _ : String, String)) : List Step :=
  [.call .deleteEndpoint
      (fun _ => env.deleteEndpoint.map fun err => s!"could not delete endpoint: {err}")
      fun k => { k with endpoint := none },
    .call .deleteService
      (fun _ => env.deleteService.map fun err => s!"could not delete service: {err}")
      fun k => { k with service := none },
    .call .deleteStatefulSet
      (fun _ => env.deleteStatefulSet.map fun err => s!"could not delete statefulset: {err}")
      fun k => { k with statefulset := none }] ++
  secrets.map fun secret => .call (.deleteSecret secret.1)
    (fun calls => (env.deleteSecret calls).map fun err => s!"could not delete secret: {err}")
    fun k => { k with secrets := k.secrets.erase secret.1 }

theorem deleteSecrets_eq_runSteps (env : Env) (secrets : List (Σ _ : String, String)) :
    deleteSecrets env secrets = runSteps ((deleteSteps env secrets).drop 3) := by
  induction secrets with
  | nil => rfl
  | cons secret secrets ih =>
      funext c
      cases h : env.deleteSecret (c.calls ++ [.deleteSecret secret.1]) <;>
        simp_all [deleteSecrets, deleteSecret, deleteSteps, runSteps, bind_apply]

/-- `Delete` runs its deletions in order, the secrets last, and stops at the first that
fails: it never panics and every call it makes follows a successful one. -/
theorem delete_eq_runSteps (env : Env) (c : Cluster) :
    delete env c = runSteps (deleteSteps env c.kubeResources.secrets.entries) c := by
  cases h1 : env.deleteEndpoint
  on_goal 1 => cases h2 : env.deleteService
  on_goal 1 => cases h3 : env.deleteStatefulSet
  all_goals simp [delete, deleteEndpoint, deleteService, deleteStatefulSet,
    deleteSecrets_eq_runSteps, deleteSteps, runSteps, bind_apply, *]

theorem stepCalls_deleteSteps (env : Env) (secrets : List (Σ _ : String, String)) :
    stepCalls (deleteSteps env secrets) = [.deleteEndpoint, .deleteService, .deleteStatefulSet] ++
      secrets.map fun secret => .deleteSecret secret.1 := by
  simp only [deleteSteps, List.cons_append, stepCalls, List.nil_append]
  induction secrets with
  | nil => rfl
  | cons secret secrets ih => simpa [stepCalls] using ih

theorem recordSteps_deleteSecretSteps (env : Env) (secrets : List (Σ _ : String, String))
    (k : KubeResources) :
    recordSteps ((deleteSteps env secrets).drop 3) k =
      { k with secrets := secrets.foldl (fun s secret => s.erase secret.1) k.secrets } := by
  induction secrets generalizing k with
  | nil => rfl
  | cons secret secrets ih => exact ih _

theorem recordSteps_deleteSteps (env : Env) (secrets : List (Σ _ : String, String))
    (k : KubeResources) :
    recordSteps (deleteSteps env secrets) k = { k with
      endpoint := none
      service := none
      statefulset := none
      secrets := secrets.foldl (fun s secret => s.erase secret.1) k.secrets } :=
  recordSteps_deleteSecretSteps env secrets { k with
    endpoint := none
    service := none
    statefulset := none }

/-- Erasing the UIDs of some entries keeps exactly the other UIDs. -/
theorem mem_foldl_erase (secrets : List (Σ _ : String, String))
    (s : AList fun _ : String => String) (uid : String) :
    uid ∈ secrets.foldl (fun s secret => s.erase secret.1) s ↔
      uid ∈ s ∧ uid ∉ secrets.map Sigma.fst := by
  induction secrets generalizing s with
  | nil => simp
  | cons secret secrets ih => simp [ih, AList.mem_erase, and_left_comm, and_assoc]

/-- A returning `Delete` changes nothing but the calls and the resources, and makes only
deletions: it patches no status and changes no persistent volume. One that returns no
error has forgotten the endpoint, the service, the statefulset and every secret. -/
theorem delete_calls (env : Env) (c c' : Cluster) (r : Option String)
    (h : delete env c = .ok r c') :
    ∃ made k, (∀ call ∈ made, call.patched = none ∧ ¬ResizeCall call) ∧
      c' = { c with calls := c.calls ++ made, kubeResources := k } ∧
      (r = none → k.endpoint = none ∧ k.service = none ∧ k.statefulset = none ∧
        ∀ uid, uid ∉ k.secrets) := by
  rw [delete_eq_runSteps] at h
  obtain ⟨made, k, hmade, rfl⟩ := runSteps_calls c _ h
  refine ⟨made, k, fun call hc => ?_, rfl, fun hr => ?_⟩
  · have hcall := hmade call hc
    simp only [stepCalls_deleteSteps, List.cons_append, List.nil_append, List.mem_cons,
      List.mem_map] at hcall
    rcases hcall with rfl | rfl | rfl | ⟨secret, -, rfl⟩ <;> simp [Call.patched, ResizeCall]
  · subst hr
    obtain ⟨ss, rest, hs, -, ⟨rfl, hrun⟩ | ⟨s, rest', made', err, rfl, -, hrun⟩⟩ :=
      runSteps_apply c (deleteSteps env c.kubeResources.secrets.entries)
    · rw [List.append_nil] at hs
      subst hs
      obtain ⟨-, hk⟩ := EStateM.Result.ok.inj (h.symm.trans hrun)
      rw [show k = _ from congrArg Cluster.kubeResources hk, recordSteps_deleteSteps]
      refine ⟨rfl, rfl, rfl, fun uid huid => ?_⟩
      rw [mem_foldl_erase] at huid
      exact huid.2 huid.1
    · cases (EStateM.Result.ok.inj (h.symm.trans hrun)).1

end PostgresOperator
