import PostgresOperator.Cluster.Resources
import PostgresOperator.Cluster.Users

/-!
# Create

`Create` sets `Creating`, creates the endpoint, the service, the secrets and the
statefulset, waits for the pods, creates the roles in the database and lists its
resources. A deferred closure sets `Running` or `AddFailed` from the function-level
`err`, which `createBody` returns next to the error it returns.

## Implementation notes

Every step before the database ones is a `SetupStep`; `createBody_spec` closes each
return of the body with `createBodyRun_of_setup`.
-/

namespace PostgresOperator

/-- `Create` up to its return: the error it returns, and the function-level `err` that
the deferred closure reads. The `err` of `initDbConn` is declared in its `if` and
does not reach the closure. -/
def createBody (env : Env) : ClusterM (Option String × Option String) := do
  setStatus env .creating
  let mut err ← createEndpoint env
  if let some e := err then return (some s!"could not create endpoint: {e}", err)
  err ← createService env
  if let some e := err then return (some s!"could not create service: {e}", err)
  err ← initUsers env
  if let some e := err then return (some e, err)
  err ← applySecrets env
  if let some e := err then return (some s!"could not create secrets: {e}", err)
  err ← createStatefulSet env
  if let some e := err then return (some s!"could not create statefulset: {e}", err)
  err ← callReturning .waitStatefulsetPodsReady env.waitStatefulsetPodsReady
  if let some e := err then return (some e, err)
  if !((← get).masterLess || env.databaseAccessDisabled) then
    if let some e ← callReturning .initDbConn env.initDbConn then
      return (some s!"could not init db connection: {e}", err)
    err ← callReturning .createUsers env.createUsers
    if let some e := err then return (some s!"could not create users: {e}", err)
  err ← callReturning .listResources env.listResources
  return (none, err)

/-- `Create`: the body, then the deferred closure, which sets `Running` when the
function-level `err` is nil and `AddFailed` otherwise. -/
def create (env : Env) : ClusterM (Option String) := do
  let (ret, err) ← createBody env
  setStatus env (if err.isNone then .running else .addFailed)
  return ret

/-! ### The setup steps -/

/-- A call `Create` makes before its database steps. -/
def SetupCall : Call → Prop
  | .createEndpoint | .createService _ | .randomPassword | .getTeamMembers | .applySecrets
  | .createStatefulSet _ | .waitStatefulsetPodsReady => True
  | _ => False

/-- A setup call patches no status, is no database or listing call, and changes no
volume. -/
theorem SetupCall.not {call : Call} (h : SetupCall call) :
    call.patched = none ∧ call ≠ .initDbConn ∧ call ≠ .listResources ∧ ¬ResizeCall call := by
  cases call <;> simp_all [SetupCall, Call.patched, ResizeCall]

/-- A part of `Create` before its database steps took `c` to `c'`: it made only setup
calls and kept the status, the spec and every role. -/
structure SetupRun (c c' : Cluster) : Prop where
  calls : ∃ made, c'.calls = c.calls ++ made ∧ ∀ call ∈ made, SetupCall call
  status : c'.status = c.status
  spec : c'.spec = c.spec
  roles : c.pgUsers.keys ⊆ c'.pgUsers.keys

theorem SetupRun.refl (c : Cluster) : SetupRun c c :=
  ⟨⟨[], by simp, by simp⟩, rfl, rfl, List.Subset.refl _⟩

theorem SetupRun.trans {c₁ c₂ c₃ : Cluster} (h₁ : SetupRun c₁ c₂) (h₂ : SetupRun c₂ c₃) :
    SetupRun c₁ c₃ := by
  obtain ⟨⟨m₁, hc₁, hm₁⟩, hs₁, hp₁, hr₁⟩ := h₁
  obtain ⟨⟨m₂, hc₂, hm₂⟩, hs₂, hp₂, hr₂⟩ := h₂
  exact ⟨⟨m₁ ++ m₂, by simp [hc₂, hc₁], List.forall_mem_append.2 ⟨hm₁, hm₂⟩⟩, hs₂.trans hs₁,
    hp₂.trans hp₁, hr₁.trans hr₂⟩

/-- One setup call that changes nothing but the calls and the resources. -/
theorem SetupRun.of_call {c : Cluster} {call : Call} (hcall : SetupCall call)
    (k : KubeResources) :
    SetupRun c { c with calls := c.calls ++ [call], kubeResources := k } :=
  ⟨⟨[call], rfl, by simpa using hcall⟩, rfl, rfl, List.Subset.refl _⟩

/-- A step of `Create` before its database steps: from every cluster it returns, as a
`SetupRun`. -/
def SetupStep (x : ClusterM (Option String)) : Prop :=
  ∀ c, ∃ r c', x c = .ok r c' ∧ SetupRun c c'

theorem SetupStep.of_oneCall {call : Call} {x : ClusterM (Option String)} (h : OneCall call x)
    (hcall : SetupCall call) : SetupStep x := fun c =>
  let ⟨r, k, hx⟩ := h c
  ⟨r, _, hx, .of_call hcall k⟩

theorem createEndpoint_setupStep (env : Env) : SetupStep (createEndpoint env) :=
  .of_oneCall (callRecording_oneCall _ _ _) (by exact trivial)

theorem createService_setupStep (env : Env) : SetupStep (createService env) := fun c =>
  let service := env.genService c.spec.allowedSourceRanges
  let ⟨r, k, hx⟩ := callRecording_oneCall (.createService service) (fun _ => env.createService)
    (fun k => { k with service := some service }) c
  ⟨r, _, hx, .of_call (by exact trivial) k⟩

theorem initUsers_setupStep (env : Env) : SetupStep (initUsers env) := fun c => by
  obtain ⟨r, c', h, ⟨pg, sys, made, hmade, rfl⟩, -⟩ := initUsers_ok env c
  refine ⟨r, _, h, ⟨made, rfl, fun call hc => ?_⟩, rfl, rfl, initUsers_keeps_roles env h⟩
  rcases hmade call hc with rfl | rfl <;> trivial

theorem applySecrets_setupStep (env : Env) : SetupStep (applySecrets env) :=
  .of_oneCall (applySecrets_oneCall env) (by exact trivial)

theorem createStatefulSet_setupStep (env : Env) : SetupStep (createStatefulSet env) := by
  intro c
  cases hg : env.genStatefulSet c.spec with
  | error err =>
      exact ⟨some s!"could not generate statefulset: {err}", c,
        by simp [createStatefulSet, bind_apply, hg], .refl c⟩
  | ok ss =>
      obtain ⟨r, k, hx⟩ := callRecording_oneCall (.createStatefulSet ss)
        (fun _ => env.createStatefulSet) (fun k => { k with statefulset := some ss }) c
      exact ⟨r, _, by simpa [createStatefulSet, bind_apply, hg] using hx,
        .of_call (by exact trivial) k⟩

theorem waitStatefulsetPodsReady_setupStep (env : Env) :
    SetupStep (callReturning .waitStatefulsetPodsReady env.waitStatefulsetPodsReady) :=
  .of_oneCall (callReturning_oneCall _ _) (by exact trivial)

/-! ### The runs of `Create` -/

/-- What a returning run of `createBody` from `c` did: it made the calls `made`, and
returned `ret` with `err` left for the deferred closure. -/
structure CreateBodyRun (env : Env) (c c' : Cluster) (made : List Call)
    (ret err : Option String) : Prop where
  calls : c'.calls = c.calls ++ made
  status : c'.status = .creating
  dbConn : err = none ∧ ret ≠ none ↔ .initDbConn ∈ made ∧ env.initDbConn ≠ none
  listed : err ≠ none ∧ ret = none ↔ .listResources ∈ made ∧ env.listResources ≠ none
  patches : patches made = [.creating]
  volumes : ∀ call ∈ made, ¬ResizeCall call
  spec : c'.spec = c.spec
  roles : c.pgUsers.keys ⊆ c'.pgUsers.keys

/-- A database step of `Create`, after its setup. -/
def DatabaseCall (call : Call) : Prop :=
  call = .initDbConn ∨ call = .createUsers ∨ call = .listResources

/-- Every return of `createBody`: the setup run from the `Creating` patch, then some of
the database steps, whose failures are the ones the return reports. -/
theorem createBodyRun_of_setup {env : Env} {c cw c' : Cluster} {ret err : Option String}
    (hs : SetupRun { c with status := .creating, calls := c.calls ++ [.patchStatus .creating] } cw)
    (tail : List Call) (hc' : c' = { cw with calls := cw.calls ++ tail })
    (htail : ∀ call ∈ tail, DatabaseCall call)
    (hdb : err = none ∧ ret ≠ none ↔ .initDbConn ∈ tail ∧ env.initDbConn ≠ none)
    (hlr : err ≠ none ∧ ret = none ↔ .listResources ∈ tail ∧ env.listResources ≠ none) :
    ∃ ret' err' c'' made,
      (.ok (ret, err) c' : EStateM.Result String Cluster _) = .ok (ret', err') c'' ∧
      CreateBodyRun env c c'' made ret' err' := by
  obtain ⟨⟨setup, hcw, hsetup⟩, hst, hsp, hro⟩ := hs
  have hdb' : Call.initDbConn ∉ setup := fun h => (hsetup _ h).not.2.1 rfl
  have hlr' : Call.listResources ∉ setup := fun h => (hsetup _ h).not.2.2.1 rfl
  have htail' : ∀ call ∈ tail, call.patched = none ∧ ¬ResizeCall call := fun call hc => by
    rcases htail call hc with rfl | rfl | rfl <;> simp [Call.patched, ResizeCall]
  subst hc'
  refine ⟨ret, err, _, .patchStatus .creating :: (setup ++ tail), rfl, ⟨by simp [hcw], hst,
    by simp [hdb, hdb'], by simp [hlr, hlr'], ?_, ?_, hsp, hro⟩⟩
  · rw [patches_cons, patches_append, patches_eq_nil setup fun call hc => (hsetup call hc).not.1,
      patches_eq_nil tail fun call hc => (htail' call hc).1]
    rfl
  · intro call hc
    rcases List.mem_cons.mp hc with rfl | hc
    · simp [ResizeCall]
    rcases List.mem_append.mp hc with hc | hc
    exacts [(hsetup call hc).not.2.2.2, (htail' call hc).2]

/-- Every run of `createBody` returns, having patched `Creating` and no other status,
kept the spec and every role, and changed no volume. The function-level `err` and the
error returned disagree exactly when `initDbConn` or `ListResources` failed. -/
theorem createBody_spec (env : Env) (c : Cluster) :
    ∃ ret err c' made, createBody env c = .ok (ret, err) c' ∧
      CreateBodyRun env c c' made ret err := by
  obtain ⟨r₁, c₁, h₁, s₁⟩ := createEndpoint_setupStep env
    { c with status := .creating, calls := c.calls ++ [.patchStatus .creating] }
  obtain ⟨r₂, c₂, h₂, s₂⟩ := createService_setupStep env c₁
  obtain ⟨r₃, c₃, h₃, s₃⟩ := initUsers_setupStep env c₂
  obtain ⟨r₄, c₄, h₄, s₄⟩ := applySecrets_setupStep env c₃
  obtain ⟨r₅, c₅, h₅, s₅⟩ := createStatefulSet_setupStep env c₄
  obtain ⟨r₆, c₆, h₆, s₆⟩ := waitStatefulsetPodsReady_setupStep env c₅
  replace s₂ := s₁.trans s₂
  replace s₃ := s₂.trans s₃
  replace s₄ := s₃.trans s₄
  replace s₅ := s₄.trans s₅
  replace s₆ := s₅.trans s₆
  simp only [createBody, bind_apply, setStatus_apply, h₁]
  -- each setup step either returns its error, closed with the setup so far, or goes on
  cases r₁
  case some e => exact createBodyRun_of_setup s₁ [] (by simp) (by simp) (by simp) (by simp)
  simp only [bind_apply, pure_apply, h₂]
  cases r₂
  case some e => exact createBodyRun_of_setup s₂ [] (by simp) (by simp) (by simp) (by simp)
  simp only [bind_apply, pure_apply, h₃]
  cases r₃
  case some e => exact createBodyRun_of_setup s₃ [] (by simp) (by simp) (by simp) (by simp)
  simp only [bind_apply, pure_apply, h₄]
  cases r₄
  case some e => exact createBodyRun_of_setup s₄ [] (by simp) (by simp) (by simp) (by simp)
  simp only [bind_apply, pure_apply, h₅]
  cases r₅
  case some e => exact createBodyRun_of_setup s₅ [] (by simp) (by simp) (by simp) (by simp)
  simp only [bind_apply, pure_apply, h₆]
  cases r₆
  case some e => exact createBodyRun_of_setup s₆ [] (by simp) (by simp) (by simp) (by simp)
  -- the database steps
  simp only [bind_apply, get_apply, pure_apply]
  cases c₆.masterLess || env.databaseAccessDisabled
  case true =>
    simp only [Bool.not_true, Bool.false_eq_true, if_false, bind_apply, pure_apply,
      callReturning_apply]
    exact createBodyRun_of_setup s₆ [.listResources] rfl (by simp [DatabaseCall]) (by simp)
      (by simp)
  simp only [Bool.not_false, if_true, bind_apply, callReturning_apply]
  cases hi : env.initDbConn
  case some e =>
    exact createBodyRun_of_setup s₆ [.initDbConn] rfl (by simp [DatabaseCall]) (by simp [hi])
      (by simp)
  simp only [bind_apply, callReturning_apply]
  cases env.createUsers
  case some e =>
    exact createBodyRun_of_setup s₆ [.initDbConn, .createUsers] (by simp)
      (by simp [DatabaseCall]) (by simp [hi]) (by simp)
  simp only [bind_apply, callReturning_apply, pure_apply]
  exact createBodyRun_of_setup s₆ [.initDbConn, .createUsers, .listResources] (by simp)
    (by simp [DatabaseCall]) (by simp [hi]) (by simp)

/-- `Create` returns, and its last status is `Running` or `AddFailed`. The status
disagrees with the error returned exactly when `initDbConn` failed (an error, yet
`Running`) or `ListResources` failed (nil, yet `AddFailed`). -/
theorem create_status (env : Env) (c : Cluster) :
    ∃ r c' made, create env c = .ok r c' ∧ c'.calls = c.calls ++ made ∧
      made.getLast? = some (.patchStatus c'.status) ∧
      (c'.status = .running ∨ c'.status = .addFailed) ∧
      (c'.status = .running ∧ r ≠ none ↔ .initDbConn ∈ made ∧ env.initDbConn ≠ none) ∧
      (c'.status = .addFailed ∧ r = none ↔ .listResources ∈ made ∧ env.listResources ≠ none) := by
  obtain ⟨ret, err, c₁, made, h, hrun⟩ := createBody_spec env c
  obtain ⟨s, hs⟩ : ∃ s, s = if err.isNone then PostgresStatus.running else .addFailed := ⟨_, rfl⟩
  refine ⟨ret, { c₁ with status := s, calls := c₁.calls ++ [.patchStatus s] },
    made ++ [.patchStatus s], by simp only [create, bind_apply, h, setStatus_apply, pure_apply, hs],
    by simp [hrun.calls], by simp, ?_⟩
  have hdb := hrun.dbConn
  have hlr := hrun.listed
  cases err <;> simp_all

/-- A returning `Create` keeps the spec and every role, patches `Creating` and then the
status it ends with, `Running` or `AddFailed`, and changes no persistent volume. -/
theorem create_calls (env : Env) (c c' : Cluster) (r : Option String)
    (h : create env c = .ok r c') :
    ∃ made, c'.calls = c.calls ++ made ∧ c'.spec = c.spec ∧ c.pgUsers.keys ⊆ c'.pgUsers.keys ∧
      patches made = [.creating, c'.status] ∧ (c'.status = .running ∨ c'.status = .addFailed) ∧
      ∀ call ∈ made, ¬ResizeCall call := by
  obtain ⟨ret, err, c₁, made, h₁, hrun⟩ := createBody_spec env c
  simp only [create, bind_apply, h₁, setStatus_apply, pure_apply] at h
  obtain ⟨rfl, rfl⟩ := EStateM.Result.ok.inj h
  refine ⟨made ++ [.patchStatus (if err.isNone then .running else .addFailed)],
    by simp [hrun.calls], hrun.spec, hrun.roles, by simp [hrun.patches, Call.patched],
    by split <;> simp, fun call hc => ?_⟩
  rcases List.mem_append.mp hc with hc | hc
  · exact hrun.volumes call hc
  · rw [List.mem_singleton.mp hc]
    exact id

theorem create_keeps_earlier_roles :
    let gen : PostgresSpec → Except String StatefulSet :=
      fun spec => .ok (sampleStatefulSet spec.pgVersion)
    let env₁ := { Env.succeeding [] (fun _ => .ok 0) gen with getTeamMembers := .ok ["alice"] }
    let env₂ := Env.succeeding [] (fun _ => .ok 0) gen
    let c₁ := { sampleCluster with
      kubeResources := ⟨some ⟨[]⟩, some ⟨⟩, ∅, some (sampleStatefulSet "9.6")⟩
      status := .running
      pgUsers := (∅ : UserMap).insert "alice" ⟨"alice", "", ["LOGIN", "SUPERUSER"], ["zalandos"]⟩
      systemUsers := ((∅ : UserMap).insert "superuser" ⟨"postgres", "secret", [], []⟩).insert
        "replication" ⟨"standby", "secret", [], []⟩
      calls := [.patchStatus .creating, .createEndpoint, .createService ⟨[]⟩, .randomPassword,
        .randomPassword, .getTeamMembers, .applySecrets,
        .createStatefulSet (sampleStatefulSet "9.6"), .waitStatefulsetPodsReady, .initDbConn,
        .createUsers, .listResources, .patchStatus .running] }
    create env₁ sampleCluster = .ok none c₁ ∧
      env₂.getTeamMembers = .ok [] ∧ "alice" ∉ c₁.infrastructureRoles ∧ "alice" ∉ c₁.spec.users ∧
      ∃ c₂, create env₂ c₁ = .ok none c₂ ∧ "alice" ∈ c₂.pgUsers := by
  intro gen env₁ env₂ c₁
  refine ⟨?_, rfl, by decide, by decide, ?_⟩ <;>
    simp [env₁, env₂, c₁, create, createBody, bind_apply, createEndpoint, createService,
      applySecrets, createStatefulSet, initUsers, initSystemUsers, initInfrastructureRoles,
      initRobotUsers, initHumanUsers, addValidUsers, addHumanUsers, Env.succeeding, sampleCluster,
      new, gen]
  decide

end PostgresOperator
