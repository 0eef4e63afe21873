import PostgresOperator.Cluster.Create
import PostgresOperator.Cluster.Update

/-!
# Runs of a cluster

The controller drives a cluster through its entry points `Create`, `Update` and
`Delete`, in any order, and the other systems may answer each of them differently.
Along every such run every persistent-volume record is written right after successful
resizes of its own device and filesystem, and no role is dropped. Each fact follows by
induction over the run (`runOps_keeps`) from one lemma per entry point.
-/

namespace PostgresOperator

/-- An entry point of a cluster, as the controller calls it. -/
inductive Op where
  | create
  | update (newSpec : PostgresSpec)
  | delete

/-- The method an entry point runs. -/
def Op.run (env : Env) : Op → ClusterM (Option String)
  | .create => PostgresOperator.create env
  | .update newSpec => PostgresOperator.update env newSpec
  | .delete => PostgresOperator.delete env

/-- A run of entry points, each with the replies the other systems give it then; the
error an entry point returns goes back to the controller, and the run goes on. -/
def runOps : List (Env × Op) → ClusterM (List (Option String))
  | [] => pure []
  | (env, op) :: ops => do
      let r ← op.run env
      let rs ← runOps ops
      return r :: rs

/-- Invariant induction: what every entry point of a run keeps holds after the run. -/
theorem runOps_keeps (I : Cluster → Prop) (ops : List (Env × Op))
    (hops : ∀ e ∈ ops, ∀ c r c', I c → e.2.run e.1 c = .ok r c' → I c')
    {c c' : Cluster} {rs : List (Option String)} (h : runOps ops c = .ok rs c') (hc : I c) :
    I c' := by
  induction ops generalizing c rs with
  | nil =>
      obtain ⟨-, rfl⟩ := EStateM.Result.ok.inj h
      exact hc
  | cons e ops ih =>
      obtain ⟨env, op⟩ := e
      obtain ⟨r, c₁, h₁, h₂⟩ := bind_ok c h
      obtain ⟨rs', c₂, h₃, h₄⟩ := bind_ok c₁ h₂
      obtain ⟨-, rfl⟩ := EStateM.Result.ok.inj h₄
      exact ih (fun e he => hops e (List.mem_cons_of_mem _ he)) h₃
        (hops _ (List.mem_cons_self _ _) c r c₁ hc h₁)

theorem recordsFollowResizes_congr {env world : Env} (calls : List Call)
    (h : env.resizeVolume = world.resizeVolume ∧ env.execCommand = world.execCommand ∧
      env.dataVolumeName = world.dataVolumeName) :
    RecordsFollowResizes env calls ↔ RecordsFollowResizes world calls := by
  simp only [RecordsFollowResizes, WriteFollowsResizes, h.1, h.2.1, h.2.2]

/-- `Create` and `Delete` write no persistent-volume record. -/
theorem Op.run_writes_no_record (env : Env) (op : Op) (hop : op = .create ∨ op = .delete)
    {c c' : Cluster} {r : Option String} (h : op.run env c = .ok r c') :
    ∃ made, c'.calls = c.calls ++ made ∧ ∀ call ∈ made, ¬RecordWrite call := by
  rcases hop with rfl | rfl
  · obtain ⟨made, hcalls, -, -, -, -, hmade⟩ := create_calls env c c' r h
    exact ⟨made, hcalls, fun call hc => mt RecordWrite.resizeCall (hmade call hc)⟩
  · obtain ⟨made, k, hmade, rfl, -⟩ := delete_calls env c c' r h
    exact ⟨made, rfl, fun call hc => mt RecordWrite.resizeCall (hmade call hc).2⟩

theorem Op.run_recordsFollowResizes (env : Env) (op : Op) {c c' : Cluster} {r : Option String}
    (hc : RecordsFollowResizes env c.calls) (h : op.run env c = .ok r c') :
    RecordsFollowResizes env c'.calls := by
  cases op with
  | update newSpec =>
      obtain ⟨made, hrun⟩ := update_spec env newSpec c c' r h
      exact hrun.recordsFollowResizes hc
  | create | delete =>
      obtain ⟨made, hcalls, hmade⟩ := Op.run_writes_no_record env _ (by simp) h
      exact hcalls ▸ recordsFollowResizes_append_calls made hc hmade

/-- Along every returning run of entry points whose resizes are answered as `world` does,
every record is written right after successful resizes of its own EBS volume and of the
filesystem on its claim's pod; `Create` and `Delete` write no record. -/
theorem runOps_recordsFollowResizes (world : Env) (ops : List (Env × Op))
    (hworld : ∀ e ∈ ops, e.1.resizeVolume = world.resizeVolume ∧
      e.1.execCommand = world.execCommand ∧ e.1.dataVolumeName = world.dataVolumeName)
    (c c' : Cluster) (rs : List (Option String)) (hc : RecordsFollowResizes world c.calls)
    (h : runOps ops c = .ok rs c') :
    RecordsFollowResizes world c'.calls ∧
      ∀ e ∈ ops, (e.2 = .create ∨ e.2 = .delete) → ∀ c₁ r c₂, e.2.run e.1 c₁ = .ok r c₂ →
        ∃ made, c₂.calls = c₁.calls ++ made ∧ ∀ call ∈ made, ¬RecordWrite call :=
  ⟨runOps_keeps (fun c => RecordsFollowResizes world c.calls) ops
    (fun e he _ _ _ hc hrun => (recordsFollowResizes_congr _ (hworld e he)).1
      (Op.run_recordsFollowResizes e.1 e.2 ((recordsFollowResizes_congr _ (hworld e he)).2 hc)
        hrun))
    h hc, fun e _ hop _ _ _ hrun => Op.run_writes_no_record e.1 e.2 hop hrun⟩

/-- An `Update` whose volume section fails to list the persistent volumes, then a
`Delete`: no record is written, and the log still meets the invariant. -/
theorem runOps_recordsFollowResizes_sample :
    let env := { Env.succeeding [samplePV] (fun _ => .ok ⟨21474836480⟩) fun _ => .error "" with
      listPersistentVolumes := .error "timeout" }
    let c := sampleRunningCluster (sampleStatefulSet "9.6")
    let ops : List (Env × Op) := [(env, .update { c.spec with volume := ⟨"20Gi", ""⟩ }),
      (env, .delete)]
    ∃ rs c', runOps ops c = .ok rs c' ∧ RecordsFollowResizes env c'.calls ∧
      ∀ e ∈ ops, (e.2 = .create ∨ e.2 = .delete) → ∀ c₁ r c₂, e.2.run e.1 c₁ = .ok r c₂ →
        ∃ made, c₂.calls = c₁.calls ++ made ∧ ∀ call ∈ made, ¬RecordWrite call := by
  intro env c ops
  exact ⟨_, _, rfl,
    runOps_recordsFollowResizes env ops (by simp [ops]) c _ _ (recordsFollowResizes_nil env) rfl⟩

/-- No entry point writes the spec. -/
theorem Op.run_spec (env : Env) (op : Op) {c c' : Cluster} {r : Option String}
    (h : op.run env c = .ok r c') : c'.spec = c.spec := by
  cases op with
  | create =>
      obtain ⟨made, -, hspec, -⟩ := create_calls env c c' r h
      exact hspec
  | update newSpec =>
      obtain ⟨made, hrun⟩ := update_spec env newSpec c c' r h
      exact hrun.spec
  | delete =>
      obtain ⟨made, k, -, rfl, -⟩ := delete_calls env c c' r h
      rfl

/-- No entry point drops a role. -/
theorem Op.run_keeps_roles (env : Env) (op : Op) {c c' : Cluster} {r : Option String}
    (h : op.run env c = .ok r c') : c.pgUsers.keys ⊆ c'.pgUsers.keys := by
  cases op with
  | create =>
      obtain ⟨made, -, -, hkeep, -⟩ := create_calls env c c' r h
      exact hkeep
  | update newSpec =>
      obtain ⟨made, hrun⟩ := update_spec env newSpec c c' r h
      exact hrun.pgUsers ▸ List.Subset.refl _
  | delete =>
      obtain ⟨made, k, -, rfl, -⟩ := delete_calls env c c' r h
      exact List.Subset.refl _

/-- Along every returning run of entry points no role is ever dropped: a `Create` only
adds roles, even when it fails half way, and `Update` and `Delete` leave them alone. -/
theorem runOps_keeps_roles (ops : List (Env × Op)) (c c' : Cluster) (rs : List (Option String))
    (h : runOps ops c = .ok rs c') : c.pgUsers.keys ⊆ c'.pgUsers.keys :=
  runOps_keeps (fun c' => c.pgUsers.keys ⊆ c'.pgUsers.keys) ops
    (fun e _ _ _ _ hc he => List.Subset.trans hc (Op.run_keeps_roles e.1 e.2 he)) h
    (List.Subset.refl _)

/-- A `Create` whose team is empty, on a cluster where an earlier `Create` gave the team
member alice a role: the role stays. -/
theorem runOps_keeps_roles_sample :
    let env := Env.succeeding [] (fun _ => .ok 0) fun _ => .error ""
    let c := { sampleCluster with
      pgUsers := (∅ : UserMap).insert "alice" ⟨"alice", "", ["LOGIN", "SUPERUSER"], ["zalandos"]⟩ }
    env.getTeamMembers = .ok [] ∧ ∃ rs c', runOps [(env, .create)] c = .ok rs c' ∧
      c.pgUsers.keys ⊆ c'.pgUsers.keys ∧ "alice" ∈ c'.pgUsers := by
  intro env c
  obtain ⟨ret, err, c₁, made, h, -⟩ := createBody_spec env c
  have hrun : runOps [(env, .create)] c = .ok [ret] { c₁ with
      status := if err.isNone then .running else .addFailed
      calls := c₁.calls ++ [.patchStatus (if err.isNone then .running else .addFailed)] } := by
    simp only [runOps, Op.run, create, bind_apply, h, setStatus_apply, pure_apply]
  have hkeep := runOps_keeps_roles _ c _ _ hrun
  exact ⟨rfl, _, _, hrun, hkeep, hkeep (by decide)⟩

end PostgresOperator
