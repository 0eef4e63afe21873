import PostgresOperator.Cluster.Objects

/-!
# The cluster, its collaborators and the calls it makes

A method of `*Cluster` runs in `ClusterM`: it reads and writes the cluster record, and a
Go panic is an exception carrying its message. A method returning `error` returns
`Option String`, `none` for `nil`. Every call to another system is appended to `calls`,
and its reply comes from an `Env`: one value when a run asks for it at most once, read off
the calls made so far when it is asked once per volume, secret, password or status.
Quantifying over every `Env` covers every pattern of successes and failures.
-/

namespace PostgresOperator

/-- A call of the cluster code to another system, with the arguments it passes. -/
inductive Call where
  | patchStatus (status : PostgresStatus)
  | createEndpoint
  | createService (service : Service)
  | randomPassword
  | getTeamMembers
  | applySecrets
  | createStatefulSet (statefulSet : StatefulSet)
  | waitStatefulsetPodsReady
  | initDbConn
  | createUsers
  | listResources
  | updateService (service : Service)
  | listPersistentVolumes
  | connectToEC2
  | resizeVolume (volumeId : String) (size : Int)
  | execCommand (pod : NamespacedName) (command : List String)
  | updatePersistentVolume (pv : PersistentVolume)
  | updateStatefulSet (statefulSet : StatefulSet)
  | replaceStatefulSet (statefulSet : StatefulSet)
  | recreatePods
  | deleteEndpoint
  | deleteService
  | deleteStatefulSet
  | deleteSecret (uid : String)
  deriving DecidableEq

/-- What `cluster.go` calls outside itself: the replies of the other systems, the
functions of the operator's other files and of the client libraries, and the
`constants` it reads. -/
structure Env where
  patchStatus : List Call → Option String
  createEndpoint : Option String
  createService : Option String
  getTeamMembers : Except String (List String)
  applySecrets : (AList fun _ : String => String) × Option String
  createStatefulSet : Option String
  waitStatefulsetPodsReady : Option String
  initDbConn : Option String
  createUsers : Option String
  listResources : Option String
  updateService : Option String
  listPersistentVolumes : Except String (List PersistentVolume)
  connectToEC2 : Option String
  updateStatefulSet : Option String
  replaceStatefulSet : Option String
  recreatePods : Option String
  deleteEndpoint : Option String
  deleteService : Option String
  deleteStatefulSet : Option String
  randomPassword : List Call → String
  resizeVolume : List Call → Option String
  execCommand : List Call → String × Option String
  updatePersistentVolume : List Call → Option String
  deleteSecret : List Call → Option String
  databaseAccessDisabled : Bool
  isValidUsername : String → Bool
  normalizeUserFlags : List String → Except String (List String)
  genService : List String → Service
  genStatefulSet : PostgresSpec → Except String StatefulSet
  parseQuantity : String → Except String Quantity
  dataVolumeName : String
  superuserKeyName : String
  replicationUserKeyName : String
  roleFlagLogin : String
  roleFlagSuperuser : String

/-- The environment in which every call succeeds: the API lists `pvs`, every filesystem
resize finds nothing to do, sizes are read by `parse` and statefulsets generated by
`gen`. -/
def Env.succeeding (pvs : List PersistentVolume) (parse : String → Except String Quantity)
    (gen : PostgresSpec → Except String StatefulSet) : Env where
  patchStatus := fun _ => none
  createEndpoint := none
  createService := none
  getTeamMembers := .ok []
  applySecrets := (∅, none)
  createStatefulSet := none
  waitStatefulsetPodsReady := none
  initDbConn := none
  createUsers := none
  listResources := none
  updateService := none
  listPersistentVolumes := .ok pvs
  connectToEC2 := none
  updateStatefulSet := none
  replaceStatefulSet := none
  recreatePods := none
  deleteEndpoint := none
  deleteService := none
  deleteStatefulSet := none
  randomPassword := fun _ => "secret"
  resizeVolume := fun _ => none
  execCommand := fun _ => ("Nothing to do", none)
  updatePersistentVolume := fun _ => none
  deleteSecret := fun _ => none
  databaseAccessDisabled := false
  isValidUsername := fun _ => true
  normalizeUserFlags := .ok
  genService := fun ranges => ⟨ranges⟩
  genStatefulSet := gen
  parseQuantity := parse
  dataVolumeName := "pgdata"
  superuserKeyName := "superuser"
  replicationUserKeyName := "replication"
  roleFlagLogin := "LOGIN"
  roleFlagSuperuser := "SUPERUSER"

/-- The parts of `config.Config` the package reads. -/
structure OpConfig where
  superUsername : String
  replicationUsername : String
  pamRoleName : String

/-- The package's `Config`. -/
structure Config where
  opConfig : OpConfig
  infrastructureRoles : UserMap

/-- `spec.Postgresql`, the cluster manifest. -/
structure Postgresql where
  spec : PostgresSpec
  status : PostgresStatus

/-- `kubeResources`: the objects the cluster created or wrote last. `secrets` maps a
secret's UID to its name. -/
structure KubeResources where
  service : Option Service
  endpoint : Option Endpoint
  secrets : AList fun _ : String => String
  statefulset : Option StatefulSet

/-- `Cluster` with the fields of its embedded `kubeResources`, `Postgresql` and `Config`
that the package reads or writes. `calls` is not a field of the Go struct: it is every
call made so far. -/
structure Cluster where
  kubeResources : KubeResources
  spec : PostgresSpec
  status : PostgresStatus
  opConfig : OpConfig
  infrastructureRoles : UserMap
  pgUsers : UserMap
  systemUsers : UserMap
  masterLess : Bool
  calls : List Call

@[simp] theorem Cluster.mk_eta (c : Cluster) :
    Cluster.mk c.kubeResources c.spec c.status c.opConfig c.infrastructureRoles c.pgUsers
      c.systemUsers c.masterLess c.calls = c := rfl

/-- A method of `*Cluster`; the exception is a Go panic. -/
abbrev ClusterM := EStateM String Cluster

/-- `New`: empty user maps and resources, not master-less, no calls made. -/
def new (cfg : Config) (pgSpec : Postgresql) : Cluster where
  kubeResources := ⟨none, none, ∅, none⟩
  spec := pgSpec.spec
  status := pgSpec.status
  opConfig := cfg.opConfig
  infrastructureRoles := cfg.infrastructureRoles
  pgUsers := ∅
  systemUsers := ∅
  masterLess := false
  calls := []

/-- A cluster as `New` builds it, with empty infrastructure roles and manifest users. -/
def sampleCluster : Cluster :=
  new ⟨⟨"postgres", "standby", "zalandos"⟩, ∅⟩ ⟨⟨"9.6", ⟨"10Gi", ""⟩, [], ∅⟩, .running⟩

/-- A statefulset of one container whose image names the PostgreSQL version. -/
def sampleStatefulSet (pgVersion : String) : StatefulSet :=
  ⟨1, ⟨∅, ∅, "", 30, [⟨"spilo:" ++ pgVersion, [], ⟨∅, ∅⟩, []⟩]⟩, []⟩

/-- Make `call` and read its reply off the calls made so far, `call` included. -/
def callWith {α : Type} (call : Call) (reply : List Call → α) : ClusterM α := fun c =>
  .ok (reply (c.calls ++ [call])) { c with calls := c.calls ++ [call] }

/-- Make `call`, whose reply in this run is `reply`. -/
def callReturning {α : Type} (call : Call) (reply : α) : ClusterM α :=
  callWith call fun _ => reply

/-- A Go runtime panic. -/
def goPanic {α : Type} (msg : String) : ClusterM α := throw msg

/-- `setStatus`: the status is set, then patched onto the manifest. The reply of the
patch is only logged. -/
def setStatus (env : Env) (status : PostgresStatus) : ClusterM Unit := do
  modify fun c => { c with status := status }
  let _reply ← callWith (.patchStatus status) env.patchStatus
  return ()

/-- Make `call`, whose reply is read off the calls made so far, and when it succeeds
record `record` in the cluster's resources: the shape of the operator's functions that
create, write and delete objects. -/
def callRecording (call : Call) (reply : List Call → Option String)
    (record : KubeResources → KubeResources) : ClusterM (Option String) := do
  let err ← callWith call reply
  if err.isNone then modify fun c => { c with kubeResources := record c.kubeResources }
  return err

/-- The status a call patches onto the manifest, if it is a status patch. -/
def Call.patched : Call → Option PostgresStatus
  | .patchStatus status => some status
  | _ => none

/-- The status that the calls of a log patched onto the manifest last. -/
def lastPatch : List Call → Option PostgresStatus
  | [] => none
  | call :: calls => (lastPatch calls).or call.patched

@[simp] theorem lastPatch_nil : lastPatch [] = none := rfl

@[simp] theorem lastPatch_cons (call : Call) (calls : List Call) :
    lastPatch (call :: calls) = (lastPatch calls).or call.patched := rfl

@[simp] theorem lastPatch_append (calls calls' : List Call) :
    lastPatch (calls ++ calls') = (lastPatch calls').or (lastPatch calls) := by
  induction calls with
  | nil => simp
  | cons call calls ih => simp [ih, Option.or_assoc]

/-- The statuses that the calls of a log patch onto the manifest, in order: the status
history the manifest goes through. -/
def patches (calls : List Call) : List PostgresStatus :=
  calls.filterMap Call.patched

@[simp] theorem patches_nil : patches [] = [] := rfl

@[simp] theorem patches_cons (call : Call) (calls : List Call) :
    patches (call :: calls) = call.patched.toList ++ patches calls := by
  cases h : call.patched <;> simp [patches, List.filterMap_cons, h]

@[simp] theorem patches_append (calls calls' : List Call) :
    patches (calls ++ calls') = patches calls ++ patches calls' :=
  List.filterMap_append ..

theorem patches_eq_nil (calls : List Call) (h : ∀ call ∈ calls, call.patched = none) :
    patches calls = [] :=
  List.filterMap_eq_nil_iff.mpr h

/-- The status patched last is the last of the status history. -/
theorem lastPatch_eq_getLast_patches (calls : List Call) :
    lastPatch calls = (patches calls).getLast? := by
  induction calls with
  | nil => rfl
  | cons call calls ih =>
      cases h : call.patched <;> cases hl : (patches calls).getLast? <;>
        simp_all [List.getLast?_cons]

/-- One step of a sequence that stops at its first failure: a call whose reply, read
off the calls made so far, becomes the error the step returns, and which records
`record` when it succeeds; or an error found without a call. -/
inductive Step where
  | call (call : Call) (outcome : List Call → Option String)
      (record : KubeResources → KubeResources)
  | fail (err : String)

/-- Run the steps in order; the first failing one ends the run with its error. -/
def runSteps : List Step → ClusterM (Option String)
  | [] => pure none
  | .fail err :: _ => pure (some err)
  | .call call outcome record :: steps => do
      if let some err ← callRecording call outcome record then return some err
      runSteps steps

/-- The calls the call steps of `steps` make. -/
def stepCalls : List Step → List Call
  | [] => []
  | .call call _ _ :: steps => call :: stepCalls steps
  | .fail _ :: steps => stepCalls steps

/-- The resources after the steps `ss` all succeeded, each recording what it records. -/
def recordSteps : List Step → KubeResources → KubeResources
  | [], k => k
  | .call _ _ record :: ss, k => recordSteps ss (record k)
  | .fail _ :: ss, k => recordSteps ss k

/-- Every step of `ss` is a call that succeeds, after the calls `pre` and those of
the steps before it. -/
def Succeeds : List Call → List Step → Prop
  | _, [] => True
  | _, .fail _ :: _ => False
  | pre, .call call outcome _ :: ss =>
      outcome (pre ++ [call]) = none ∧ Succeeds (pre ++ [call]) ss

/-- Step `s`, run after the calls `pre`, fails with `err` having made the calls `made`. -/
def StepFails (pre : List Call) : Step → List Call → String → Prop
  | .fail e, made, err => made = [] ∧ err = e
  | .call call outcome _, made, err => made = [call] ∧ outcome (pre ++ [call]) = some err

section Run
variable {α β : Type} (c : Cluster)

theorem bind_apply (x : ClusterM α) (f : α → ClusterM β) :
    (x >>= f) c = match x c with
      | .ok a c' => f a c'
      | .error e c' => .error e c' := by
  show EStateM.bind x f c = _
  unfold EStateM.bind
  cases x c <;> rfl

theorem bind_ok {x : ClusterM α} {f : α → ClusterM β} {b : β} {c' : Cluster}
    (h : (x >>= f) c = .ok b c') : ∃ a c'', x c = .ok a c'' ∧ f a c'' = .ok b c' := by
  rw [bind_apply] at h
  split at h
  · exact ⟨_, _, ‹_›, h⟩
  · cases h

@[simp] theorem map_apply (f : α → β) (x : ClusterM α) :
    (f <$> x) c = match x c with
      | .ok a c' => .ok (f a) c'
      | .error e c' => .error e c' := by
  show EStateM.map f x c = _
  unfold EStateM.map
  cases x c <;> rfl

@[simp] theorem pure_apply (a : α) : (pure a : ClusterM α) c = .ok a c := rfl

@[simp] theorem modify_apply (f : Cluster → Cluster) :
    (modify f : ClusterM Unit) c = .ok () (f c) := rfl

@[simp] theorem get_apply : (get : ClusterM Cluster) c = .ok c c := rfl

@[simp] theorem callWith_apply (call : Call) (reply : List Call → α) :
    callWith call reply c = .ok (reply (c.calls ++ [call])) { c with calls := c.calls ++ [call] } :=
  rfl

@[simp] theorem callReturning_apply (call : Call) (reply : α) :
    callReturning call reply c = .ok reply { c with calls := c.calls ++ [call] } := rfl

@[simp] theorem setStatus_apply (env : Env) (status : PostgresStatus) :
    setStatus env status c =
      .ok () { c with status := status, calls := c.calls ++ [.patchStatus status] } := rfl

@[simp] theorem callRecording_apply (call : Call) (reply : List Call → Option String)
    (record : KubeResources → KubeResources) :
    callRecording call reply record c = match reply (c.calls ++ [call]) with
      | none => .ok none { c with
          calls := c.calls ++ [call]
          kubeResources := record c.kubeResources }
      | some err => .ok (some err) { c with calls := c.calls ++ [call] } := by
  cases h : reply (c.calls ++ [call]) <;> simp [callRecording, bind_apply, h]

@[simp] theorem goPanic_apply (msg : String) : (goPanic msg : ClusterM α) c = .error msg c := rfl

/-- A run of steps makes the calls of a prefix of them that all succeed, recording what
they record, then stops: at the end with no error, or at the first failing step with its
error. -/
theorem runSteps_apply (steps : List Step) : ∃ ss rest, steps = ss ++ rest ∧
    Succeeds c.calls ss ∧
    (rest = [] ∧ runSteps steps c = .ok none { c with
        calls := c.calls ++ stepCalls ss
        kubeResources := recordSteps ss c.kubeResources } ∨
      ∃ s rest' made err, rest = s :: rest' ∧ StepFails (c.calls ++ stepCalls ss) s made err ∧
        runSteps steps c = .ok (some err) { c with
          calls := c.calls ++ stepCalls ss ++ made
          kubeResources := recordSteps ss c.kubeResources }) := by
  induction steps generalizing c with
  | nil => exact ⟨[], [], rfl, trivial, .inl ⟨rfl, by simp [runSteps, stepCalls, recordSteps]⟩⟩
  | cons s steps ih =>
      cases s with
      | fail e =>
          exact ⟨[], _, rfl, trivial,
            .inr ⟨_, _, [], e, rfl, ⟨rfl, rfl⟩, by simp [runSteps, stepCalls, recordSteps]⟩⟩
      | call call outcome record =>
          cases h : outcome (c.calls ++ [call]) with
          | some err =>
              refine ⟨[], _, rfl, trivial,
                .inr ⟨_, _, [call], err, rfl, ⟨rfl, by simpa [stepCalls] using h⟩, ?_⟩⟩
              simp [runSteps, bind_apply, h, stepCalls, recordSteps]
          | none =>
              obtain ⟨ss, rest, hs, hss, hrun⟩ := ih { c with
                calls := c.calls ++ [call]
                kubeResources := record c.kubeResources }
              refine ⟨.call call outcome record :: ss, rest, by simp [hs], ⟨h, hss⟩, ?_⟩
              simp only [runSteps, bind_apply, callRecording_apply, h, stepCalls,
                recordSteps] at hrun ⊢
              simpa using hrun

theorem runSteps_ok (steps : List Step) : ∃ r c', runSteps steps c = .ok r c' := by
  obtain ⟨_, _, _, _, ⟨_, h⟩ | ⟨_, _, _, _, _, _, h⟩⟩ := runSteps_apply c steps <;> exact ⟨_, _, h⟩

/-- A returning run of steps changes nothing but the calls and the resources, and makes
only calls of its steps. -/
theorem runSteps_calls (steps : List Step) {r : Option String} {c' : Cluster}
    (h : runSteps steps c = .ok r c') :
    ∃ made k, (∀ call ∈ made, call ∈ stepCalls steps) ∧
      c' = { c with calls := c.calls ++ made, kubeResources := k } := by
  induction steps generalizing c with
  | nil =>
      obtain ⟨-, rfl⟩ := EStateM.Result.ok.inj h
      exact ⟨[], c.kubeResources, by simp, by simp⟩
  | cons s steps ih =>
      cases s with
      | fail e =>
          obtain ⟨-, rfl⟩ := EStateM.Result.ok.inj h
          exact ⟨[], c.kubeResources, by simp, by simp⟩
      | call call outcome record =>
          simp only [runSteps, bind_apply, callRecording_apply] at h
          cases hout : outcome (c.calls ++ [call]) with
          | some err =>
              simp only [hout, pure_apply] at h
              obtain ⟨-, rfl⟩ := EStateM.Result.ok.inj h
              exact ⟨[call], _, by simp [stepCalls], rfl⟩
          | none =>
              simp only [hout] at h
              obtain ⟨made, k, hmade, rfl⟩ := ih _ h
              exact ⟨call :: made, k, by simp_all [stepCalls], by simp⟩

theorem runSteps_append (ss rest : List Step) :
    runSteps (ss ++ rest) c = match runSteps ss c with
      | .ok none c' => runSteps rest c'
      | r => r := by
  induction ss generalizing c with
  | nil => rfl
  | cons s ss ih =>
      cases s with
      | fail e => rfl
      | call call outcome record =>
          simp only [List.cons_append, runSteps, bind_apply, callRecording_apply]
          cases outcome (c.calls ++ [call]) with
          | some err => rfl
          | none => exact ih _

end Run

end PostgresOperator
