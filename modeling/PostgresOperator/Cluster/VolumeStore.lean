import PostgresOperator.Cluster.Runs
/-!
# The persistent-volume records across runs

Across a run of entry points the records an `Update` lists are the ones the earlier
entry points left with the API server. `runStored` closes a run over that store, which
has no other writer: each entry point lists the records stored when it starts, and its
record writes replace the stored ones (`storedRecords`). Once every record is at the
size every `Update` asks for, the store no longer changes (`runStored_settled`), and an
`Update` that returns no error brings it there (`runStored_update_settles`).
-/

namespace PostgresOperator

/-- The target size in GiB of an `Update` to `newSpec`, as `updateVolumes` computes it:
of the parsed volume size, or of `Quantity{}` when the size does not parse. -/
def updateTarget (env : Env) (newSpec : PostgresSpec) : Int :=
  sizeInGib (parseQuantity env newSpec.volume.size).1

/-- Every record is at `n` GiB. -/
def AtTarget (n : Int) (pvs : List PersistentVolume) : Prop :=
  ∀ pv ∈ pvs, offTarget n pv = false

/-- `env` with the API server listing the records `pvs`. -/
def Env.listing (env : Env) (pvs : List PersistentVolume) : Env :=
  { env with listPersistentVolumes := .ok pvs }

/-- A run of entry points against the API server's persistent-volume records: each lists
the records stored when it starts, and the records it writes replace the stored ones. -/
def runStored : List (Env × Op) → List PersistentVolume →
    ClusterM (List (Option String) × List PersistentVolume)
  | [], pvs => pure ([], pvs)
  | (env, op) :: ops, pvs => do
      let before := (← get).calls.length
      let r ← op.run (env.listing pvs)
      let made := (← get).calls.drop before
      let (rs, pvs') ← runStored ops (storedRecords pvs made)
      return (r :: rs, pvs')

/-! ### The store under calls -/

theorem storedRecords_append (pvs : List PersistentVolume) (calls calls' : List Call) :
    storedRecords pvs (calls ++ calls') = storedRecords (storedRecords pvs calls) calls' :=
  List.foldl_append _ _ _ _

/-- Calls that write no record leave the store as it was. -/
theorem storedRecords_of_not_recordWrite {pvs : List PersistentVolume} {calls : List Call}
    (h : ∀ call ∈ calls, ¬RecordWrite call) : storedRecords pvs calls = pvs := by
  induction calls generalizing pvs with
  | nil => rfl
  | cons call calls ih =>
      rw [List.forall_mem_cons] at h
      cases call <;> first
        | exact ih h.2
        | exact absurd trivial h.1

theorem storedRecords_of_not_resizeCall {pvs : List PersistentVolume} {calls : List Call}
    (h : ∀ call ∈ calls, ¬ResizeCall call) : storedRecords pvs calls = pvs :=
  storedRecords_of_not_recordWrite fun call hc hw => h call hc hw.resizeCall

/-! ### `updateVolumes` on the store -/

/-- On records all at the target, `updateVolumes` lists and connects, and changes no
volume. -/
theorem updateVolumes_atTarget (env : Env) (newVolume : Volume) (pvs : List PersistentVolume)
    (hl : env.listPersistentVolumes = .ok pvs)
    (hat : AtTarget (sizeInGib (parseQuantity env newVolume.size).1) pvs) (c c' : Cluster)
    (r : Option String) (h : updateVolumes env newVolume c = .ok r c') :
    ∃ vol, c'.calls = c.calls ++ vol ∧ ∀ call ∈ vol, ¬ResizeCall call := by
  refine ⟨[.listPersistentVolumes, .connectToEC2], ?_, by simp [ResizeCall]⟩
  cases hc : env.connectToEC2 <;>
    simp [updateVolumes, bind_apply, hl, hc, updateVolumesLoop_of_onTarget _ _ _ _ hat] at h <;>
    simp [← h.2]

/-- After an `updateVolumes` that returned no error, every stored record is at the
target. -/
theorem updateVolumes_stores_target (env : Env) (newVolume : Volume)
    (pvs : List PersistentVolume) (hl : env.listPersistentVolumes = .ok pvs) (c c' : Cluster)
    (h : updateVolumes env newVolume c = .ok none c') :
    ∃ vol, c'.calls = c.calls ++ vol ∧
      AtTarget (sizeInGib (parseQuantity env newVolume.size).1) (storedRecords pvs vol) := by
  cases hc : env.connectToEC2 <;> simp [updateVolumes, bind_apply, hl, hc] at h
  obtain ⟨made, hmade, hon⟩ := storedRecords_onTarget env _ pvs _ c' h
  refine ⟨[.listPersistentVolumes, .connectToEC2] ++ made, by simp [hmade], ?_⟩
  rw [storedRecords_append]
  exact hon

/-! ### What `Update` does to the volumes -/

/-- On records all at its target, a returning `Update` changes no volume. -/
theorem update_atTarget (env : Env) (newSpec : PostgresSpec) (pvs : List PersistentVolume)
    (hl : env.listPersistentVolumes = .ok pvs) (hat : AtTarget (updateTarget env newSpec) pvs)
    (c c' : Cluster) (r : Option String) (h : update env newSpec c = .ok r c') :
    ∃ made, c'.calls = c.calls ++ made ∧ ∀ call ∈ made, ¬ResizeCall call := by
  obtain ⟨made, hrun⟩ := update_spec env newSpec c c' r h
  obtain ⟨pre, vol, post, rfl, hpp, hvol⟩ := hrun.volumes
  have hv : ∀ call ∈ vol, ¬ResizeCall call := by
    rcases hvol with ⟨rfl, -⟩ | ⟨-, c₁, c₂, r₂, -, hu, hc₂, -⟩
    · simp
    · obtain ⟨vol', hvol', hres⟩ := updateVolumes_atTarget env _ pvs hl hat c₁ c₂ r₂ hu
      rwa [List.append_cancel_left (hc₂.symm.trans hvol')]
  refine ⟨pre ++ vol ++ post, hrun.calls, fun call hc => ?_⟩
  rcases List.mem_append.mp hc with hc | hc
  · rcases List.mem_append.mp hc with hc | hc
    · exact mt ResizeCall.volumeCall (hpp call (List.mem_append_left _ hc))
    · exact hv call hc
  · exact mt ResizeCall.volumeCall (hpp call (List.mem_append_right _ hc))

/-- A returning `Update` with a volume other than the cluster's that returns no error
leaves every stored record at its target. -/
theorem update_stores_target (env : Env) (newSpec : PostgresSpec) (pvs : List PersistentVolume)
    (hl : env.listPersistentVolumes = .ok pvs) (c c' : Cluster)
    (hchanged : (sameVolumeWith c.spec.volume newSpec.volume).1 = false)
    (h : update env newSpec c = .ok none c') :
    ∃ made, c'.calls = c.calls ++ made ∧
      AtTarget (updateTarget env newSpec) (storedRecords pvs made) := by
  obtain ⟨made, hrun⟩ := update_spec env newSpec c c' none h
  obtain ⟨pre, vol, post, rfl, hpp, hvol⟩ := hrun.volumes
  obtain ⟨-, c₁, c₂, r₂, -, hu, hc₂, hr₂⟩ :=
    hvol.resolve_left fun ⟨_, hsame⟩ => by simp [hsame rfl] at hchanged
  obtain rfl := hr₂ rfl
  obtain ⟨vol', hvol', hat⟩ := updateVolumes_stores_target env _ pvs hl c₁ c₂ hu
  obtain rfl := List.append_cancel_left (hc₂.symm.trans hvol')
  have hno : ∀ call ∈ pre ++ post, ¬RecordWrite call := fun call hc hw =>
    hpp call hc hw.resizeCall.volumeCall
  rw [List.forall_mem_append] at hno
  refine ⟨pre ++ vol ++ post, hrun.calls, ?_⟩
  rw [storedRecords_append, storedRecords_append, storedRecords_of_not_recordWrite hno.1,
    storedRecords_of_not_recordWrite hno.2]
  exact hat

/-! ### Runs against the store -/

/-- On records all at `n` GiB, a returning entry point changes no volume, when an
`Update` it may be asks for `n` GiB. -/
theorem Op.run_atTarget (env : Env) (op : Op) (n : Int) (pvs : List PersistentVolume)
    (hop : ∀ newSpec, op = .update newSpec → updateTarget env newSpec = n)
    (hat : AtTarget n pvs) (c c' : Cluster) (r : Option String)
    (h : op.run (env.listing pvs) c = .ok r c') :
    ∃ made, c'.calls = c.calls ++ made ∧ ∀ call ∈ made, ¬ResizeCall call := by
  cases op with
  | create =>
      obtain ⟨made, hcalls, -, -, -, -, hmade⟩ := create_calls _ c c' r h
      exact ⟨made, hcalls, hmade⟩
  | update newSpec =>
      have htarget : updateTarget (env.listing pvs) newSpec = n := hop newSpec rfl
      exact update_atTarget _ newSpec pvs rfl (htarget ▸ hat) c c' r h
  | delete =>
      obtain ⟨made, k, hmade, rfl, -⟩ := delete_calls _ c c' r h
      exact ⟨made, rfl, fun call hc => (hmade call hc).2⟩

/-- One entry point of a run against the store, then the rest from the records it
left. -/
theorem runStored_cons {env : Env} {op : Op} {ops : List (Env × Op)}
    {pvs pvs' : List PersistentVolume} {c c' : Cluster} {rs : List (Option String)}
    (h : runStored ((env, op) :: ops) pvs c = .ok (rs, pvs') c') :
    ∃ r c₁ rs', op.run (env.listing pvs) c = .ok r c₁ ∧
      runStored ops (storedRecords pvs (c₁.calls.drop c.calls.length)) c₁ = .ok (rs', pvs') c' ∧
      rs = r :: rs' := by
  simp only [runStored, bind_apply, get_apply] at h
  cases h₁ : op.run (env.listing pvs) c with
  | error e c₁ => simp [h₁] at h
  | ok r c₁ =>
      cases h₂ : runStored ops (storedRecords pvs (c₁.calls.drop c.calls.length)) c₁ with
      | error e c₂ => simp [h₁, h₂] at h
      | ok p c₂ =>
          simp [h₁, h₂] at h
          obtain ⟨⟨rfl, rfl⟩, rfl⟩ := h
          exact ⟨r, c₁, p.1, rfl, h₂, rfl⟩

/-- Induction over a run from records all at `n` GiB, in which every `Update` asks for
`n` GiB: the store stays as it was and no call changes a volume. -/
theorem runStored_of_atTarget (n : Int) (ops : List (Env × Op))
    (hops : ∀ e ∈ ops, ∀ newSpec, e.2 = .update newSpec → updateTarget e.1 newSpec = n)
    (pvs : List PersistentVolume) (hat : AtTarget n pvs) (c c' : Cluster)
    (rs : List (Option String)) (pvs' : List PersistentVolume)
    (h : runStored ops pvs c = .ok (rs, pvs') c') :
    pvs' = pvs ∧ ∃ made, c'.calls = c.calls ++ made ∧ ∀ call ∈ made, ¬ResizeCall call := by
  induction ops generalizing c rs with
  | nil =>
      simp only [runStored, pure_apply, EStateM.Result.ok.injEq, Prod.mk.injEq] at h
      obtain ⟨⟨-, rfl⟩, rfl⟩ := h
      exact ⟨rfl, [], by simp, by simp⟩
  | cons e ops ih =>
      obtain ⟨env, op⟩ := e
      obtain ⟨r, c₁, rs', h₁, h₂, -⟩ := runStored_cons h
      obtain ⟨made, hcalls, hmade⟩ :=
        Op.run_atTarget env op n pvs (hops _ (List.mem_cons_self _ _)) hat c c₁ r h₁
      rw [hcalls, List.drop_left, storedRecords_of_not_resizeCall hmade] at h₂
      obtain ⟨rfl, made', hcalls', hmade'⟩ :=
        ih (fun e he => hops e (List.mem_cons_of_mem _ he)) c₁ rs' h₂
      exact ⟨rfl, made ++ made', by simp [hcalls', hcalls],
        List.forall_mem_append.2 ⟨hmade, hmade'⟩⟩

/-- Along every returning run from a store whose records are all at `n` GiB, in which
every `Update` asks for a size of `n` GiB, the store never changes, and no entry point
resizes a device or a filesystem or writes a record. -/
theorem runStored_settled (n : Int) (ops : List (Env × Op))
    (hops : ∀ e ∈ ops, ∀ newSpec, e.2 = .update newSpec → updateTarget e.1 newSpec = n)
    (pvs : List PersistentVolume) (hat : AtTarget n pvs) (c c' : Cluster)
    (rs : List (Option String)) (pvs' : List PersistentVolume)
    (h : runStored ops pvs c = .ok (rs, pvs') c') :
    pvs' = pvs ∧ ∃ made, c'.calls = c.calls ++ made ∧ ∀ call ∈ made, ¬ResizeCall call :=
  runStored_of_atTarget n ops hops pvs hat c c' rs pvs' h

/-- A store at 20 GiB: an `Update` asking for 20 GiB lists it and resizes nothing, and a
`Delete` follows. -/
theorem runStored_settled_sample :
    let env := Env.succeeding [] (fun _ => .ok ⟨21474836480⟩)
      fun spec => .ok (sampleStatefulSet spec.pgVersion)
    let c := sampleRunningCluster (sampleStatefulSet "9.6")
    let newSpec := { c.spec with volume := ⟨"20Gi", ""⟩ }
    let pvs := [withStorage samplePV ⟨21474836480⟩]
    AtTarget 20 pvs ∧ ∃ rs pvs' c',
      runStored [(env, .update newSpec), (env, .delete)] pvs c = .ok (rs, pvs') c' ∧
      pvs' = pvs ∧ ∃ made, c'.calls = c.calls ++ made ∧ ∀ call ∈ made, ¬ResizeCall call := by
  intro env c newSpec pvs
  let made₁ : List Call :=
    [.patchStatus .updating, .listPersistentVolumes, .connectToEC2, .patchStatus .running]
  let made₂ : List Call := [.deleteEndpoint, .deleteService, .deleteStatefulSet]
  have hat : AtTarget 20 pvs := by
    simp only [AtTarget, pvs, List.mem_singleton, forall_eq, offTarget, quantityAt_withStorage]
    rfl
  have hu : update (env.listing pvs) newSpec c =
      .ok none { c with status := .running, calls := made₁ } := rfl
  have hd : delete (env.listing (storedRecords pvs made₁))
      { c with status := .running, calls := made₁ } = .ok none { c with
        status := .running
        calls := made₁ ++ made₂
        kubeResources := ⟨none, none, ∅, none⟩ } := rfl
  have h : runStored [(env, .update newSpec), (env, .delete)] pvs c =
      .ok ([none, none], storedRecords (storedRecords pvs made₁) made₂) { c with
        status := .running
        calls := made₁ ++ made₂
        kubeResources := ⟨none, none, ∅, none⟩ } := by
    have hc : c.calls = [] := rfl
    simp only [runStored, Op.run, bind_apply, get_apply, hu, hc, List.length_nil, List.drop_zero,
      hd, List.drop_left, pure_apply]
  refine ⟨hat, _, _, _, h, runStored_settled 20 _ ?_ pvs hat c _ _ _ h⟩
  simp only [List.mem_cons, List.mem_singleton, List.not_mem_nil, or_false]
  rintro e (rfl | rfl) newSpec' ⟨⟩
  rfl

/-- An `Update` to a new volume that returns no error leaves every record at its target,
and a rest of the run that asks for the same size keeps the store and resizes nothing. -/
theorem runStored_update_settles (env : Env) (newSpec : PostgresSpec) (ops : List (Env × Op))
    (hops : ∀ e ∈ ops, ∀ newSpec',
      e.2 = .update newSpec' → updateTarget e.1 newSpec' = updateTarget env newSpec)
    (pvs : List PersistentVolume) (c c' : Cluster)
    (hchanged : (sameVolumeWith c.spec.volume newSpec.volume).1 = false)
    (rs : List (Option String)) (pvs' : List PersistentVolume)
    (h : runStored ((env, .update newSpec) :: ops) pvs c = .ok (none :: rs, pvs') c') :
    AtTarget (updateTarget env newSpec) pvs' ∧
      ∃ made₁ made₂, c'.calls = c.calls ++ made₁ ++ made₂ ∧ pvs' = storedRecords pvs made₁ ∧
        ∀ call ∈ made₂, ¬ResizeCall call := by
  obtain ⟨r, c₁, rs', h₁, h₂, hrs⟩ := runStored_cons h
  obtain ⟨rfl, -⟩ := List.cons.inj hrs
  obtain ⟨made₁, hcalls, hat⟩ := update_stores_target _ newSpec pvs rfl c c₁ hchanged h₁
  rw [hcalls, List.drop_left] at h₂
  obtain ⟨rfl, made₂, hcalls₂, hmade₂⟩ := runStored_of_atTarget _ ops hops _ hat c₁ c' rs' pvs' h₂
  exact ⟨hat, made₁, made₂, by simp [hcalls₂, hcalls], rfl, hmade₂⟩

/-- The running sample cluster updated from 10 GiB to 20 GiB against one record of
10 GiB: the service is unchanged, the device and the filesystem are resized and the
record is written, and the statefulset matches. -/
theorem update_resizes_sample :
    let env := (Env.succeeding [] (fun _ => .ok ⟨21474836480⟩)
      fun spec => .ok (sampleStatefulSet spec.pgVersion)).listing [samplePV]
    let c := sampleRunningCluster (sampleStatefulSet "9.6")
    update env { c.spec with volume := ⟨"20Gi", ""⟩ } c = .ok none { c with
      status := .running
      calls := [.patchStatus .updating, .listPersistentVolumes, .connectToEC2,
        .resizeVolume "vol-1" 20, .execCommand ⟨"default", "acid-0"⟩ resizeCommand,
        .updatePersistentVolume (withStorage samplePV ⟨21474836480⟩),
        .patchStatus .running] } := by
  intro env c
  -- section by section, each evaluated on its own
  let c₁ := { c with status := .updating, calls := [.patchStatus .updating] }
  let c₂ := { c₁ with calls := [.patchStatus .updating, .listPersistentVolumes, .connectToEC2,
    .resizeVolume "vol-1" 20, .execCommand ⟨"default", "acid-0"⟩ resizeCommand,
    .updatePersistentVolume (withStorage samplePV ⟨21474836480⟩)] }
  have hs : updateServiceSection env { c.spec with volume := ⟨"20Gi", ""⟩ } c₁ = .ok none c₁ :=
    rfl
  have hv : updateVolumeSection env { c.spec with volume := ⟨"20Gi", ""⟩ } c₁ = .ok none c₂ :=
    rfl
  have hss : updateStatefulSetSection env (sampleStatefulSet "9.6") c₂ = .ok none c₂ := rfl
  simp only [update, bind_apply, setStatus_apply]
  rw [show ({ c with status := .updating, calls := c.calls ++ [.patchStatus .updating] } :
    Cluster) = c₁ from rfl, hs]
  simp only [bind_apply, hv]
  rw [show env.genStatefulSet { c.spec with volume := ⟨"20Gi", ""⟩ } =
    .ok (sampleStatefulSet "9.6") from rfl]
  simp only [bind_apply, hss, setStatus_apply, pure_apply]
  rfl

/-- An `Update` from 10 GiB to 20 GiB resizes the volume and stores its record at
20 GiB; the `Delete` after it changes no volume. -/
theorem runStored_update_settles_sample :
    let env := Env.succeeding [] (fun _ => .ok ⟨21474836480⟩)
      fun spec => .ok (sampleStatefulSet spec.pgVersion)
    let c := sampleRunningCluster (sampleStatefulSet "9.6")
    let newSpec := { c.spec with volume := ⟨"20Gi", ""⟩ }
    (sameVolumeWith c.spec.volume newSpec.volume).1 = false ∧ ∃ rs pvs' c',
      runStored [(env, .update newSpec), (env, .delete)] [samplePV] c = .ok (none :: rs, pvs') c' ∧
      AtTarget (updateTarget env newSpec) pvs' ∧
      ∃ made₁ made₂, c'.calls = c.calls ++ made₁ ++ made₂ ∧
        pvs' = storedRecords [samplePV] made₁ ∧ ∀ call ∈ made₂, ¬ResizeCall call := by
  intro env c newSpec
  let made₁ : List Call :=
    [.patchStatus .updating, .listPersistentVolumes, .connectToEC2, .resizeVolume "vol-1" 20,
      .execCommand ⟨"default", "acid-0"⟩ resizeCommand,
      .updatePersistentVolume (withStorage samplePV ⟨21474836480⟩), .patchStatus .running]
  let made₂ : List Call := [.deleteEndpoint, .deleteService, .deleteStatefulSet]
  have hu : update (env.listing [samplePV]) newSpec c =
      .ok none { c with status := .running, calls := made₁ } := update_resizes_sample
  have hd : delete (env.listing (storedRecords [samplePV] made₁))
      { c with status := .running, calls := made₁ } = .ok none { c with
        status := .running
        calls := made₁ ++ made₂
        kubeResources := ⟨none, none, ∅, none⟩ } := rfl
  have h : runStored [(env, .update newSpec), (env, .delete)] [samplePV] c =
      .ok ([none, none], storedRecords (storedRecords [samplePV] made₁) made₂) { c with
        status := .running
        calls := made₁ ++ made₂
        kubeResources := ⟨none, none, ∅, none⟩ } := by
    have hc : c.calls = [] := rfl
    simp only [runStored, Op.run, bind_apply, get_apply, hu, hc, List.length_nil, List.drop_zero,
      hd, List.drop_left, pure_apply]
  exact ⟨rfl, _, _, _, h, runStored_update_settles env newSpec _ (by simp) [samplePV] c _ rfl _ _ h⟩

end PostgresOperator
