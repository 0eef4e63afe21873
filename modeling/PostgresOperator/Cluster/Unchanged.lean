import PostgresOperator.Cluster.VolumeStore
/-!
# Updates that find nothing to change

`Update` compares the desired manifest with the cluster in three places: the service's
allowed source ranges, the volume specification, and the statefulset generated from
the manifest against the live one. When all three agree, an `Update` makes no call but
its two status patches, and since it changes nothing the comparisons read, a whole run
of such `Update`s does the same. The volume is compared with the spec the cluster was
built with, which no entry point writes. A live statefulset without a container never
matches, so an `Update` that changes nothing else still writes it.
-/

namespace PostgresOperator

/-- A statefulset section whose comparison asks for no rolling update is its write. -/
theorem updateStatefulSetSection_of_compare (env : Env) (ss live : StatefulSet)
    (cmp : CompareResult) (c : Cluster) (hlive : c.kubeResources.statefulset = some live)
    (hcmp : compareStatefulSetWith live ss = some cmp) (hroll : cmp.rollingUpdate = false) :
    updateStatefulSetSection env ss c = writeStatefulSet env cmp ss c := by
  obtain ⟨r, c', hw, -, -⟩ := writeStatefulSet_spec env cmp ss c
  cases r <;> simp only [updateStatefulSetSection, pure_bind, bind_apply, get_apply, hlive, hcmp,
    hroll, Bool.false_eq_true, if_false, hw, pure_apply]

/-- With the service and the volume unchanged and a comparison that asks for no rolling
update, `Update` comes down to writing the statefulset, after the `Updating` patch and
followed by the `Running` patch when the write returns no error. -/
theorem update_of_same_service_volume (env : Env) (newSpec : PostgresSpec) (c : Cluster)
    (service : Service) (ss live : StatefulSet) (cmp : CompareResult)
    (hvolume : newSpec.volume = c.spec.volume) (hservice : c.kubeResources.service = some service)
    (hsame : (sameServiceWith service (env.genService newSpec.allowedSourceRanges)).1 = true)
    (hgen : env.genStatefulSet newSpec = .ok ss) (hlive : c.kubeResources.statefulset = some live)
    (hcmp : compareStatefulSetWith live ss = some cmp) (hroll : cmp.rollingUpdate = false) :
    update env newSpec c =
      match writeStatefulSet env cmp ss { c with
        status := .updating
        calls := c.calls ++ [.patchStatus .updating] } with
      | .ok none c' => .ok none { c' with
          status := .running
          calls := c'.calls ++ [.patchStatus .running] }
      | .ok (some err) c' => .ok (some err) c'
      | .error e c' => .error e c' := by
  rw [← updateStatefulSetSection_of_compare env ss live cmp { c with
    status := .updating
    calls := c.calls ++ [.patchStatus .updating] } hlive hcmp hroll]
  have hvol : (sameVolumeWith c.spec.volume newSpec.volume).1 = true := by
    simp [sameVolumeWith, hvolume]
  simp only [update, updateServiceSection, updateVolumeSection, bind_apply, setStatus_apply,
    get_apply, hservice, hsame, hvol, Bool.not_true, Bool.false_eq_true, if_false, pure_apply, hgen]
  split
  · next a c' h => cases a <;> simp only [h, bind_apply, setStatus_apply, pure_apply]
  · next e c' h => simp only [h]

/-- Nothing that `Update` compares has changed: the volume, the service's allowed source
ranges, and the statefulset, which is generated as the live one, with a container. -/
structure Unchanged (env : Env) (newSpec : PostgresSpec) (c : Cluster) : Prop where
  volume : newSpec.volume = c.spec.volume
  service : ∃ service, c.kubeResources.service = some service ∧
    (sameServiceWith service (env.genService newSpec.allowedSourceRanges)).1 = true
  statefulSet : ∃ ss, env.genStatefulSet newSpec = .ok ss ∧ c.kubeResources.statefulset = some ss ∧
    ss.template.containers ≠ []

/-- Whether nothing changed depends only on the spec and the resources of the cluster. -/
theorem Unchanged.congr {env : Env} {newSpec : PostgresSpec} {c c' : Cluster}
    (h : Unchanged env newSpec c) (hspec : c'.spec = c.spec)
    (hk : c'.kubeResources = c.kubeResources) : Unchanged env newSpec c' :=
  ⟨hspec ▸ h.volume, hk ▸ h.service, hk ▸ h.statefulSet⟩

/-- An `Update` that finds nothing changed patches `Updating` and then `Running`, and
makes no other call. -/
theorem update_of_unchanged (env : Env) (newSpec : PostgresSpec) (c : Cluster)
    (h : Unchanged env newSpec c) :
    update env newSpec c = .ok none { c with
      status := .running
      calls := c.calls ++ [.patchStatus .updating, .patchStatus .running] } := by
  obtain ⟨hvol, ⟨service, hs, hsame⟩, ⟨ss, hgen, hlive, hcont⟩⟩ := h
  rw [update_of_same_service_volume env newSpec c service ss ss _ hvol hs hsame hgen hlive
    (compareStatefulSetWith_self ss hcont) rfl]
  simp [writeStatefulSet]

/-- Along a run of `Update`s, each of which would find nothing changed in the cluster the
run starts from, every `Update` returns no error and makes only its two status patches,
and the run leaves the cluster `Running`: no service, volume or statefulset is touched. -/
theorem runOps_unchanged (updates : List (Env × PostgresSpec)) (c : Cluster)
    (hupdates : ∀ e ∈ updates, Unchanged e.1 e.2 c) :
    runOps (updates.map fun e => (e.1, .update e.2)) c =
      .ok (updates.map fun _ => none) { c with
        status := if updates.isEmpty then c.status else .running
        calls := c.calls ++
          updates.flatMap fun _ => [.patchStatus .updating, .patchStatus .running] } := by
  induction updates generalizing c with
  | nil => simp [runOps, Cluster.mk_eta]
  | cons e updates ih =>
      rw [List.forall_mem_cons] at hupdates
      have hrest := ih { c with
          status := .running
          calls := c.calls ++ [.patchStatus .updating, .patchStatus .running] }
        fun e' he' => (hupdates.2 e' he').congr rfl rfl
      simp only [List.map_cons, runOps, Op.run, bind_apply,
        update_of_unchanged e.1 e.2 c hupdates.1, hrest, pure_apply]
      simp [List.flatMap_cons]

/-- Two `Update`s of a running cluster to its own manifest. -/
theorem runOps_unchanged_sample :
    let env := Env.succeeding [] (fun _ => .error "")
      fun spec => .ok (sampleStatefulSet spec.pgVersion)
    let c := sampleRunningCluster (sampleStatefulSet "9.6")
    (∀ e ∈ [(env, c.spec), (env, c.spec)], Unchanged e.1 e.2 c) ∧
      runOps [(env, .update c.spec), (env, .update c.spec)] c =
        .ok [none, none] { c with
          status := .running
          calls := c.calls ++ [.patchStatus .updating, .patchStatus .running,
            .patchStatus .updating, .patchStatus .running] } := by
  intro env c
  have h : ∀ e ∈ [(env, c.spec), (env, c.spec)], Unchanged e.1 e.2 c := by
    simp only [List.mem_cons, List.mem_singleton, List.not_mem_nil, or_false, or_self]
    rintro e rfl
    exact ⟨rfl, ⟨_, rfl, rfl⟩, ⟨_, rfl, rfl, List.cons_ne_nil _ _⟩⟩
  exact ⟨h, runOps_unchanged _ c h⟩

/-- A live statefulset without a container does not match even the same statefulset, so
an `Update` that changes nothing else writes it in place, then patches `Running` after a
successful write and `UpdateFailed` after a failed one. -/
theorem update_rewrites_containerless (env : Env) (newSpec : PostgresSpec) (c : Cluster)
    (service : Service) (ss : StatefulSet) (hvolume : newSpec.volume = c.spec.volume)
    (hservice : c.kubeResources.service = some service)
    (hsame : (sameServiceWith service (env.genService newSpec.allowedSourceRanges)).1 = true)
    (hgen : env.genStatefulSet newSpec = .ok ss) (hlive : c.kubeResources.statefulset = some ss)
    (hempty : ss.template.containers = []) :
    ∃ r c', update env newSpec c = .ok r c' ∧
      c'.calls = c.calls ++ [.patchStatus .updating, .updateStatefulSet ss,
        .patchStatus c'.status] ∧
      (env.updateStatefulSet = none → r = none ∧ c'.status = .running) ∧
      (env.updateStatefulSet ≠ none → r ≠ none ∧ c'.status = .updateFailed) := by
  have hcmp : compareStatefulSetWith ss ss = some ⟨false, false, false, []⟩ := by
    simp [compareStatefulSetWith, hempty]
  rw [update_of_same_service_volume env newSpec c service ss ss _ hvolume hservice hsame hgen
    hlive hcmp rfl]
  cases hw : env.updateStatefulSet <;>
    simp [writeStatefulSet, callOrSetFailed, updateStatefulSet, bind_apply, hw, and_assoc]

/-- A running cluster whose statefulset has no container: an `Update` to its own
manifest writes the statefulset and ends `Running`. -/
theorem update_rewrites_containerless_sample :
    let ss : StatefulSet := ⟨1, ⟨∅, ∅, "", 30, []⟩, []⟩
    let env := Env.succeeding [] (fun _ => .error "") fun _ => .ok ss
    let c := sampleRunningCluster ss
    ∃ r c', update env c.spec c = .ok r c' ∧
      c'.calls = c.calls ++ [.patchStatus .updating, .updateStatefulSet ss,
        .patchStatus c'.status] ∧
      (env.updateStatefulSet = none → r = none ∧ c'.status = .running) ∧
      (env.updateStatefulSet ≠ none → r ≠ none ∧ c'.status = .updateFailed) := by
  intro ss env c
  exact update_rewrites_containerless env c.spec c _ ss rfl rfl rfl rfl rfl rfl

/-- After any run of entry points, an `Update` to the volume the cluster was built with
makes no volume call, whatever the run resized: no entry point writes the spec. -/
theorem update_skips_built_volume (ops : List (Env × Op)) (env : Env) (newSpec : PostgresSpec)
    (c c₁ c₂ : Cluster) (rs : List (Option String)) (r : Option String)
    (hrun : runOps ops c = .ok rs c₁) (hvolume : newSpec.volume = c.spec.volume)
    (h : update env newSpec c₁ = .ok r c₂) :
    ∃ made, c₂.calls = c₁.calls ++ made ∧ ∀ call ∈ made, ¬VolumeCall call := by
  have hspec : c₁.spec = c.spec :=
    runOps_keeps (fun c' => c'.spec = c.spec) ops
      (fun e _ _ _ _ hc he => (Op.run_spec e.1 e.2 he).trans hc) hrun rfl
  have hsame : (sameVolumeWith c₁.spec.volume newSpec.volume).1 = true := by
    simp [sameVolumeWith, hspec, hvolume]
  obtain ⟨made, hrun⟩ := update_spec env newSpec c₁ c₂ r h
  obtain ⟨pre, vol, post, rfl, hpp, hvol⟩ := hrun.volumes
  obtain ⟨rfl, -⟩ := hvol.resolve_right fun ⟨hchanged, _⟩ => by simp [hsame] at hchanged
  exact ⟨pre ++ post, by simp [hrun.calls], hpp⟩

/-- An `Update` of the sample cluster from 10 GiB to 20 GiB resizes the volume; the
`Update` back to 10 GiB after it returns no error and makes no volume call. -/
theorem update_skips_built_volume_sample :
    let env := (Env.succeeding [] (fun _ => .ok ⟨21474836480⟩)
      fun spec => .ok (sampleStatefulSet spec.pgVersion)).listing [samplePV]
    let c := sampleRunningCluster (sampleStatefulSet "9.6")
    ∃ c₁ c₂,
      runOps [(env, .update { c.spec with volume := ⟨"20Gi", ""⟩ })] c = .ok [none] c₁ ∧
      .resizeVolume "vol-1" 20 ∈ c₁.calls ∧ update env c.spec c₁ = .ok none c₂ ∧
      ∃ made, c₂.calls = c₁.calls ++ made ∧ ∀ call ∈ made, ¬VolumeCall call := by
  intro env c
  let c₁ : Cluster := { c with
    status := .running
    calls := [.patchStatus .updating, .listPersistentVolumes, .connectToEC2,
      .resizeVolume "vol-1" 20, .execCommand ⟨"default", "acid-0"⟩ resizeCommand,
      .updatePersistentVolume (withStorage samplePV ⟨21474836480⟩), .patchStatus .running] }
  have hu : update env { c.spec with volume := ⟨"20Gi", ""⟩ } c = .ok none c₁ :=
    update_resizes_sample
  have h₁ :
      runOps [(env, .update { c.spec with volume := ⟨"20Gi", ""⟩ })] c = .ok [none] c₁ := by
    simp only [runOps, Op.run, bind_apply, hu, pure_apply]
  have h₂ := update_of_unchanged env c.spec c₁
    ⟨rfl, ⟨_, rfl, rfl⟩, ⟨_, rfl, rfl, List.cons_ne_nil _ _⟩⟩
  exact ⟨_, _, h₁, by simp [c₁], h₂,
    update_skips_built_volume _ env c.spec c _ _ _ none h₁ rfl h₂⟩

end PostgresOperator
