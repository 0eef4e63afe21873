import PostgresOperator.Cluster.Compare
import PostgresOperator.Cluster.Resources

/-!
# Update

`Update` sets `Updating`, brings the service, the volumes and the statefulset to the
desired manifest section by section as in the source, and sets `Running` at its end.
The service and statefulset sections set `UpdateFailed` before they return an error.
The volume section and the generation of the statefulset return theirs with the status
still `Updating`.

## Implementation notes

Each section is specified on its own (`SectionRun`, `updateVolumeSection_spec`), and
`update_spec` composes them into an `UpdateRun`, which the later modules read.
-/

namespace PostgresOperator

/-- The shape `if err := action(); err != nil { c.setStatus(UpdateFailed); return msg(err) }`
that `Update` repeats for the service, the statefulset and the pods. -/
def callOrSetFailed (env : Env) (action : ClusterM (Option String)) (msg : String → String) :
    ClusterM (Option String) := do
  if let some err ← action then
    setStatus env .updateFailed
    return some (msg err)
  return none

/-- The service section of `Update`: a changed service is updated, and a failed update
sets `UpdateFailed`. A nil `c.Service` is a panic. -/
def updateServiceSection (env : Env) (newSpec : PostgresSpec) : ClusterM (Option String) := do
  let newService := env.genService newSpec.allowedSourceRanges
  let some service := (← get).kubeResources.service | goPanic "nil pointer dereference"
  if !(sameServiceWith service newService).1 then
    callOrSetFailed env (updateService env newService)
      fun err => s!"could not update service: {err}"
  else return none

/-- The volume section of `Update`: a changed volume specification resizes the
volumes, and a failure returns without setting a status. -/
def updateVolumeSection (env : Env) (newSpec : PostgresSpec) : ClusterM (Option String) := do
  if !(sameVolumeWith (← get).spec.volume newSpec.volume).1 then
    if let some err ← updateVolumes env newSpec.volume then
      return some s!"Could not update volumes: {err}"
  return none

/-- The block of `Update` that writes `newStatefulSet` when the comparison `cmp` found
a difference: an update in place, or a replacement when `cmp` asks for one. -/
def writeStatefulSet (env : Env) (cmp : CompareResult) (newStatefulSet : StatefulSet) :
    ClusterM (Option String) :=
  if !cmp.match then
    if !cmp.replace then
      callOrSetFailed env (updateStatefulSet env newStatefulSet)
        fun err => s!"could not upate statefulset: {err}"
    else
      callOrSetFailed env (replaceStatefulSet env newStatefulSet)
        fun err => s!"could not replace statefulset: {err}"
  else pure none

/-- The statefulset section of `Update`: unless it matches, the statefulset is updated or
replaced and a rolling update recreates the pods; each failure sets `UpdateFailed`. -/
def updateStatefulSetSection (env : Env) (newStatefulSet : StatefulSet) :
    ClusterM (Option String) := do
  let some statefulset := (← get).kubeResources.statefulset | goPanic "nil pointer dereference"
  let some cmp := compareStatefulSetWith statefulset newStatefulSet | goPanic "index out of range"
  if let some err ← writeStatefulSet env cmp newStatefulSet then return some err
  if cmp.rollingUpdate then
    callOrSetFailed env (recreatePods env) fun err => s!"could not recreate pods: {err}"
  else return none

/-- `Update` with the desired manifest's spec `newSpec`, section by section; the
statefulset is generated from `newSpec`. -/
def update (env : Env) (newSpec : PostgresSpec) : ClusterM (Option String) := do
  setStatus env .updating
  if let some err ← updateServiceSection env newSpec then return some err
  if let some err ← updateVolumeSection env newSpec then return some err
  match env.genStatefulSet newSpec with
  | .error err => return some s!"could not generate statefulset: {err}"
  | .ok newStatefulSet =>
      if let some err ← updateStatefulSetSection env newStatefulSet then return some err
      setStatus env .running
      return none

/-! ### The sections -/

/-- A returning run of a section of `Update` that makes only calls of `allowed`, and
sets `UpdateFailed`, patching it once and no other status, exactly when it returns an
error. -/
def SectionRun (allowed : List Call) (c : Cluster) (r : Option String) (c' : Cluster) : Prop :=
  ∃ made k, (∀ call ∈ made, call ∈ allowed) ∧
    patches made = (if r.isSome then [.updateFailed] else []) ∧
    c' = { c with
      status := if r.isSome then .updateFailed else c.status
      calls := c.calls ++ made
      kubeResources := k }

theorem SectionRun.trans {allowed : List Call} {c c₁ c' : Cluster} {r : Option String}
    (h₁ : SectionRun allowed c none c₁) (h₂ : SectionRun allowed c₁ r c') :
    SectionRun allowed c r c' := by
  obtain ⟨m₁, k₁, hm₁, hp₁, rfl⟩ := h₁
  obtain ⟨m₂, k₂, hm₂, hp₂, rfl⟩ := h₂
  exact ⟨m₁ ++ m₂, k₂, List.forall_mem_append.2 ⟨hm₁, hm₂⟩, by simp_all, by simp⟩

theorem callOrSetFailed_sectionRun (env : Env) (allowed : List Call) {call : Call}
    {action : ClusterM (Option String)} (msg : String → String) (c : Cluster)
    (h : OneCall call action) (hcall : call ∈ allowed) (hpatch : call.patched = none)
    (hfailed : .patchStatus .updateFailed ∈ allowed) :
    ∃ r c', callOrSetFailed env action msg c = .ok r c' ∧ SectionRun allowed c r c' ∧
      ∀ err, r = some err → ∃ e, err = msg e := by
  obtain ⟨r, k, hx⟩ := h c
  cases r with
  | none =>
      refine ⟨none, { c with calls := c.calls ++ [call], kubeResources := k },
        by simp [callOrSetFailed, bind_apply, hx], ⟨[call], k, by simpa using hcall,
          by simp [hpatch], by simp⟩, by simp⟩
  | some err =>
      refine ⟨some (msg err), { c with
          status := .updateFailed
          calls := c.calls ++ [call, .patchStatus .updateFailed]
          kubeResources := k },
        by simp [callOrSetFailed, bind_apply, hx], ⟨[call, .patchStatus .updateFailed], k,
          by simp [hcall, hfailed], by rw [patches_cons, hpatch]; rfl, by simp⟩,
        fun _ h => ⟨err, (Option.some.inj h).symm⟩⟩

theorem updateServiceSection_spec (env : Env) (newSpec : PostgresSpec) (c c' : Cluster)
    (r : Option String) (h : updateServiceSection env newSpec c = .ok r c') :
    SectionRun [.updateService (env.genService newSpec.allowedSourceRanges),
      .patchStatus .updateFailed] c r c' ∧
      ∀ err, r = some err → ∃ e : String, err = s!"could not update service: {e}" := by
  obtain ⟨service, hs⟩ : ∃ service, c.kubeResources.service = some service := by
    cases hs : c.kubeResources.service with
    | none => simp [updateServiceSection, bind_apply, hs] at h
    | some service => exact ⟨service, rfl⟩
  by_cases hsame : (sameServiceWith service (env.genService newSpec.allowedSourceRanges)).1
  · simp only [updateServiceSection, bind_apply, get_apply, hs, hsame, Bool.not_true,
      Bool.false_eq_true, if_false, pure_apply] at h
    obtain ⟨rfl, rfl⟩ := EStateM.Result.ok.inj h
    exact ⟨⟨[], c.kubeResources, by simp, by simp, by simp⟩, by simp⟩
  · obtain ⟨r₁, c₁, hcall, hrun⟩ := callOrSetFailed_sectionRun env
      [.updateService (env.genService newSpec.allowedSourceRanges), .patchStatus .updateFailed]
      (fun err => s!"could not update service: {err}") c
      (updateService_oneCall env (env.genService newSpec.allowedSourceRanges))
      (by simp) rfl (by simp)
    simp only [updateServiceSection, bind_apply, get_apply, hs, hsame, Bool.not_false, if_true,
      hcall] at h
    obtain ⟨rfl, rfl⟩ := EStateM.Result.ok.inj h
    exact hrun

/-- The volume calls `vol` of an `Update` to `newSpec` from `c`, made after the calls
`pre`, of a run that returns `r`: none, on an unchanged volume or after an earlier
error, or those of one run of `updateVolumes` on a changed volume. -/
def VolumeRun (env : Env) (newSpec : PostgresSpec) (c : Cluster) (pre vol : List Call)
    (r : Option String) : Prop :=
  vol = [] ∧ (r = none → (sameVolumeWith c.spec.volume newSpec.volume).1 = true) ∨
    (sameVolumeWith c.spec.volume newSpec.volume).1 = false ∧
      ∃ c₁ c₂ r₂, c₁.calls = c.calls ++ pre ∧ updateVolumes env newSpec.volume c₁ = .ok r₂ c₂ ∧
        c₂.calls = c₁.calls ++ vol ∧ (r = none → r₂ = none)

/-- What the volume section allows when it returned no error, it allows whatever the
run returns afterwards. -/
theorem VolumeRun.of_none {env : Env} {newSpec : PostgresSpec} {c : Cluster}
    {pre vol : List Call} (h : VolumeRun env newSpec c pre vol none) (r : Option String) :
    VolumeRun env newSpec c pre vol r := by
  rcases h with ⟨hvol, hsame⟩ | ⟨hchanged, c₁, c₂, r₂, hpre, hu, hc₂, hr₂⟩
  · exact .inl ⟨hvol, fun _ => hsame rfl⟩
  · exact .inr ⟨hchanged, c₁, c₂, r₂, hpre, hu, hc₂, fun _ => hr₂ rfl⟩

/-- The volume section, run after the calls `pre` of an `Update` from `c`, makes only
volume calls, and those of one run of `updateVolumes` when the volume changed; its error
names the volumes. -/
theorem updateVolumeSection_spec (env : Env) (newSpec : PostgresSpec) (c : Cluster)
    (pre : List Call) {c₁ c₂ : Cluster} {r₂ : Option String} (hspec : c₁.spec = c.spec)
    (hpre : c₁.calls = c.calls ++ pre) (h : updateVolumeSection env newSpec c₁ = .ok r₂ c₂) :
    ∃ vol, c₂ = { c₁ with calls := c₁.calls ++ vol } ∧ (∀ call ∈ vol, VolumeCall call) ∧
      VolumeRun env newSpec c pre vol r₂ ∧
      ∀ err, r₂ = some err → ∃ e : String, err = s!"Could not update volumes: {e}" := by
  simp only [updateVolumeSection, bind_apply, get_apply, hspec] at h
  cases hsame : (sameVolumeWith c.spec.volume newSpec.volume).1
  · cases hv : updateVolumes env newSpec.volume c₁ with
    | error e c₃ => simp [bind_apply, hsame, hv] at h
    | ok r₃ c₃ =>
        obtain ⟨vol, hvol, rfl, -⟩ := updateVolumes_calls_within env newSpec.volume c₁ c₃ r₃ hv
        have hrun : ∀ r, (r = none → r₃ = none) → VolumeRun env newSpec c pre vol r :=
          fun _ hr => .inr ⟨hsame, c₁, _, r₃, hpre, hv, rfl, hr⟩
        cases r₃ <;> simp [bind_apply, hsame, hv] at h <;> obtain ⟨rfl, rfl⟩ := h
        · exact ⟨vol, rfl, hvol, hrun _ fun _ => rfl, by simp⟩
        · exact ⟨vol, rfl, hvol, hrun _ (by simp), fun _ h => ⟨_, (Option.some.inj h).symm⟩⟩
  · simp [hsame] at h
    obtain ⟨rfl, rfl⟩ := h
    exact ⟨[], by simp, by simp, .inl ⟨rfl, fun _ => hsame⟩, by simp⟩

/-- The calls the statefulset section may make for the generated `ss`. -/
def statefulSetSectionCalls (ss : StatefulSet) : List Call :=
  [.updateStatefulSet ss, .replaceStatefulSet ss, .recreatePods, .patchStatus .updateFailed]

theorem writeStatefulSet_spec (env : Env) (cmp : CompareResult) (ss : StatefulSet) (c : Cluster) :
    ∃ r c', writeStatefulSet env cmp ss c = .ok r c' ∧
      SectionRun (statefulSetSectionCalls ss) c r c' ∧
      ∀ err, r = some err → ∃ rest, err = "could not " ++ rest := by
  unfold writeStatefulSet
  split
  · split
    · obtain ⟨r, c', h, hrun, hmsg⟩ := callOrSetFailed_sectionRun env
        (statefulSetSectionCalls ss) (fun err => s!"could not upate statefulset: {err}") c
        (updateStatefulSet_oneCall env ss)
        (by simp [statefulSetSectionCalls]) rfl (by simp [statefulSetSectionCalls])
      refine ⟨r, c', h, hrun, fun err hr => ?_⟩
      obtain ⟨e, rfl⟩ := hmsg err hr
      exact ⟨"upate statefulset: " ++ e, by simp [toString, ← String.append_assoc]⟩
    · obtain ⟨r, c', h, hrun, hmsg⟩ := callOrSetFailed_sectionRun env
        (statefulSetSectionCalls ss) (fun err => s!"could not replace statefulset: {err}") c
        (replaceStatefulSet_oneCall env ss)
        (by simp [statefulSetSectionCalls]) rfl (by simp [statefulSetSectionCalls])
      refine ⟨r, c', h, hrun, fun err hr => ?_⟩
      obtain ⟨e, rfl⟩ := hmsg err hr
      exact ⟨"replace statefulset: " ++ e, by simp [toString, ← String.append_assoc]⟩
  · exact ⟨none, c, rfl, ⟨[], c.kubeResources, by simp, by simp, by simp⟩, by simp⟩

theorem updateStatefulSetSection_spec (env : Env) (ss : StatefulSet) (c c' : Cluster)
    (r : Option String) (h : updateStatefulSetSection env ss c = .ok r c') :
    SectionRun (statefulSetSectionCalls ss) c r c' ∧
      ∀ err, r = some err → ∃ rest, err = "could not " ++ rest := by
  obtain ⟨statefulset, hs⟩ : ∃ statefulset, c.kubeResources.statefulset = some statefulset := by
    cases hs : c.kubeResources.statefulset with
    | none => simp [updateStatefulSetSection, bind_apply, hs] at h
    | some statefulset => exact ⟨statefulset, rfl⟩
  obtain ⟨cmp, hcmp⟩ : ∃ cmp, compareStatefulSetWith statefulset ss = some cmp := by
    cases hc : compareStatefulSetWith statefulset ss with
    | none => simp [updateStatefulSetSection, bind_apply, hs, hc] at h
    | some cmp => exact ⟨cmp, rfl⟩
  obtain ⟨w, c₁, hw, hw₁, hmsg₁⟩ := writeStatefulSet_spec env cmp ss c
  simp only [updateStatefulSetSection, bind_apply, get_apply, hs, hcmp, hw] at h
  cases w with
  | some err =>
      obtain ⟨rfl, rfl⟩ := EStateM.Result.ok.inj h
      exact ⟨hw₁, hmsg₁⟩
  | none =>
      cases hro : cmp.rollingUpdate
      · simp only [hro, bind_apply, pure_apply, Bool.false_eq_true, if_false] at h
        obtain ⟨rfl, rfl⟩ := EStateM.Result.ok.inj h
        exact ⟨hw₁, hmsg₁⟩
      · obtain ⟨r₂, c₂, hp, hw₂, hmsg₂⟩ := callOrSetFailed_sectionRun env
          (statefulSetSectionCalls ss) (fun err => s!"could not recreate pods: {err}") c₁
          (recreatePods_oneCall env)
          (by simp [statefulSetSectionCalls]) rfl (by simp [statefulSetSectionCalls])
        simp only [hro, bind_apply, pure_apply, if_true, hp] at h
        obtain ⟨rfl, rfl⟩ := EStateM.Result.ok.inj h
        refine ⟨hw₁.trans hw₂, fun err hr => ?_⟩
        obtain ⟨e, rfl⟩ := hmsg₂ err hr
        exact ⟨"recreate pods: " ++ e, by simp [toString, ← String.append_assoc]⟩

/-! ### The runs of `Update` -/

/-- The errors after which `Update` returns with its status still `Updating`: those of
the volume section and of the generation of the statefulset. -/
def UpdateStopsEarly (env : Env) (newSpec : PostgresSpec) (r : Option String) : Prop :=
  (∃ e : String, r = some s!"Could not update volumes: {e}") ∨
    ∃ e, env.genStatefulSet newSpec = .error e ∧ r = some s!"could not generate statefulset: {e}"

/-- The error of the service section is not one after which `Update` stops early: it
starts with `could not u`. -/
theorem not_updateStopsEarly_of_service (env : Env) (newSpec : PostgresSpec) (e : String) :
    ¬UpdateStopsEarly env newSpec (some s!"could not update service: {e}") := by
  rintro (⟨e', he⟩ | ⟨e', -, he⟩)
  · have := congrArg (fun o => o.map fun s : String => s.data.head?) he
    simp [toString, String.data_append] at this
  · have := congrArg (fun o => o.map fun s : String => s.data.take 11) he
    simp [toString, String.data_append] at this

/-- An error of the statefulset section, after a successful generation, is not one after
which `Update` stops early: it starts with a lower-case `could not`. -/
theorem not_updateStopsEarly_of_statefulSet {env : Env} {newSpec : PostgresSpec}
    {ss : StatefulSet} (hgen : env.genStatefulSet newSpec = .ok ss) (rest : String) :
    ¬UpdateStopsEarly env newSpec (some ("could not " ++ rest)) := by
  rintro (⟨e, he⟩ | ⟨e, hg, -⟩)
  · have := congrArg (fun o => o.map fun s : String => s.data.head?) he
    simp [toString, String.data_append] at this
  · simp [hgen] at hg

theorem VolumeCall.patched {call : Call} (h : VolumeCall call) : call.patched = none := by
  cases call <;> simp_all [VolumeCall, Call.patched]

/-- Whether a call writes the statefulset `ss`. -/
def StatefulSetWrite (ss : StatefulSet) (call : Call) : Prop :=
  call = .updateStatefulSet ss ∨ call = .replaceStatefulSet ss

/-- What a returning run of `Update` to `newSpec` from `c` did, making the calls
`made` and returning `r`. -/
structure UpdateRun (env : Env) (newSpec : PostgresSpec) (c : Cluster) (r : Option String)
    (c' : Cluster) (made : List Call) : Prop where
  calls : c'.calls = c.calls ++ made
  /-- Its volume calls are those of at most one run of `updateVolumes`. -/
  volumes : ∃ pre vol post, made = pre ++ vol ++ post ∧ (∀ call ∈ pre ++ post, ¬VolumeCall call) ∧
    VolumeRun env newSpec c pre vol r
  /-- It writes only the statefulset generated from `newSpec`. -/
  writes : ∀ call ∈ made, ∀ ss, StatefulSetWrite ss call → env.genStatefulSet newSpec = .ok ss
  status : r = none ∧ c'.status = .running ∨
    r ≠ none ∧ ¬UpdateStopsEarly env newSpec r ∧ c'.status = .updateFailed ∨
    c'.status = .updating ∧ UpdateStopsEarly env newSpec r
  patches : patches made = .updating :: (if c'.status = .updating then [] else [c'.status])
  spec : c'.spec = c.spec
  pgUsers : c'.pgUsers = c.pgUsers

/-- Every returning run of `Update` is an `UpdateRun`. -/
theorem update_spec (env : Env) (newSpec : PostgresSpec) (c c' : Cluster) (r : Option String)
    (h : update env newSpec c = .ok r c') : ∃ made, UpdateRun env newSpec c r c' made := by
  simp only [update, bind_apply, setStatus_apply] at h
  cases hs : updateServiceSection env newSpec
      { c with status := .updating, calls := c.calls ++ [.patchStatus .updating] } with
  | error e c₁ => simp [hs] at h
  | ok r₁ c₁ =>
  obtain ⟨⟨m₁, k₁, hm₁, hp₁, hc₁⟩, hmsg₁⟩ := updateServiceSection_spec env newSpec _ c₁ r₁ hs
  -- the `Updating` patch and the service section write no statefulset and touch no volume
  have hA : ∀ call ∈ Call.patchStatus .updating :: m₁,
      (∀ ss, ¬StatefulSetWrite ss call) ∧ ¬VolumeCall call := by
    intro call hc
    rcases List.mem_cons.mp hc with rfl | hc
    · simp [StatefulSetWrite, VolumeCall]
    · rcases List.mem_pair.mp (hm₁ call hc) with rfl | rfl <;> simp [StatefulSetWrite, VolumeCall]
  cases r₁ with
  | some err =>
      simp only [hs, pure_apply] at h
      obtain ⟨rfl, rfl⟩ := EStateM.Result.ok.inj h
      obtain ⟨e, rfl⟩ := hmsg₁ err rfl
      exact ⟨Call.patchStatus .updating :: m₁, by simp [hc₁],
        ⟨Call.patchStatus .updating :: m₁, [], [], by simp,
          by simpa using fun call hc => (hA call hc).2,
          .inl ⟨rfl, fun h => by cases h⟩⟩, fun call hc ss hw => absurd hw ((hA call hc).1 ss),
        .inr (.inl ⟨by simp, not_updateStopsEarly_of_service env newSpec e, by simp [hc₁]⟩),
        by simp [hc₁, hp₁, Call.patched], by simp [hc₁], by simp [hc₁]⟩
  | none =>
  simp only [hs, bind_apply, pure_apply] at h
  cases hv : updateVolumeSection env newSpec c₁ with
  | error e c₂ => simp [hv] at h
  | ok r₂ c₂ =>
  obtain ⟨m₂, rfl, hm₂, hvol, hmsg₂⟩ :=
    updateVolumeSection_spec env newSpec c (.patchStatus .updating :: m₁) (by simp [hc₁])
      (by simp [hc₁]) hv
  -- after the volume section the status is still `Updating`, and no statefulset is written
  have hB : ∀ call ∈ Call.patchStatus .updating :: m₁ ++ m₂, ∀ ss, ¬StatefulSetWrite ss call := by
    intro call hc ss hw
    rcases List.mem_append.mp hc with hc | hc
    · exact (hA call hc).1 ss hw
    · rcases hw with rfl | rfl <;> exact hm₂ _ hc
  have hpB : patches m₁ = [] ∧ patches m₂ = [] :=
    ⟨by simpa using hp₁, patches_eq_nil m₂ fun call hc => (hm₂ call hc).patched⟩
  have hpre : ∀ call ∈ Call.patchStatus .updating :: m₁, ¬VolumeCall call := fun call hc =>
    (hA call hc).2
  cases r₂ with
  | some err =>
      simp only [hv, pure_apply] at h
      obtain ⟨rfl, rfl⟩ := EStateM.Result.ok.inj h
      obtain ⟨e, rfl⟩ := hmsg₂ err rfl
      exact ⟨Call.patchStatus .updating :: m₁ ++ m₂, by simp [hc₁],
        ⟨Call.patchStatus .updating :: m₁, m₂, [], by simp, by simpa using hpre, hvol⟩,
        fun call hc ss hw => absurd hw (hB call hc ss), .inr (.inr ⟨by simp [hc₁], .inl ⟨e, rfl⟩⟩),
        by simp [hc₁, hpB, Call.patched], by simp [hc₁], by simp [hc₁]⟩
  | none =>
  cases hg : env.genStatefulSet newSpec with
  | error e =>
      simp only [hv, hg, pure_apply] at h
      obtain ⟨rfl, rfl⟩ := EStateM.Result.ok.inj h
      exact ⟨Call.patchStatus .updating :: m₁ ++ m₂, by simp [hc₁],
        ⟨Call.patchStatus .updating :: m₁, m₂, [], by simp, by simpa using hpre,
          hvol.of_none _⟩,
        fun call hc ss hw => absurd hw (hB call hc ss),
        .inr (.inr ⟨by simp [hc₁], .inr ⟨e, hg, rfl⟩⟩), by simp [hc₁, hpB, Call.patched],
        by simp [hc₁], by simp [hc₁]⟩
  | ok ss =>
  simp only [hv, hg, bind_apply, pure_apply] at h
  cases hss : updateStatefulSetSection env ss { c₁ with calls := c₁.calls ++ m₂ } with
  | error e c₃ => simp [hss] at h
  | ok r₃ c₃ =>
  obtain ⟨⟨m₃, k₃, hm₃, hp₃, hc₃⟩, hmsg₃⟩ := updateStatefulSetSection_spec env ss _ c₃ r₃ hss
  -- the statefulset section writes only `ss`, and touches no volume
  have hL₃ : ∀ call ∈ statefulSetSectionCalls ss,
      (∀ ss', StatefulSetWrite ss' call → ss' = ss) ∧ ¬VolumeCall call := by
    simp [statefulSetSectionCalls, StatefulSetWrite, VolumeCall, eq_comm]
  have hC : ∀ call ∈ Call.patchStatus .updating :: m₁ ++ m₂ ++ m₃, ∀ ss',
      StatefulSetWrite ss' call → env.genStatefulSet newSpec = .ok ss' := by
    intro call hc ss' hw
    rcases List.mem_append.mp hc with hc | hc
    · exact absurd hw (hB call hc ss')
    · rw [hg, (hL₃ call (hm₃ call hc)).1 ss' hw]
  have hpost : ∀ call ∈ m₃, ¬VolumeCall call := fun call hc => (hL₃ call (hm₃ call hc)).2
  cases r₃ with
  | some err =>
      simp only [hss, pure_apply] at h
      obtain ⟨rfl, rfl⟩ := EStateM.Result.ok.inj h
      obtain ⟨rest, rfl⟩ := hmsg₃ err rfl
      exact ⟨Call.patchStatus .updating :: m₁ ++ m₂ ++ m₃, by simp [hc₃, hc₁],
        ⟨Call.patchStatus .updating :: m₁, m₂, m₃, by simp,
          List.forall_mem_append.2 ⟨hpre, hpost⟩, hvol.of_none _⟩, hC,
        .inr (.inl ⟨by simp, not_updateStopsEarly_of_statefulSet hg rest, by simp [hc₃]⟩),
        by simp [hc₃, hp₃, hpB, Call.patched], by simp [hc₃, hc₁], by simp [hc₃, hc₁]⟩
  | none =>
      simp only [hss, bind_apply, setStatus_apply, pure_apply] at h
      obtain ⟨rfl, rfl⟩ := EStateM.Result.ok.inj h
      refine ⟨Call.patchStatus .updating :: m₁ ++ m₂ ++ m₃ ++ [.patchStatus .running],
        by simp [hc₃, hc₁],
        ⟨Call.patchStatus .updating :: m₁, m₂, m₃ ++ [.patchStatus .running], by simp,
          List.forall_mem_append.2 ⟨hpre, List.forall_mem_append.2 ⟨hpost, by simp [VolumeCall]⟩⟩,
          hvol⟩,
        fun call hc ss' hw => ?_, .inl ⟨rfl, rfl⟩, by simp [hp₃, hpB, Call.patched],
        by simp [hc₃, hc₁], by simp [hc₃, hc₁]⟩
      rcases List.mem_append.mp hc with hc | hc
      · exact hC call hc ss' hw
      · rw [List.mem_singleton.mp hc] at hw
        simp [StatefulSetWrite] at hw

/-- A returning run of `Update` ends `Running` with no error or `UpdateFailed` with an
error, except after the error of the volume section or of the statefulset generation,
which return with the status still `Updating`. -/
theorem update_status (env : Env) (newSpec : PostgresSpec) (c c' : Cluster) (r : Option String)
    (h : update env newSpec c = .ok r c') :
    r = none ∧ c'.status = .running ∨ r ≠ none ∧ c'.status = .updateFailed ∨
      c'.status = .updating ∧ ((∃ e : String, r = some s!"Could not update volumes: {e}") ∨
        ∃ e, env.genStatefulSet newSpec = .error e ∧
          r = some s!"could not generate statefulset: {e}") := by
  obtain ⟨made, hrun⟩ := update_spec env newSpec c c' r h
  rcases hrun.status with h | ⟨hr, -, hs⟩ | h
  exacts [.inl h, .inr (.inl ⟨hr, hs⟩), .inr (.inr h)]

/-- A sample cluster for runs of `Update`: running, with the endpoint, a service and
the statefulset `statefulSet`. -/
def sampleRunningCluster (statefulSet : StatefulSet) : Cluster :=
  { sampleCluster with kubeResources := ⟨some ⟨[]⟩, some ⟨⟩, ∅, some statefulSet⟩ }

theorem update_volume_failure_keeps_updating :
    let env := { Env.succeeding [] (fun _ => .ok ⟨21474836480⟩)
        fun spec => .ok (sampleStatefulSet spec.pgVersion) with
      listPersistentVolumes := .error "the server is currently unable to handle the request" }
    let c := sampleRunningCluster (sampleStatefulSet "9.6")
    let newSpec := { c.spec with volume := ⟨"20Gi", ""⟩ }
    ∃ r c', update env newSpec c = .ok r c' ∧ r ≠ none ∧ c'.status = .updating ∧
      (r = none ∧ c'.status = .running ∨ r ≠ none ∧ c'.status = .updateFailed ∨
        c'.status = .updating ∧ ((∃ e : String, r = some s!"Could not update volumes: {e}") ∨
          ∃ e, env.genStatefulSet newSpec = .error e ∧
            r = some s!"could not generate statefulset: {e}")) := by
  intro env c newSpec
  exact ⟨_, _, rfl, by simp, rfl, update_status env newSpec c _ _ rfl⟩

/-- Every statefulset that a returning run of `Update` writes, in place or by
replacement, is the one generated from the desired spec `newSpec`, and so carries its
PostgreSQL version. -/
theorem update_writes_generated_statefulSet (env : Env) (newSpec : PostgresSpec) (c c' : Cluster)
    (r : Option String) (h : update env newSpec c = .ok r c') :
    ∃ made, c'.calls = c.calls ++ made ∧ ∀ ss, (.updateStatefulSet ss ∈ made ∨
      .replaceStatefulSet ss ∈ made) → env.genStatefulSet newSpec = .ok ss := by
  obtain ⟨made, hrun⟩ := update_spec env newSpec c c' r h
  exact ⟨made, hrun.calls, fun ss hm =>
    hm.elim (hrun.writes _ · ss (.inl rfl)) (hrun.writes _ · ss (.inr rfl))⟩

theorem update_writes_new_version_sample :
    let env := Env.succeeding [] (fun _ => .ok 0) fun spec => .ok (sampleStatefulSet spec.pgVersion)
    let c := sampleRunningCluster (sampleStatefulSet "9.6")
    let newSpec := { c.spec with pgVersion := "10" }
    newSpec.pgVersion ≠ c.spec.pgVersion ∧
      ∃ r c', update env newSpec c = .ok r c' ∧
        .updateStatefulSet (sampleStatefulSet "10") ∈ c'.calls ∧
        ∃ made, c'.calls = c.calls ++ made ∧ ∀ ss, (.updateStatefulSet ss ∈ made ∨
          .replaceStatefulSet ss ∈ made) → env.genStatefulSet newSpec = .ok ss := by
  intro env c newSpec
  exact ⟨by decide, _, _, rfl, by simp, update_writes_generated_statefulSet env newSpec c _ _ rfl⟩

/-- A returning `Update` keeps every record write after the resizes of its own volume,
its volume calls being those of `updateVolumes`. -/
theorem UpdateRun.recordsFollowResizes {env : Env} {newSpec : PostgresSpec} {c c' : Cluster}
    {r : Option String} {made : List Call} (h : UpdateRun env newSpec c r c' made)
    (hI : RecordsFollowResizes env c.calls) : RecordsFollowResizes env c'.calls := by
  obtain ⟨pre, vol, post, hmade, hpp, hvol⟩ := h.volumes
  rw [List.forall_mem_append] at hpp
  have hnw : ∀ calls : List Call, (∀ call ∈ calls, ¬VolumeCall call) →
      ∀ call ∈ calls, ¬RecordWrite call := fun _ h call hc hw =>
    h call hc hw.resizeCall.volumeCall
  have hpre := recordsFollowResizes_append_calls pre hI (hnw pre hpp.1)
  rw [h.calls, hmade, ← List.append_assoc, ← List.append_assoc]
  refine recordsFollowResizes_append_calls post ?_ (hnw post hpp.2)
  rcases hvol with ⟨rfl, -⟩ | ⟨-, c₁, c₂, r₂, hc₁, hu, hc₂, -⟩
  · simpa using hpre
  · obtain ⟨-, -, -, hrfr⟩ := updateVolumes_calls_within env newSpec.volume c₁ c₂ r₂ hu
    rw [← hc₁, ← hc₂]
    exact hrfr (hc₁ ▸ hpre)

end PostgresOperator
