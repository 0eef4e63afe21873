import PostgresOperator.Cluster.Runs

/-!
# The status history of a cluster

`setStatus` sets the cluster's status and sends it to the manifest in a PATCH whose
failure is only logged. Each entry point sends one word of a small lifecycle: `Create`
sends `Creating` and then `Running` or `AddFailed`; `Update` sends `Updating` and then
`Running` or `UpdateFailed`, or stops at `Updating` when its volume section or the
generation of its statefulset fails; `Delete` sends nothing. The manifest shows the
last status the API server accepted, so it shows the cluster's status when the last
patch was accepted, and an older one when that patch was refused.
-/

namespace PostgresOperator

/-! ### The status patches -/

/-- The statuses the API server wrote onto the manifest in the calls `calls`, made after
the calls `pre`, in order: those of the status patches it accepted. -/
def acceptedPatches (reply : List Call → Option String) (pre : List Call) :
    List Call → List PostgresStatus
  | [] => []
  | call :: calls =>
      (if reply (pre ++ [call]) = none then call.patched.toList else []) ++
        acceptedPatches reply (pre ++ [call]) calls

/-- The status the manifest shows after the calls `calls`, from `initial`: that of the
last status patch the API server accepted. -/
def manifestStatus (reply : List Call → Option String) (initial : PostgresStatus)
    (calls : List Call) : PostgresStatus :=
  ((acceptedPatches reply [] calls).getLast?).getD initial

/-- The last status patch of `calls`, if there is one, was accepted. -/
def LastPatchAccepted (reply : List Call → Option String) (calls : List Call) : Prop :=
  ∀ P s S, calls = P ++ .patchStatus s :: S → (∀ call ∈ S, call.patched = none) →
    reply (P ++ [.patchStatus s]) = none

/-- The cluster's status is the one it patched last, or `initial` when it patched none. -/
def StatusPatched (initial : PostgresStatus) (c : Cluster) : Prop :=
  (lastPatch c.calls).getD initial = c.status

theorem acceptedPatches_append (reply : List Call → Option String) (pre l₁ l₂ : List Call) :
    acceptedPatches reply pre (l₁ ++ l₂) =
      acceptedPatches reply pre l₁ ++ acceptedPatches reply (pre ++ l₁) l₂ := by
  induction l₁ generalizing pre with
  | nil => simp [acceptedPatches]
  | cons call l₁ ih => simp [acceptedPatches, ih]

theorem acceptedPatches_eq_nil (reply : List Call → Option String) (pre calls : List Call)
    (h : ∀ call ∈ calls, call.patched = none) : acceptedPatches reply pre calls = [] := by
  induction calls generalizing pre with
  | nil => rfl
  | cons call calls ih =>
      rw [List.forall_mem_cons] at h
      simp [acceptedPatches, h.1, ih _ h.2]

theorem lastPatch_eq_none_iff (calls : List Call) :
    lastPatch calls = none ↔ ∀ call ∈ calls, call.patched = none := by
  induction calls with
  | nil => simp
  | cons call calls ih => simp [ih, and_comm]

/-- The last status patch of a log, with the calls before and after it. -/
theorem lastPatch_eq_some {calls : List Call} {s : PostgresStatus}
    (h : lastPatch calls = some s) :
    ∃ P S, calls = P ++ .patchStatus s :: S ∧ ∀ call ∈ S, call.patched = none := by
  induction calls using List.reverseRecOn with
  | nil => simp at h
  | append_singleton calls call ih =>
      rw [lastPatch_append, lastPatch_cons, lastPatch_nil, Option.none_or] at h
      cases hc : call.patched with
      | none =>
          rw [hc, Option.none_or] at h
          obtain ⟨P, S, rfl, hS⟩ := ih h
          exact ⟨P, S ++ [call], by simp, List.forall_mem_append.2 ⟨hS, by simpa using hc⟩⟩
      | some s' =>
          rw [hc, Option.or_some] at h
          cases call <;> simp only [Call.patched, reduceCtorEq] at hc
          obtain ⟨rfl, rfl⟩ := And.intro (Option.some.inj hc) (Option.some.inj h)
          exact ⟨calls, [], rfl, by simp⟩

/-- When the last patch was accepted, the manifest shows the status patched last. -/
theorem manifestStatus_of_lastPatchAccepted {reply : List Call → Option String}
    {calls : List Call} (initial : PostgresStatus) (h : LastPatchAccepted reply calls) :
    manifestStatus reply initial calls = (lastPatch calls).getD initial := by
  cases hl : lastPatch calls with
  | none =>
      rw [lastPatch_eq_none_iff] at hl
      simp [manifestStatus, acceptedPatches_eq_nil reply [] calls hl]
  | some s =>
      obtain ⟨P, S, rfl, hS⟩ := lastPatch_eq_some hl
      have hacc := h P s S rfl hS
      simp [manifestStatus, acceptedPatches_append, acceptedPatches, hacc, Call.patched,
        acceptedPatches_eq_nil reply _ S hS]

theorem statusPatched_append {initial : PostgresStatus} {c c' : Cluster} {made : List Call}
    (hcalls : c'.calls = c.calls ++ made) (h : lastPatch made = some c'.status) :
    StatusPatched initial c' := by
  simp [StatusPatched, hcalls, h]

/-- Each returning entry point patches last the status it ends with, or patches nothing
and keeps its status. -/
theorem Op.run_statusPatched (env : Env) (op : Op) (initial : PostgresStatus)
    {c c' : Cluster} {r : Option String} (hc : StatusPatched initial c)
    (h : op.run env c = .ok r c') : StatusPatched initial c' := by
  cases op with
  | create =>
      obtain ⟨made, hcalls, -, -, hp, -⟩ := create_calls env c c' r h
      exact statusPatched_append hcalls (by rw [lastPatch_eq_getLast_patches, hp]; rfl)
  | update newSpec =>
      obtain ⟨made, hrun⟩ := update_spec env newSpec c c' r h
      refine statusPatched_append hrun.calls ?_
      rw [lastPatch_eq_getLast_patches, hrun.patches]
      split <;> simp [*]
  | delete =>
      obtain ⟨made, k, hmade, rfl, -⟩ := delete_calls env c c' r h
      have hnone : lastPatch made = none :=
        (lastPatch_eq_none_iff made).2 fun call hc => (hmade call hc).1
      simpa [StatusPatched, hnone] using hc

/-- Along every returning run of entry points from a cluster whose status is the one it
patched last, the manifest shows the cluster's status when its last patch was accepted. -/
theorem runOps_manifestStatus (reply : List Call → Option String) (initial : PostgresStatus)
    (ops : List (Env × Op)) (c c' : Cluster) (rs : List (Option String))
    (hc : StatusPatched initial c) (h : runOps ops c = .ok rs c')
    (hlast : LastPatchAccepted reply c'.calls) :
    manifestStatus reply initial c'.calls = c'.status := by
  rw [manifestStatus_of_lastPatchAccepted initial hlast]
  exact runOps_keeps (StatusPatched initial) ops
    (fun e _ _ _ _ hc he => Op.run_statusPatched e.1 e.2 initial hc he) h hc

/-- An `Update` of a running cluster whose volume section fails to list the persistent
volumes ends `Updating`. When the API server accepts its patch the manifest shows
`Updating`; when it refuses it, the manifest stays `Running`. -/
theorem runOps_manifestStatus_sample :
    let env := { Env.succeeding [] (fun _ => .ok ⟨21474836480⟩) fun _ => .error "" with
      listPersistentVolumes := .error "timeout" }
    let c := sampleRunningCluster (sampleStatefulSet "9.6")
    let ops : List (Env × Op) := [(env, .update { c.spec with volume := ⟨"20Gi", ""⟩ })]
    let refused : List Call → Option String := fun calls =>
      if calls = [.patchStatus .updating] then some "the server could not find the resource"
      else none
    ∃ rs c', runOps ops c = .ok rs c' ∧ c'.status = .updating ∧
      manifestStatus refused c.status c'.calls = .running ∧
      StatusPatched c.status c ∧ LastPatchAccepted env.patchStatus c'.calls ∧
      manifestStatus env.patchStatus c.status c'.calls = c'.status := by
  intro env c ops refused
  have hc : StatusPatched c.status c := rfl
  have hlast : ∀ calls, LastPatchAccepted env.patchStatus calls := fun _ _ _ _ _ _ => rfl
  exact ⟨_, _, rfl, rfl, by decide, hc, hlast _,
    runOps_manifestStatus env.patchStatus c.status ops c _ _ hc rfl (hlast _)⟩

end PostgresOperator
