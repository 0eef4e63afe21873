import PostgresOperator.Cluster.Objects

/-!
# Comparing live objects with desired ones

`sameServiceWith`, `sameVolumeWith`, `compareStatefulSetWith` and the resource comparison
it calls. Every check of `compareStatefulSetWith` is one `if` that raises some flags and
appends its reason, in the order of the source, with the source's texts. Indexing the
desired statefulset's containers or volume claim templates past their end is a Go panic,
which is `none` here.
-/

namespace PostgresOperator

/-- `sameServiceWith`: only the allowed source ranges are compared. A nil list and an
empty one, which `reflect.DeepEqual` tells apart, are both `[]` here. -/
def sameServiceWith (current service : Service) : Bool × String :=
  if current.loadBalancerSourceRanges ≠ service.loadBalancerSourceRanges then
    (false, "new service's LoadBalancerSourceRange doesn't match the current one")
  else (true, "")

/-- `sameVolumeWith`: the whole volume specification is compared. -/
def sameVolumeWith (current volume : Volume) : Bool × String :=
  if current ≠ volume then
    (false, "new volume's specification doesn't match the current one")
  else (true, "")

/-- The loop `for k, v := range a { if v.Cmp(b[k]) != 0 { return false } }`. -/
def rangeCmpEqual (a b : ResourceList) : Bool :=
  decide (∀ k ∈ a.keys, (quantityAt a k).cmp (quantityAt b k) = .eq)

/-- `compareResoucesAssumeFirstNotNil`: when `b` is nil or requests nothing, only
whether `a` requests nothing counts; otherwise `a`'s requests and then its limits
are checked against `b`'s. -/
def compareResoucesAssumeFirstNotNil (a : ResourceRequirements)
    (b : Option ResourceRequirements) : Bool :=
  match b with
  | some b =>
      if b.requests = ∅ then decide (a.requests = ∅)
      else rangeCmpEqual a.requests b.requests && rangeCmpEqual a.limits b.limits
  | none => decide (a.requests = ∅)

/-- `compareResources`: the helper in both directions, the second only when the
first found them equal and `b` is not nil. -/
def compareResources (a b : Option ResourceRequirements) : Bool :=
  let equal := match a with
    | some a => compareResoucesAssumeFirstNotNil a b
    | none => true
  match b with
  | some b => if equal then compareResoucesAssumeFirstNotNil b a else equal
  | none => equal

theorem rangeCmpEqual_iff (a b : ResourceList) :
    rangeCmpEqual a b = true ↔ ∀ k ∈ a, quantityAt a k = quantityAt b k := by
  simp [rangeCmpEqual, Quantity.cmp_eq_eq_iff, Finmap.mem_keys]

/-- On two requirement sets that both request something, the comparison checks every
request and every limit that either side names. -/
theorem compareResources_of_requests (a b : ResourceRequirements) (ha : a.requests ≠ ∅)
    (hb : b.requests ≠ ∅) :
    compareResources (some a) (some b) = true ↔
      (∀ k, k ∈ a.requests ∨ k ∈ b.requests →
        quantityAt a.requests k = quantityAt b.requests k) ∧
      (∀ k, k ∈ a.limits ∨ k ∈ b.limits → quantityAt a.limits k = quantityAt b.limits k) := by
  simp [compareResources, compareResoucesAssumeFirstNotNil, ha, hb, rangeCmpEqual_iff]
  constructor
  · rintro ⟨⟨h1, h2⟩, h3, h4⟩
    exact ⟨fun k hk => hk.elim (h1 k) fun h => (h3 k h).symm,
      fun k hk => hk.elim (h2 k) fun h => (h4 k h).symm⟩
  · rintro ⟨h1, h2⟩
    exact ⟨⟨fun k hk => h1 k (.inl hk), fun k hk => h2 k (.inl hk)⟩,
      fun k hk => (h1 k (.inr hk)).symm, fun k hk => (h2 k (.inr hk)).symm⟩

/-- What `compareResources` decides on two present requirement sets: both request
nothing, whatever their limits; or both request something and every request and every
limit that either side names compares equal. -/
theorem compareResources_iff (a b : ResourceRequirements) :
    compareResources (some a) (some b) = true ↔
      (a.requests = ∅ ∧ b.requests = ∅) ∨
      (a.requests ≠ ∅ ∧ b.requests ≠ ∅ ∧
        (∀ k, k ∈ a.requests ∨ k ∈ b.requests →
          quantityAt a.requests k = quantityAt b.requests k) ∧
        (∀ k, k ∈ a.limits ∨ k ∈ b.limits →
          quantityAt a.limits k = quantityAt b.limits k)) := by
  by_cases ha : a.requests = ∅
  · by_cases hb : b.requests = ∅ <;>
      simp [compareResources, compareResoucesAssumeFirstNotNil, ha, hb, rangeCmpEqual_iff,
        Finmap.not_mem_empty]
  · by_cases hb : b.requests = ∅
    · simp [compareResources, compareResoucesAssumeFirstNotNil, ha, hb]
    · simp [compareResources_of_requests a b ha hb, ha, hb]

theorem compareResources_self (a : ResourceRequirements) :
    compareResources (some a) (some a) = true := by
  by_cases ha : a.requests = ∅
  · simp [compareResources, compareResoucesAssumeFirstNotNil, ha]
  · exact (compareResources_of_requests a a ha ha).2 ⟨fun _ _ => rfl, fun _ _ => rfl⟩

/-- Two requirement sets without requests whose `cpu` limits differ, one core against
two, pass the comparison. -/
theorem compareResources_misses_cpu_limit :
    let a : ResourceRequirements := ⟨Finmap.singleton "cpu" ⟨1⟩, ∅⟩
    let b : ResourceRequirements := ⟨Finmap.singleton "cpu" ⟨2⟩, ∅⟩
    (a.requests = ∅ ∧ b.requests = ∅) ∧
      quantityAt a.limits "cpu" ≠ quantityAt b.limits "cpu" ∧
      compareResources (some a) (some b) = true :=
  ⟨⟨rfl, rfl⟩, by decide, by simp [compareResources, compareResoucesAssumeFirstNotNil]⟩

/-- What `compareResources` looks at: nothing when no request is made, `nil` included;
otherwise every request and every limit, a missing one reading as zero. -/
def resourcesSeen : Option ResourceRequirements →
    Option ((String → Quantity) × (String → Quantity))
  | some a => if a.requests = ∅ then none else some (quantityAt a.requests, quantityAt a.limits)
  | none => none

theorem quantityAt_of_not_mem {m : ResourceList} {k : String} (h : k ∉ m) :
    quantityAt m k = 0 := by
  simp [quantityAt, Finmap.lookup_eq_none.mpr h]

/-- Two resource lists agree on every key either names exactly when they read the same
everywhere. -/
theorem quantityAt_eq_iff (a b : ResourceList) :
    (∀ k, k ∈ a ∨ k ∈ b → quantityAt a k = quantityAt b k) ↔ quantityAt a = quantityAt b := by
  refine ⟨fun h => funext fun k => ?_, fun h k _ => congrFun h k⟩
  by_cases hk : k ∈ a ∨ k ∈ b
  · exact h k hk
  · rw [not_or] at hk
    rw [quantityAt_of_not_mem hk.1, quantityAt_of_not_mem hk.2]

/-- `compareResources` is true exactly when it sees the same on both sides: nothing when
neither requests anything, else the same requests and limits. It is an equivalence. -/
theorem compareResources_eq_true_iff (a b : Option ResourceRequirements) :
    compareResources a b = true ↔ resourcesSeen a = resourcesSeen b := by
  cases a with
  | none =>
      cases b with
      | none => simp [compareResources, resourcesSeen]
      | some b =>
          by_cases hb : b.requests = ∅ <;>
            simp [compareResources, compareResoucesAssumeFirstNotNil, resourcesSeen, hb]
  | some a =>
      cases b with
      | none =>
          by_cases ha : a.requests = ∅ <;>
            simp [compareResources, compareResoucesAssumeFirstNotNil, resourcesSeen, ha]
      | some b =>
          by_cases ha : a.requests = ∅
          · by_cases hb : b.requests = ∅ <;>
              simp [compareResources, compareResoucesAssumeFirstNotNil, resourcesSeen, ha, hb,
                rangeCmpEqual_iff, Finmap.not_mem_empty]
          · by_cases hb : b.requests = ∅
            · simp [compareResources, compareResoucesAssumeFirstNotNil, resourcesSeen, ha, hb]
            · simp [compareResources_of_requests a b ha hb, resourcesSeen, ha, hb,
                quantityAt_eq_iff]

/-- `compareStatefulsetResult`. -/
structure CompareResult where
  «match» : Bool
  replace : Bool
  rollingUpdate : Bool
  reasons : List String
  deriving DecidableEq

/-- One check of the comparison: when `differs`, raise the flags asked for and
append `reason`. -/
def CompareResult.flag (r : CompareResult) (differs replace rollingUpdate : Bool)
    (reason : String) : CompareResult :=
  if differs then
    { r with replace := r.replace || replace
             rollingUpdate := r.rollingUpdate || rollingUpdate
             reasons := r.reasons ++ [reason] }
  else r

section Flag
variable (r : CompareResult) (differs replace rollingUpdate : Bool) (reason : String)

@[simp] theorem CompareResult.flag_match :
    (r.flag differs replace rollingUpdate reason).match = r.match := by
  unfold CompareResult.flag; split <;> rfl

@[simp] theorem CompareResult.flag_replace :
    (r.flag differs replace rollingUpdate reason).replace =
      (r.replace || (differs && replace)) := by
  cases differs <;> simp [CompareResult.flag]

@[simp] theorem CompareResult.flag_rollingUpdate :
    (r.flag differs replace rollingUpdate reason).rollingUpdate =
      (r.rollingUpdate || (differs && rollingUpdate)) := by
  cases differs <;> simp [CompareResult.flag]

@[simp] theorem CompareResult.flag_reasons :
    (r.flag differs replace rollingUpdate reason).reasons =
      r.reasons ++ if differs then [reason] else [] := by
  cases differs <;> simp [CompareResult.flag]

end Flag

/-- The loop over the live statefulset's volume claim templates from index `i` on,
each against the desired template at the same index. A template whose name differs
is not checked further (`continue`). -/
def compareClaimTemplates (desired : List ClaimTemplate) :
    Nat → List ClaimTemplate → Bool → List String → Option (Bool × List String)
  | _, [], replace, reasons => some (replace, reasons)
  | i, t :: ts, replace, reasons =>
      match desired[i]? with
      | none => none
      | some d =>
          let name := t.name
          if name ≠ d.name then
            compareClaimTemplates desired (i + 1) ts true
              (reasons ++ [s!"new statefulset's name for volume {i} doesn't match the current one"])
          else
            let (replace, reasons) :=
              if t.annotations ≠ d.annotations then
                (true, reasons ++
                  [s!"new statefulset's annotations for volume {name} doesn't match the current one"])
              else (replace, reasons)
            let (replace, reasons) :=
              if t.spec ≠ d.spec then
                (true, reasons ++ [s!"new statefulset's volumeClaimTemplates specification for volume {name} doesn't match the current one"])
              else (replace, reasons)
            compareClaimTemplates desired (i + 1) ts replace reasons

/-- Whether a live volume claim template differs from the desired one in name,
annotations or spec. -/
def claimTemplateDiffers (t d : ClaimTemplate) : Bool :=
  t.name ≠ d.name || t.annotations ≠ d.annotations || t.spec ≠ d.spec

/-- The reasons one pass of the template loop appends for index `i`. -/
def claimTemplateReasons (i : Nat) (t d : ClaimTemplate) : List String :=
  let name := t.name
  if name ≠ d.name then [s!"new statefulset's name for volume {i} doesn't match the current one"]
  else (if t.annotations ≠ d.annotations then
      [s!"new statefulset's annotations for volume {name} doesn't match the current one"] else []) ++
    (if t.spec ≠ d.spec then [s!"new statefulset's volumeClaimTemplates specification for volume {name} doesn't match the current one"] else [])

theorem claimTemplateReasons_eq_nil (i : Nat) (t d : ClaimTemplate) :
    claimTemplateReasons i t d = [] ↔ claimTemplateDiffers t d = false := by
  unfold claimTemplateReasons claimTemplateDiffers
  by_cases hn : t.name = d.name <;> simp [hn]

theorem compareClaimTemplates_cons (desired ts : List ClaimTemplate) (i : Nat) (t d : ClaimTemplate)
    (hd : desired[i]? = some d) (replace : Bool) (reasons : List String) :
    compareClaimTemplates desired i (t :: ts) replace reasons =
      compareClaimTemplates desired (i + 1) ts (replace || claimTemplateDiffers t d)
        (reasons ++ claimTemplateReasons i t d) := by
  simp only [compareClaimTemplates, hd, claimTemplateReasons, claimTemplateDiffers]
  by_cases hn : t.name = d.name
  · by_cases ha : t.annotations = d.annotations <;> by_cases hs : t.spec = d.spec <;>
      simp [hn, ha, hs]
  · simp [hn]

theorem compareClaimTemplates_eq (desired ts : List ClaimTemplate) (i : Nat)
    (h : i + ts.length ≤ desired.length) :
    ∃ rs, (rs = [] ↔
        (ts.zip (desired.drop i)).any (fun p => claimTemplateDiffers p.1 p.2) = false) ∧
      ∀ replace reasons, compareClaimTemplates desired i ts replace reasons =
        some (replace || (ts.zip (desired.drop i)).any (fun p => claimTemplateDiffers p.1 p.2),
          reasons ++ rs) := by
  induction ts generalizing i with
  | nil => exact ⟨[], by simp [compareClaimTemplates]⟩
  | cons t ts ih =>
      have hi : i < desired.length := by simp at h; omega
      obtain ⟨d, hd⟩ : ∃ d, desired[i]? = some d := ⟨_, List.getElem?_eq_getElem hi⟩
      have hdrop : desired.drop i = d :: desired.drop (i + 1) := by
        rw [List.drop_eq_getElem_cons hi, (List.getElem?_eq_some_iff.mp hd).2]
      obtain ⟨rs, hnil, hrs⟩ := ih (i + 1) (by simp at h; omega)
      refine ⟨claimTemplateReasons i t d ++ rs, ?_, fun replace reasons => ?_⟩
      · simp [hdrop, ← hnil, claimTemplateReasons_eq_nil]
      · simp [compareClaimTemplates_cons desired ts i t d hd, hrs, hdrop, Bool.or_assoc]

theorem compareClaimTemplates_eq_none (desired ts : List ClaimTemplate) (i : Nat) (replace : Bool)
    (reasons : List String) (hi : i ≤ desired.length) (h : desired.length < i + ts.length) :
    compareClaimTemplates desired i ts replace reasons = none := by
  induction ts generalizing i replace reasons with
  | nil => simp at h; omega
  | cons t ts ih =>
      cases hd : desired[i]? with
      | none => simp [compareClaimTemplates, hd]
      | some d =>
          have : i < desired.length := (List.getElem?_eq_some_iff.mp hd).1
          rw [compareClaimTemplates_cons desired ts i t d hd]
          exact ih _ _ _ (by omega) (by simp at h; omega)

/-- `compareStatefulSetWith`, the receiver's statefulset `current` against the desired
`statefulSet`. Each `reflect.DeepEqual` is the model's equality, which merges nil and
empty maps and lists and the spellings of one quantity. -/
def compareStatefulSetWith (current statefulSet : StatefulSet) : Option CompareResult :=
  let cur := current.template
  let new := statefulSet.template
  let r : CompareResult := ⟨true, false, false, []⟩
  let r := if current.replicas ≠ statefulSet.replicas then
      { r with «match» := false
               reasons := r.reasons ++
                 ["new statefulset's number of replicas doesn't match the current one"] }
    else r
  let r := r.flag (cur.containers.length ≠ new.containers.length) false true
    "new statefulset's container specification doesn't match the current one"
  if cur.containers.length = 0 then some ⟨false, false, false, []⟩ else
  let r := r.flag (cur.serviceAccountName ≠ new.serviceAccountName) true true
    "new statefulset's serviceAccountName service asccount name doesn't match the current one"
  let r := r.flag (cur.terminationGracePeriodSeconds ≠ new.terminationGracePeriodSeconds)
    true true "new statefulset's terminationGracePeriodSeconds  doesn't match the current one"
  let r := r.flag (cur.labels ≠ new.labels) true true
    "new statefulset's metadata labels doesn't match the current one"
  let r := r.flag (cur.annotations ≠ new.annotations) true true
    "new statefulset's metadata annotations doesn't match the current one"
  let r := r.flag
    (current.volumeClaimTemplates.length ≠ statefulSet.volumeClaimTemplates.length) true false
    "new statefulset's volumeClaimTemplates contains different number of volumes to the old one"
  do
  let (replace, reasons) ← compareClaimTemplates statefulSet.volumeClaimTemplates 0
    current.volumeClaimTemplates r.replace r.reasons
  let r := { r with replace := replace, reasons := reasons }
  let container1 ← cur.containers[0]?
  let container2 ← new.containers[0]?
  let r := r.flag (container1.image ≠ container2.image) false true
    "new statefulset's container image doesn't match the current one"
  let r := r.flag (container1.ports ≠ container2.ports) false true
    "new statefulset's container ports don't match the current one"
  let r := r.flag
    (!compareResources (some container1.resources) (some container2.resources)) false true
    "new statefulset's container resources don't match the current ones"
  let r := r.flag (container1.env ≠ container2.env) false true
    "new statefulset's container environment doesn't match the current one"
  return { r with «match» := r.match && !(r.rollingUpdate || r.replace) }

/-- The pod template fields whose change needs both a replace and a rolling update:
service account, termination grace period, labels and annotations. -/
def podTemplateChanged (L D : StatefulSet) : Prop :=
  L.template.serviceAccountName ≠ D.template.serviceAccountName ∨
    L.template.terminationGracePeriodSeconds ≠ D.template.terminationGracePeriodSeconds ∨
    L.template.labels ≠ D.template.labels ∨ L.template.annotations ≠ D.template.annotations

/-- Some live volume claim template differs in name, annotations or spec from the
desired one at the same index. -/
def claimTemplateChanged (L D : StatefulSet) : Prop :=
  ∃ (i : Nat) (t d : ClaimTemplate), L.volumeClaimTemplates[i]? = some t ∧
    D.volumeClaimTemplates[i]? = some d ∧
    (t.name ≠ d.name ∨ t.annotations ≠ d.annotations ∨ t.spec ≠ d.spec)

theorem claimTemplateChanged_iff_any (L D : StatefulSet) :
    claimTemplateChanged L D ↔ (L.volumeClaimTemplates.zip D.volumeClaimTemplates).any
      (fun p => claimTemplateDiffers p.1 p.2) = true := by
  simp only [claimTemplateChanged, List.any_eq_true, List.mem_iff_getElem?,
    List.getElem?_zip_eq_some, claimTemplateDiffers, Prod.exists, Bool.or_eq_true,
    decide_eq_true_eq, or_assoc]
  exact ⟨fun ⟨i, t, d, ht, hd, h⟩ => ⟨t, d, ⟨i, ht, hd⟩, h⟩,
    fun ⟨t, d, ⟨i, ht, hd⟩, h⟩ => ⟨i, t, d, ht, hd, h⟩⟩

/-- A statefulset with a container matches itself, with no reason given. -/
theorem compareStatefulSetWith_self (S : StatefulSet) (hS : S.template.containers ≠ []) :
    compareStatefulSetWith S S = some ⟨true, false, false, []⟩ := by
  obtain ⟨c, cs, hS⟩ := List.exists_cons_of_ne_nil hS
  obtain ⟨rs, hnil, hloop⟩ := compareClaimTemplates_eq S.volumeClaimTemplates
    S.volumeClaimTemplates 0 (by simp)
  have hc : ¬claimTemplateChanged S S := by
    rintro ⟨i, t, d, ht, hd, h⟩
    obtain rfl : t = d := Option.some.inj (ht.symm.trans hd)
    simp at h
  rw [List.drop_zero, Bool.eq_false_iff.mpr (mt (claimTemplateChanged_iff_any S S).mpr hc)]
    at hnil hloop
  simp [compareStatefulSetWith, hS, hloop, hnil.mpr rfl, compareResources_self]

/-- The primary containers differ in image, ports or environment, or `compareResources`
rejects their resources. -/
def primaryContainerChanged (c d : Container) : Prop :=
  c.image ≠ d.image ∨ c.ports ≠ d.ports ∨
    compareResources (some c.resources) (some d.resources) = false ∨ c.env ≠ d.env

theorem compareStatefulSetWith_spec (L D : StatefulSet) (d : Container) (ds : List Container)
    (hD : D.template.containers = d :: ds)
    (hV : L.volumeClaimTemplates.length ≤ D.volumeClaimTemplates.length) :
    (L.template.containers = [] →
      compareStatefulSetWith L D = some ⟨false, false, false, []⟩) ∧
    (∀ c cs, L.template.containers = c :: cs → ∃ r, compareStatefulSetWith L D = some r ∧
      (r.replace ↔ podTemplateChanged L D ∨
        L.volumeClaimTemplates.length ≠ D.volumeClaimTemplates.length ∨
        claimTemplateChanged L D) ∧
      (r.rollingUpdate ↔ L.template.containers.length ≠ D.template.containers.length ∨
        podTemplateChanged L D ∨ primaryContainerChanged c d) ∧
      (r.match ↔ L.replicas = D.replicas ∧ r.replace = false ∧ r.rollingUpdate = false) ∧
      (r.reasons = [] ↔ r.match)) ∧
    ∀ S : StatefulSet, S.template.containers ≠ [] →
      compareStatefulSetWith S S = some ⟨true, false, false, []⟩ := by
  refine ⟨fun hL => by simp [compareStatefulSetWith, hL], fun c cs hL => ?_,
    compareStatefulSetWith_self⟩
  obtain ⟨rs, hnil, hloop⟩ := compareClaimTemplates_eq D.volumeClaimTemplates
    L.volumeClaimTemplates 0 (by simpa using hV)
  have hc := claimTemplateChanged_iff_any L D
  rw [List.drop_zero] at hnil hloop
  generalize (L.volumeClaimTemplates.zip D.volumeClaimTemplates).any _ = b at hnil hloop hc
  by_cases hr : L.replicas = D.replicas <;>
    simp [compareStatefulSetWith, hL, hD, hloop, hr, hc, hnil, podTemplateChanged,
      primaryContainerChanged, or_assoc, and_assoc]
  tauto

/-- A statefulset with one container and no volume claim template matches itself. -/
theorem compareStatefulSetWith_self_one_container :
    let S : StatefulSet := ⟨1, ⟨∅, ∅, "", 30, [⟨"spilo", [], ⟨∅, ∅⟩, []⟩]⟩, []⟩
    compareStatefulSetWith S S = some ⟨true, false, false, []⟩ := by
  intro S
  exact (compareStatefulSetWith_spec S S _ [] rfl le_rfl).2.2 S (List.cons_ne_nil _ _)

/-- With a container on the live side, the comparison panics exactly when the desired
statefulset has no container or fewer volume claim templates. -/
theorem compareStatefulSetWith_eq_none_iff (L D : StatefulSet) (c : Container)
    (cs : List Container) (hL : L.template.containers = c :: cs) :
    compareStatefulSetWith L D = none ↔
      D.template.containers = [] ∨
        D.volumeClaimTemplates.length < L.volumeClaimTemplates.length := by
  by_cases hV : D.volumeClaimTemplates.length < L.volumeClaimTemplates.length
  · simp [compareStatefulSetWith, hL, hV,
      compareClaimTemplates_eq_none _ _ 0 _ _ (Nat.zero_le _) (by simpa using hV)]
  · obtain ⟨rs, -, hloop⟩ := compareClaimTemplates_eq D.volumeClaimTemplates
      L.volumeClaimTemplates 0 (by simpa using hV)
    cases hD : D.template.containers <;> simp [compareStatefulSetWith, hL, hD, hloop, hV]

/-- A desired statefulset that dropped the live one's only volume claim template
makes the comparison index past its end. -/
theorem compareStatefulSetWith_panics_on_dropped_template :
    let c : Container := ⟨"spilo", [], ⟨∅, ∅⟩, []⟩
    let t : ClaimTemplate := ⟨"pgdata", ∅, ⟨["ReadWriteOnce"], ⟨∅, ∅⟩, "", none⟩⟩
    let L : StatefulSet := ⟨1, ⟨∅, ∅, "", 30, [c]⟩, [t]⟩
    compareStatefulSetWith L { L with volumeClaimTemplates := [] } = none := by
  intro c t L
  exact (compareStatefulSetWith_eq_none_iff L _ c [] rfl).mpr (.inr Nat.one_pos)

end PostgresOperator
