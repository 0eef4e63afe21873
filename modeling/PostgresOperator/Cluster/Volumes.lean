import PostgresOperator.Cluster.Env

/-!
# Resizing the persistent volumes

`updateVolumes` with the helpers it calls: `getAWSVolumeId`,
`getPodNameFromPersistentVolume` and `resizeVolumeFS`, whose verdict on the output of
`resize2fs` reads it with `ext2fsSuccessRegexp`. Go strings are character lists here:
every offset the code takes lies after an ASCII character, and object names are ASCII.

The loop resizes the volumes off target in list order, each by three calls, and stops at
its first failure; `resizePlan` writes that sequence as steps of `runSteps`.
`RecordsFollowResizes` says that no record is written before the resizes of its volume
succeeded, and `storedRecords` models the records the API server holds.
-/

namespace PostgresOperator

/-- `strings.Contains`. -/
def containsStr (s sub : String) : Bool := decide (sub.data <:+: s.data)

/-- `strings.LastIndex`: the index of the last occurrence of `sub`, or `-1`. -/
def lastIndex (sub : List Char) : List Char → Int
  | [] => if sub = [] then 0 else -1
  | ch :: s =>
      let i := lastIndex sub s
      if 0 ≤ i then i + 1 else if sub <+: ch :: s then 0 else -1

/-- `[/a-z0-9]` of `ext2fsSuccessRegexp`. -/
def isDeviceChar (ch : Char) : Bool := ch = '/' || ('a' ≤ ch && ch ≤ 'z') || ch.isDigit

/-- `\w`: an ASCII letter or digit, or `_`. -/
def isWordChar (ch : Char) : Bool := ch.isAlphanum || ch = '_'

/-- Strip the literal `lit` off the front of `s`. -/
def literal (lit : String) (s : List Char) : Option (List Char) :=
  if lit.data <+: s then some (s.drop lit.length) else none

/-- `[class]+` followed by a character outside the class: the whole run is taken,
and it may not be empty. -/
def plusRun (cls : Char → Bool) (s : List Char) : Option (List Char) :=
  if (s.takeWhile cls).length = 0 then none else some (s.dropWhile cls)

/-- `\(\d+\w+\)`: a parenthesised word of at least two characters starting with a
digit (`\w` contains `\d`, and `)` is in neither). -/
def countWithUnit (s : List Char) : Option (List Char) := do
  let s ← literal "(" s
  let run := s.takeWhile isWordChar
  if 2 ≤ run.length && (run.head?.map Char.isDigit).getD false then
    literal ")" (s.dropWhile isWordChar)
  else none

/-- `ext2fsSuccessRegexp` matched at the start of `s`:
`The filesystem on [/a-z0-9]+ is now \d+ \(\d+\w+\) blocks long.`, the final `.`
being any character but a newline. -/
def ext2fsSuccessAt (s : List Char) : Bool := Option.isSome do
  let s ← literal "The filesystem on " s
  let s ← plusRun isDeviceChar s
  let s ← literal " is now " s
  let s ← plusRun Char.isDigit s
  let s ← literal " " s
  let s ← countWithUnit s
  let s ← literal " blocks long" s
  match s with
  | ch :: _ => if ch = '\n' then none else some ()
  | [] => none

/-- `ext2fsSuccessRegexp.MatchString`: the pattern matches somewhere in `out`. -/
def ext2fsSuccess (out : String) : Bool := out.data.tails.any ext2fsSuccessAt

/-- `spec.NamespacedName.String()` of the operator's `pkg/spec`, which is not part of this
package: it prints `namespace/name`. -/
instance : ToString NamespacedName := ⟨fun n => n.namespace ++ "/" ++ n.name⟩

/-- The command `resizeVolumeFS` runs on the pod. -/
def resizeCommand : List String :=
  ["bash", "-c", "df -h /home/postgres/pgdata --output=source|tail -1|xargs resize2fs 2>&1"]

/-- What `resizeVolumeFS` makes of the reply of `ExecCommand`: its error, success on
one of the two recognised outputs, and an error on any other output. -/
def resizeOutcome (reply : String × Option String) : Option String :=
  let (out, err) := reply
  match err with
  | some err => some err
  | none =>
      if containsStr out "Nothing to do" ||
          (containsStr out "on-line resizing required" && ext2fsSuccess out) then none
      else some s!"unrecognized output: {out}, assuming error"

/-- `resizeVolumeFS`. -/
def resizeVolumeFS (env : Env) (podName : NamespacedName) : ClusterM (Option String) := do
  let reply ← callWith (.execCommand podName resizeCommand) env.execCommand
  return resizeOutcome reply

/-- `getPodNameFromPersistentVolume`: the claim's namespace, and its name after the
data volume name and a separator; `none` is the panic of a nil claim reference or a
name too short to slice. -/
def getPodNameFromPersistentVolume (dataVolumeName : String) (pv : PersistentVolume) :
    Option NamespacedName :=
  match pv.claimRef with
  | none => none
  | some ref =>
      if ref.name.length < dataVolumeName.length + 1 then none
      else some ⟨ref.namespace, ⟨ref.name.data.drop (dataVolumeName.length + 1)⟩⟩

theorem getPodNameFromPersistentVolume_of_claim (dataVolumeName : String) (pv : PersistentVolume)
    (ns pod : String) (h : pv.claimRef = some ⟨ns, dataVolumeName ++ "-" ++ pod⟩) :
    getPodNameFromPersistentVolume dataVolumeName pv = some ⟨ns, pod⟩ := by
  have hl : ∀ s : String, s.length = s.data.length := fun _ => rfl
  have hd : (dataVolumeName ++ "-" ++ pod).data = (dataVolumeName.data ++ ['-']) ++ pod.data := by
    simp [String.append]
  have hprefix : (dataVolumeName.data ++ ['-']).length = dataVolumeName.length + 1 := by
    rw [List.length_append, hl]; rfl
  have hlen : ¬(dataVolumeName ++ "-" ++ pod).length < dataVolumeName.length + 1 := by
    rw [hl, hd, List.length_append, hprefix]; omega
  simp only [getPodNameFromPersistentVolume, h, hlen, if_false, hd, List.drop_left' hprefix]

/-- `getAWSVolumeId`: the suffix from the `v` of the last `/vol-`; `none` is the panic
of a volume without an EBS source. -/
def getAWSVolumeId (pv : PersistentVolume) : Option (Except String String) :=
  match pv.awsElasticBlockStore with
  | none => none
  | some id =>
      let name := pv.name
      if id = "" then some (.error s!"volume id is empty for volume {name}")
      else
        let idx := lastIndex "/vol-".data id.data + 1
        if idx = 0 then some (.error s!"malfored EBS volume id {id}")
        else some (.ok ⟨id.data.drop idx.toNat⟩)

/-- `strings.LastIndex` of a non-empty `sub` is `-1` when `sub` does not occur, and
otherwise the length of the part before an occurrence after which none starts. -/
theorem lastIndex_spec (sub : List Char) (hsub : sub ≠ []) (s : List Char) :
    (lastIndex sub s = -1 ∧ ¬sub <:+: s) ∨
      ∃ p t, s = p ++ t ∧ lastIndex sub s = p.length ∧ sub <+: t ∧ ¬sub <:+: t.tail := by
  induction s with
  | nil => exact .inl ⟨by simp [lastIndex, hsub], by simpa [List.infix_nil] using hsub⟩
  | cons ch s ih =>
      rcases ih with ⟨hi, hnot⟩ | ⟨p, t, rfl, hi, hpre, hlast⟩
      · by_cases hp : sub <+: ch :: s
        · exact .inr ⟨[], ch :: s, rfl, by simp [lastIndex, hi, hp], hp, hnot⟩
        · exact .inl ⟨by simp [lastIndex, hi, hp], by simp [List.infix_cons_iff, hp, hnot]⟩
      · refine .inr ⟨ch :: p, t, rfl, ?_, hpre, hlast⟩
        simp [lastIndex, hi]

/-- Two occurrences of `sub` after which none starts are the same occurrence. -/
theorem lastOccurrence_unique {sub p t p' t' : List Char} (h : p ++ t = p' ++ t')
    (ht : sub <+: t) (ht' : sub <+: t') (hlast : ¬sub <:+: t.tail) (hlast' : ¬sub <:+: t'.tail) :
    p = p' ∧ t = t' := by
  rcases List.append_eq_append_iff.mp h with ⟨a, rfl, hta⟩ | ⟨a, rfl, hta⟩
  · cases a with
    | nil => simpa using hta
    | cons x a =>
        have hsuf : t' <:+ t.tail := by simp [hta]
        exact absurd (ht'.isInfix.trans hsuf.isInfix) hlast
  · cases a with
    | nil => simpa using hta.symm
    | cons x a =>
        have hsuf : t <:+ t'.tail := by simp [hta]
        exact absurd (ht.isInfix.trans hsuf.isInfix) hlast'


/-- The id of a volume with an EBS source: an error when no `/vol-` occurs in it, and
otherwise the part after the `/` of an occurrence after which none starts. -/
theorem getAWSVolumeId_cases (pv : PersistentVolume) (s : String)
    (hs : pv.awsElasticBlockStore = some s) :
    (¬"/vol-".data <:+: s.data ∧ ∃ e, getAWSVolumeId pv = some (.error e)) ∨
      ∃ p t, s.data = p ++ t ∧ "/vol-".data <+: t ∧ ¬"/vol-".data <:+: t.tail ∧
        getAWSVolumeId pv = some (.ok ⟨t.tail⟩) := by
  rcases lastIndex_spec "/vol-".data (by decide) s.data with
    ⟨hi, hnot⟩ | ⟨p, t, hst, hi, hpre, hlast⟩
  · refine .inl ⟨hnot, ?_⟩
    simp only [getAWSVolumeId, hs, hi]
    split <;> exact ⟨_, rfl⟩
  · have hne : s ≠ "" := by
      rintro rfl
      obtain ⟨u, rfl⟩ := hpre
      simp at hst
    refine .inr ⟨p, t, hst, hpre, hlast, ?_⟩
    have hi' : lastIndex ['/', 'v', 'o', 'l', '-'] (p ++ t) = p.length := hst ▸ hi
    have hidx : (p.length + 1 : ℤ).toNat = p.length + 1 := by omega
    have hpos : ¬(p.length + 1 : ℤ) = 0 := by omega
    simp only [getAWSVolumeId, hs, hne, if_false, hst, hi', hpos, hidx]
    simp [List.drop_append]

/-- `/vol-` does not start inside the `vol-` that follows a marker. -/
theorem not_marker_infix_vol_append {w : List Char} (h : ¬"/vol-".data <:+: w) :
    ¬"/vol-".data <:+: "vol-".data ++ w := by
  show ¬['/', 'v', 'o', 'l', '-'] <:+: 'v' :: 'o' :: 'l' :: '-' :: w
  simpa [List.infix_cons_iff] using h

/-- `getAWSVolumeId` succeeds exactly when the EBS source contains `/vol-`, and returns
its suffix from the last `/vol-`: the id of `p ++ "/vol-" ++ w` is `"vol-" ++ w`. -/
theorem getAWSVolumeId_last_marker (pv : PersistentVolume) (s : String)
    (hs : pv.awsElasticBlockStore = some s) :
    ((∃ r, getAWSVolumeId pv = some (.ok r)) ↔ containsStr s "/vol-" = true) ∧
    (∀ r, getAWSVolumeId pv = some (.ok r) →
      ∃ p w, s = p ++ "/vol-" ++ w ∧ r = "vol-" ++ w ∧ containsStr r "/vol-" = false) ∧
    ∀ p w, containsStr w "/vol-" = false → s = p ++ "/vol-" ++ w →
      getAWSVolumeId pv = some (.ok ("vol-" ++ w)) := by
  simp only [containsStr, decide_eq_true_eq, decide_eq_false_iff_not, String.ext_iff,
    String.data_append]
  rcases getAWSVolumeId_cases pv s hs with ⟨hnot, e, he⟩ | ⟨p, t, hst, ⟨u, rfl⟩, hlast, hok⟩
  · refine ⟨by simp [he, hnot], by simp [he], fun p w _ hsw => absurd ?_ hnot⟩
    rw [hsw]
    exact (List.infix_append p.data _ w.data)
  · refine ⟨iff_of_true ⟨_, hok⟩ (by rw [hst]; exact List.infix_append' p _ u), fun r hr => ?_,
      fun p' w hw hsw => ?_⟩
    · obtain rfl : r = ⟨"vol-".data ++ u⟩ := by simpa [hok] using hr.symm
      exact ⟨⟨p⟩, ⟨u⟩, by simpa using hst, rfl, hlast⟩
    · obtain ⟨-, ht⟩ := lastOccurrence_unique (hst.symm.trans (by simpa using hsw))
        (List.prefix_append _ u) (List.prefix_append _ w.data) hlast
        (not_marker_infix_vol_append hw)
      simpa [hok, String.ext_iff] using ht

/-- Of an id with two markers, the suffix after the last one. -/
theorem getAWSVolumeId_last_marker_sample :
    let pv : PersistentVolume := ⟨"pv-1", ∅, some "aws://eu-central-1b/vol-1/vol-2", none⟩
    getAWSVolumeId pv = some (.ok "vol-2") :=
  (getAWSVolumeId_last_marker _ _ rfl).2.2 "aws://eu-central-1b/vol-1" "2" (by decide) (by decide)

/-- One gibibyte, `1073741824` bytes. -/
def gib : Int := 1073741824

/-- `q.ScaledValue(0) / 1073741824`, Go's truncating division: the size in whole
gibibytes. -/
def sizeInGib (q : Quantity) : Int := q.scaledValue.tdiv gib

@[simp] theorem sizeInGib_zero : sizeInGib 0 = 0 := by
  simp [sizeInGib, Quantity.scaledValue, Quantity.roundAway]

/-- `resource.ParseQuantity` as Go returns it: a rejected string gives `Quantity{}`
together with the error. -/
def parseQuantity (env : Env) (s : String) : Quantity × Option String :=
  match env.parseQuantity s with
  | .ok q => (q, none)
  | .error e => (0, some e)

/-- `pv` with `pv.Spec.Capacity[v1.ResourceStorage] = q`. -/
def withStorage (pv : PersistentVolume) (q : Quantity) : PersistentVolume :=
  { pv with capacity := pv.capacity.insert resourceStorage q }

@[simp] theorem quantityAt_withStorage (pv : PersistentVolume) (q : Quantity) :
    quantityAt (withStorage pv q).capacity resourceStorage = q := by
  simp [quantityAt, withStorage]

@[simp] theorem getAWSVolumeId_withStorage (pv : PersistentVolume) (q : Quantity) :
    getAWSVolumeId (withStorage pv q) = getAWSVolumeId pv := rfl

@[simp] theorem getPodNameFromPersistentVolume_withStorage (dataVolumeName : String)
    (pv : PersistentVolume) (q : Quantity) :
    getPodNameFromPersistentVolume dataVolumeName (withStorage pv q) =
      getPodNameFromPersistentVolume dataVolumeName pv := rfl

/-- One pass of the loop of `updateVolumes`. -/
def updateVolume (env : Env) (newQuantity : Quantity) (newSize : Int)
    (pv : PersistentVolume) : ClusterM (Option String) := do
  if sizeInGib (quantityAt pv.capacity resourceStorage) ≠ newSize then
    let some awsVolumeId := getAWSVolumeId pv | goPanic "nil pointer dereference"
    match awsVolumeId with
    | .error err => return some err
    | .ok awsVolumeId =>
        if let some err ← callWith (.resizeVolume awsVolumeId newSize) env.resizeVolume then
          return some s!"could not resize EBS volume {awsVolumeId}: {err}"
        let some podName := getPodNameFromPersistentVolume env.dataVolumeName pv
          | goPanic "slice bounds out of range"
        if let some err ← resizeVolumeFS env podName then
          return some s!"could not resize the filesystem on pod '{podName}': {err}"
        let pv := withStorage pv newQuantity
        if let some err ← callWith (.updatePersistentVolume pv) env.updatePersistentVolume then
          return some s!"could not update persistent volume: {err}"
  return none

/-- The loop of `updateVolumes` over the listed volumes. -/
def updateVolumesLoop (env : Env) (newQuantity : Quantity) (newSize : Int) :
    List PersistentVolume → ClusterM (Option String)
  | [] => return none
  | pv :: pvs => do
      if let some err ← updateVolume env newQuantity newSize pv then return some err
      updateVolumesLoop env newQuantity newSize pvs

/-- `updateVolumes`. The error of `ParseQuantity` is overwritten by that of
`listPersistentVolumes` before anything reads it. -/
def updateVolumes (env : Env) (newVolume : Volume) : ClusterM (Option String) := do
  let (newQuantity, _) := parseQuantity env newVolume.size
  let newSize := sizeInGib newQuantity
  match ← callReturning .listPersistentVolumes env.listPersistentVolumes with
  | .error err => return some s!"could not list persistent volumes: {err}"
  | .ok pvs =>
      if (← callReturning .connectToEC2 env.connectToEC2).isSome then
        return some "could not connect to EC2"
      updateVolumesLoop env newQuantity newSize pvs

theorem resizeVolumeFS_apply (env : Env) (pod : NamespacedName) (c : Cluster) :
    resizeVolumeFS env pod c =
      .ok (resizeOutcome (env.execCommand (c.calls ++ [.execCommand pod resizeCommand])))
        { c with calls := c.calls ++ [.execCommand pod resizeCommand] } := rfl

/-- Whether the volume's whole-GiB capacity differs from the target `newSize`. -/
def offTarget (newSize : Int) (pv : PersistentVolume) : Bool :=
  sizeInGib (quantityAt pv.capacity resourceStorage) ≠ newSize

/-- The steps for one volume off target: resize its EBS volume `volumeId`, then its
filesystem on `pod`, then write its record with the new capacity. -/
def volumeSteps (env : Env) (newQuantity : Quantity) (newSize : Int) (volumeId : String)
    (pod : NamespacedName) (pv : PersistentVolume) : List Step :=
  [.call (.resizeVolume volumeId newSize) (fun calls => (env.resizeVolume calls).map
      fun err => s!"could not resize EBS volume {volumeId}: {err}") id,
    .call (.execCommand pod resizeCommand) (fun calls => (resizeOutcome (env.execCommand calls)).map
      fun err => s!"could not resize the filesystem on pod '{pod}': {err}") id,
    .call (.updatePersistentVolume (withStorage pv newQuantity)) (fun calls =>
      (env.updatePersistentVolume calls).map
        fun err => s!"could not update persistent volume: {err}") id]

/-- The volumes off target in list order, each by its three steps; a volume whose EBS
id cannot be read ends the sequence with that error. -/
def resizePlan (env : Env) (newQuantity : Quantity) (newSize : Int) :
    List PersistentVolume → List Step
  | [] => []
  | pv :: pvs =>
      if offTarget newSize pv then
        match getAWSVolumeId pv, getPodNameFromPersistentVolume env.dataVolumeName pv with
        | some (.ok volumeId), some pod =>
            volumeSteps env newQuantity newSize volumeId pod pv ++
              resizePlan env newQuantity newSize pvs
        | some (.error err), _ => [.fail err]
        | _, _ => []
      else resizePlan env newQuantity newSize pvs

/-- A volume the loop can read: it has an EBS source and a claim reference whose name
is long enough to cut the pod name from. -/
def Readable (dataVolumeName : String) (pv : PersistentVolume) : Prop :=
  (∃ r, getAWSVolumeId pv = some r) ∧
    ∃ pod, getPodNameFromPersistentVolume dataVolumeName pv = some pod

theorem updateVolume_of_onTarget (env : Env) (q : Quantity) (n : Int) (pv : PersistentVolume)
    (h : offTarget n pv = false) (c : Cluster) : updateVolume env q n pv c = .ok none c := by
  simp only [offTarget, decide_eq_false_iff_not, not_not] at h
  simp [updateVolume, h]

theorem updateVolumesLoop_eq_runSteps (env : Env) (q : Quantity) (n : Int)
    (pvs : List PersistentVolume)
    (hpv : ∀ pv ∈ pvs, offTarget n pv = true → Readable env.dataVolumeName pv) :
    updateVolumesLoop env q n pvs = runSteps (resizePlan env q n pvs) := by
  induction pvs with
  | nil => rfl
  | cons pv pvs ih =>
      funext c
      rw [List.forall_mem_cons] at hpv
      by_cases ho : sizeInGib (quantityAt pv.capacity resourceStorage) = n
      · simp [updateVolumesLoop, resizePlan, offTarget, ho, bind_apply, updateVolume, ih hpv.2]
      · obtain ⟨⟨aws, haws⟩, ⟨pod, hpod⟩⟩ := hpv.1 (by simpa [offTarget] using ho)
        cases aws with
        | error err =>
            simp [updateVolumesLoop, resizePlan, offTarget, ho, bind_apply, updateVolume, haws,
              runSteps]
        | ok volumeId =>
            simp only [updateVolumesLoop, resizePlan, offTarget, ho, haws, hpod, runSteps_append,
              ih hpv.2, updateVolume, volumeSteps, runSteps, ne_eq, not_false_eq_true, if_true,
              bind_apply, callWith_apply, callRecording_apply, resizeVolumeFS_apply, id_eq]
            cases h1 : env.resizeVolume (c.calls ++ [.resizeVolume volumeId n]) with
            | some err => rfl
            | none =>
                simp only [h1, Option.map_none', bind_apply, resizeVolumeFS_apply, callWith_apply,
                  callRecording_apply]
                cases h2 : resizeOutcome (env.execCommand
                    (c.calls ++ [.resizeVolume volumeId n, .execCommand pod resizeCommand])) with
                | some err => simp [h2]
                | none =>
                    cases h3 : env.updatePersistentVolume (c.calls ++
                      [.resizeVolume volumeId n, .execCommand pod resizeCommand,
                        .updatePersistentVolume (withStorage pv q)]) with
                    | some err => simp [h2, h3, bind_apply]
                    | none => simp [h2, h3, bind_apply]

/-- Connecting to EC2, the step before the loop. -/
def connectStep (env : Env) : Step :=
  .call .connectToEC2 (fun _ => env.connectToEC2.map fun _ => "could not connect to EC2") id

/-- Once the volumes are listed, `updateVolumes` connects to EC2 and runs the resize
plan of its target quantity over them. -/
theorem updateVolumes_eq_runSteps (env : Env) (newVolume : Volume) (pvs : List PersistentVolume)
    (hlist : env.listPersistentVolumes = .ok pvs)
    (hpv : ∀ pv ∈ pvs, offTarget (sizeInGib (parseQuantity env newVolume.size).1) pv = true →
      Readable env.dataVolumeName pv) (c : Cluster) :
    let q := (parseQuantity env newVolume.size).1
    updateVolumes env newVolume c = runSteps (connectStep env :: resizePlan env q (sizeInGib q) pvs)
      { c with calls := c.calls ++ [.listPersistentVolumes] } := by
  intro q
  cases h : env.connectToEC2 <;>
    simp [updateVolumes, bind_apply, hlist, h, connectStep, runSteps,
      updateVolumesLoop_eq_runSteps env _ _ pvs hpv, q]

/-- `calls` may end with the write of the record `rec`: they end with the resize of its EBS
volume to its size in whole GiB and the filesystem resize on the pod its claim names,
both answered with success. -/
def WriteFollowsResizes (env : Env) (rec : PersistentVolume) (calls : List Call) : Prop :=
  ∃ P volumeId pod,
    calls = P ++ [.resizeVolume volumeId (sizeInGib (quantityAt rec.capacity resourceStorage)),
      .execCommand pod resizeCommand] ∧
    getAWSVolumeId rec = some (.ok volumeId) ∧
    getPodNameFromPersistentVolume env.dataVolumeName rec = some pod ∧
    env.resizeVolume
      (P ++ [.resizeVolume volumeId (sizeInGib (quantityAt rec.capacity resourceStorage))]) = none ∧
    resizeOutcome (env.execCommand calls) = none

/-- In `calls`, every record write follows the resizes of its own volume. -/
def RecordsFollowResizes (env : Env) (calls : List Call) : Prop :=
  ∀ P rec S, calls = P ++ .updatePersistentVolume rec :: S → WriteFollowsResizes env rec P

theorem recordsFollowResizes_nil (env : Env) : RecordsFollowResizes env [] := by
  intro P rec S h
  simp at h

theorem recordsFollowResizes_append {env : Env} {calls : List Call} (call : Call)
    (h : RecordsFollowResizes env calls)
    (hcall : ∀ rec, call = .updatePersistentVolume rec → WriteFollowsResizes env rec calls) :
    RecordsFollowResizes env (calls ++ [call]) := by
  intro P rec S heq
  rcases List.eq_nil_or_concat S with rfl | ⟨L, b, rfl⟩
  · obtain ⟨rfl, hc⟩ := List.append_inj' heq rfl
    exact hcall rec (List.singleton_inj.mp hc)
  · rw [List.concat_eq_append, ← List.cons_append, ← List.append_assoc] at heq
    exact h P rec L (List.append_inj' heq rfl).1

/-- Writing `rec` right after successful resizes of its EBS volume and of its filesystem
keeps the invariant. -/
theorem recordsFollowResizes_volume {env : Env} {calls : List Call} {volumeId : String}
    {pod : NamespacedName} {rec : PersistentVolume} (h : RecordsFollowResizes env calls)
    (haws : getAWSVolumeId rec = some (.ok volumeId))
    (hpod : getPodNameFromPersistentVolume env.dataVolumeName rec = some pod)
    (h1 : env.resizeVolume (calls ++
      [.resizeVolume volumeId (sizeInGib (quantityAt rec.capacity resourceStorage))]) = none)
    (h2 : resizeOutcome (env.execCommand (calls ++
      [.resizeVolume volumeId (sizeInGib (quantityAt rec.capacity resourceStorage)),
        .execCommand pod resizeCommand])) = none) :
    RecordsFollowResizes env (calls ++
      [.resizeVolume volumeId (sizeInGib (quantityAt rec.capacity resourceStorage)),
        .execCommand pod resizeCommand, .updatePersistentVolume rec]) := by
  have hr := recordsFollowResizes_append
    (.resizeVolume volumeId (sizeInGib (quantityAt rec.capacity resourceStorage))) h (by simp)
  have he := recordsFollowResizes_append (.execCommand pod resizeCommand) hr (by simp)
  have hu := recordsFollowResizes_append (.updatePersistentVolume rec) he (by
    rintro _ ⟨⟩
    exact ⟨calls, volumeId, pod, by simp, haws, hpod, h1, by simpa using h2⟩)
  simpa using hu

/-- Whether a call writes a persistent-volume record. -/
def RecordWrite : Call → Prop
  | .updatePersistentVolume _ => True
  | _ => False

/-- Calls that write no record keep every record where it was. -/
theorem recordsFollowResizes_append_calls {env : Env} {calls : List Call} (made : List Call)
    (h : RecordsFollowResizes env calls) (hmade : ∀ call ∈ made, ¬RecordWrite call) :
    RecordsFollowResizes env (calls ++ made) := by
  induction made using List.reverseRecOn with
  | nil => simpa using h
  | append_singleton made call ih =>
      rw [← List.append_assoc]
      refine recordsFollowResizes_append call
        (ih fun x hx => hmade x (List.mem_append_left _ hx)) ?_
      rintro pv rfl
      exact absurd trivial (hmade _ (List.mem_append_right _ (List.mem_singleton_self _)))

/-- A call `updateVolumes` makes. -/
def VolumeCall : Call → Prop
  | .listPersistentVolumes | .connectToEC2 | .resizeVolume _ _ | .execCommand _ _
  | .updatePersistentVolume _ => True
  | _ => False

/-- A call that changes a volume: a device resize, a filesystem resize or a record
write. -/
def ResizeCall : Call → Prop
  | .resizeVolume _ _ | .execCommand _ _ | .updatePersistentVolume _ => True
  | _ => False

theorem ResizeCall.volumeCall {call : Call} (h : ResizeCall call) : VolumeCall call := by
  cases call <;> simp_all [ResizeCall, VolumeCall]

theorem RecordWrite.resizeCall {call : Call} (h : RecordWrite call) : ResizeCall call := by
  cases call <;> simp_all [ResizeCall, RecordWrite]

/-- A returning pass of the loop makes only volume calls, and writes only its volume's
record with the new capacity, right after resizing the device and the filesystem. -/
theorem updateVolume_calls (env : Env) (q : Quantity) (pv : PersistentVolume)
    (c c' : Cluster) (r : Option String) (h : updateVolume env q (sizeInGib q) pv c = .ok r c') :
    ∃ made, (∀ call ∈ made, VolumeCall call) ∧ c' = { c with calls := c.calls ++ made } ∧
      (RecordsFollowResizes env c.calls → RecordsFollowResizes env c'.calls) ∧
      (∀ rec, .updatePersistentVolume rec ∈ made → rec = withStorage pv q) ∧
      (r = none → offTarget (sizeInGib q) pv = true →
        .updatePersistentVolume (withStorage pv q) ∈ made) := by
  unfold updateVolume at h
  by_cases ho : sizeInGib (quantityAt pv.capacity resourceStorage) = sizeInGib q
  · simp only [ho, ne_eq, not_true_eq_false, if_false, bind_apply, pure_apply] at h
    obtain ⟨rfl, rfl⟩ := EStateM.Result.ok.inj h
    exact ⟨[], by simp, by simp, id, by simp, fun _ ho' => by simp [offTarget, ho] at ho'⟩
  simp only [ho, ne_eq, not_false_eq_true, if_true] at h
  cases haws : getAWSVolumeId pv with
  | none => simp [haws, bind_apply] at h
  | some aws =>
  cases aws with
  | error err =>
      simp only [haws, pure_apply] at h
      obtain ⟨rfl, rfl⟩ := EStateM.Result.ok.inj h
      exact ⟨[], by simp, by simp, id, by simp, by simp⟩
  | ok volumeId =>
  simp only [haws, bind_apply, callWith_apply] at h
  cases h1 : env.resizeVolume (c.calls ++ [.resizeVolume volumeId (sizeInGib q)]) with
  | some err =>
      simp only [h1, pure_apply] at h
      obtain ⟨rfl, rfl⟩ := EStateM.Result.ok.inj h
      exact ⟨[.resizeVolume volumeId (sizeInGib q)], by simp [VolumeCall], rfl,
        fun hI => recordsFollowResizes_append_calls _ hI (by simp [RecordWrite]), by simp,
        by simp⟩
  | none =>
  simp only [h1, bind_apply, pure_apply] at h
  cases hpod : getPodNameFromPersistentVolume env.dataVolumeName pv with
  | none => simp [hpod, bind_apply] at h
  | some pod =>
  simp only [hpod, bind_apply, resizeVolumeFS_apply] at h
  cases h2 : resizeOutcome (env.execCommand
      (c.calls ++ [.resizeVolume volumeId (sizeInGib q)] ++ [.execCommand pod resizeCommand])) with
  | some err =>
      simp only [h2, pure_apply] at h
      obtain ⟨rfl, rfl⟩ := EStateM.Result.ok.inj h
      refine ⟨[.resizeVolume volumeId (sizeInGib q), .execCommand pod resizeCommand],
        by simp [VolumeCall], by simp, fun hI => ?_, by simp, by simp⟩
      simpa using recordsFollowResizes_append_calls
        [.resizeVolume volumeId (sizeInGib q), .execCommand pod resizeCommand] hI
        (by simp [RecordWrite])
  | none =>
  simp only [h2, bind_apply, pure_apply, callWith_apply] at h
  have hrfr : RecordsFollowResizes env c.calls → RecordsFollowResizes env (c.calls ++
      [.resizeVolume volumeId (sizeInGib q), .execCommand pod resizeCommand,
        .updatePersistentVolume (withStorage pv q)]) := fun hI => by
    simpa using @recordsFollowResizes_volume env _ volumeId pod (withStorage pv q) hI
      (by simpa using haws) (by simpa using hpod) (by simpa using h1) (by simpa using h2)
  cases h3 : env.updatePersistentVolume (c.calls ++ [.resizeVolume volumeId (sizeInGib q)] ++
      [.execCommand pod resizeCommand] ++ [.updatePersistentVolume (withStorage pv q)]) <;>
    simp only [h3, bind_apply, pure_apply] at h <;>
    obtain ⟨rfl, rfl⟩ := EStateM.Result.ok.inj h <;>
    exact ⟨[.resizeVolume volumeId (sizeInGib q), .execCommand pod resizeCommand,
      .updatePersistentVolume (withStorage pv q)], by simp [VolumeCall], by simp,
      fun hI => by simpa using hrfr hI, by simp, by simp⟩

/-- The loop keeps what each pass keeps; when it returns no error, every volume off
target has had its record written with the target quantity. -/
theorem updateVolumesLoop_calls (env : Env) (q : Quantity) (pvs : List PersistentVolume)
    (c c' : Cluster) (r : Option String)
    (h : updateVolumesLoop env q (sizeInGib q) pvs c = .ok r c') :
    ∃ made, (∀ call ∈ made, VolumeCall call) ∧ c' = { c with calls := c.calls ++ made } ∧
      (RecordsFollowResizes env c.calls → RecordsFollowResizes env c'.calls) ∧
      (∀ rec, .updatePersistentVolume rec ∈ made → quantityAt rec.capacity resourceStorage = q) ∧
      (r = none → ∀ pv ∈ pvs, offTarget (sizeInGib q) pv = true →
        .updatePersistentVolume (withStorage pv q) ∈ made) := by
  induction pvs generalizing c with
  | nil =>
      obtain ⟨-, rfl⟩ := EStateM.Result.ok.inj h
      exact ⟨[], by simp, by simp, id, by simp, by simp⟩
  | cons pv pvs ih =>
      obtain ⟨r₁, c₁, h₁, h⟩ := bind_ok c h
      obtain ⟨made, hmade, rfl, hrfr, hrec, hoff⟩ := updateVolume_calls env q pv c c₁ r₁ h₁
      have hrec' : ∀ rec, .updatePersistentVolume rec ∈ made →
          quantityAt rec.capacity resourceStorage = q := fun rec hm => by
        rw [hrec rec hm, quantityAt_withStorage]
      cases r₁ with
      | some err =>
          obtain ⟨rfl, rfl⟩ := EStateM.Result.ok.inj h
          exact ⟨made, hmade, rfl, hrfr, hrec', by simp⟩
      | none =>
          obtain ⟨made', hmade', rfl, hrfr', hrec₂, hoff'⟩ := ih _ h
          refine ⟨made ++ made', by simpa [or_imp, forall_and] using ⟨hmade, hmade'⟩, by simp,
            fun hI => by simpa using hrfr' (hrfr hI), ?_, fun hr => ?_⟩
          · intro rec hm
            rcases List.mem_append.mp hm with hm | hm
            exacts [hrec' rec hm, hrec₂ rec hm]
          · rintro pv' (_ | ⟨_, hm⟩) ho
            · exact List.mem_append_left _ (hoff rfl ho)
            · exact List.mem_append_right _ (hoff' hr pv' hm ho)

theorem updateVolumes_calls_within (env : Env) (newVolume : Volume) (c c' : Cluster)
    (r : Option String) (h : updateVolumes env newVolume c = .ok r c') :
    ∃ made, (∀ call ∈ made, VolumeCall call) ∧ c' = { c with calls := c.calls ++ made } ∧
      (RecordsFollowResizes env c.calls → RecordsFollowResizes env c'.calls) := by
  cases hl : env.listPersistentVolumes with
  | error err =>
      simp [updateVolumes, bind_apply, hl] at h
      refine ⟨[.listPersistentVolumes], by simp [VolumeCall], h.2.symm, fun hI => ?_⟩
      rw [← h.2]
      exact recordsFollowResizes_append_calls _ hI (by simp [RecordWrite])
  | ok pvs =>
  have hpre : ∀ hI : RecordsFollowResizes env c.calls,
      RecordsFollowResizes env (c.calls ++ [.listPersistentVolumes, .connectToEC2]) :=
    fun hI => recordsFollowResizes_append_calls _ hI (by simp [RecordWrite])
  cases hc : env.connectToEC2 with
  | some err =>
      simp [updateVolumes, bind_apply, hl, hc] at h
      exact ⟨[.listPersistentVolumes, .connectToEC2], by simp [VolumeCall], by simp [← h.2],
        fun hI => by simpa [← h.2] using hpre hI⟩
  | none =>
      simp [updateVolumes, bind_apply, hl, hc] at h
      obtain ⟨made, hmade, rfl, hrfr, -⟩ := updateVolumesLoop_calls env _ pvs _ c' r h
      exact ⟨[.listPersistentVolumes, .connectToEC2] ++ made,
        by simpa [or_imp, forall_and, VolumeCall] using hmade, by simp,
        fun hI => by simpa using hrfr (by simpa using hpre hI)⟩

/-- The four ways the steps of one volume can go: the device resize fails, the
filesystem resize fails, the record update fails, or all three succeed and the run
goes on. -/
theorem runSteps_volumeSteps (env : Env) (q : Quantity) (n : Int) (volumeId : String)
    (pod : NamespacedName) (pv : PersistentVolume) (rest : List Step) (c : Cluster) :
    (env.resizeVolume (c.calls ++ [.resizeVolume volumeId n]) ≠ none ∧
      ∃ msg, runSteps (volumeSteps env q n volumeId pod pv ++ rest) c =
        .ok (some msg) { c with calls := c.calls ++ [.resizeVolume volumeId n] }) ∨
    (env.resizeVolume (c.calls ++ [.resizeVolume volumeId n]) = none ∧
      resizeOutcome (env.execCommand
        (c.calls ++ [.resizeVolume volumeId n, .execCommand pod resizeCommand])) ≠ none ∧
      ∃ msg, runSteps (volumeSteps env q n volumeId pod pv ++ rest) c =
        .ok (some msg) { c with calls :=
          c.calls ++ [.resizeVolume volumeId n, .execCommand pod resizeCommand] }) ∨
    (env.resizeVolume (c.calls ++ [.resizeVolume volumeId n]) = none ∧
      resizeOutcome (env.execCommand
        (c.calls ++ [.resizeVolume volumeId n, .execCommand pod resizeCommand])) = none ∧
      ∃ msg, runSteps (volumeSteps env q n volumeId pod pv ++ rest) c =
        .ok (some msg) { c with calls := c.calls ++ [.resizeVolume volumeId n,
          .execCommand pod resizeCommand, .updatePersistentVolume (withStorage pv q)] }) ∨
    (env.resizeVolume (c.calls ++ [.resizeVolume volumeId n]) = none ∧
      resizeOutcome (env.execCommand
        (c.calls ++ [.resizeVolume volumeId n, .execCommand pod resizeCommand])) = none ∧
      runSteps (volumeSteps env q n volumeId pod pv ++ rest) c =
        runSteps rest { c with calls := c.calls ++ [.resizeVolume volumeId n,
          .execCommand pod resizeCommand, .updatePersistentVolume (withStorage pv q)] }) := by
  simp only [runSteps_append, volumeSteps, runSteps, bind_apply, callRecording_apply, id_eq]
  cases h1 : env.resizeVolume (c.calls ++ [.resizeVolume volumeId n]) with
  | some err => simp
  | none =>
      cases h2 : resizeOutcome (env.execCommand
          (c.calls ++ [.resizeVolume volumeId n, .execCommand pod resizeCommand])) with
      | some err => simp [h2, bind_apply]
      | none =>
          cases h3 : env.updatePersistentVolume (c.calls ++ [.resizeVolume volumeId n,
              .execCommand pod resizeCommand, .updatePersistentVolume (withStorage pv q)]) <;>
            simp [h2, h3, bind_apply]

/-- A call made for an off-target volume of `pvs`: its device resize, its filesystem
resize or its record update. -/
def ForOffTargetVolume (env : Env) (q : Quantity) (n : Int) (pvs : List PersistentVolume)
    (call : Call) : Prop :=
  ∃ pv ∈ pvs, offTarget n pv = true ∧ ∃ volumeId pod, getAWSVolumeId pv = some (.ok volumeId) ∧
    getPodNameFromPersistentVolume env.dataVolumeName pv = some pod ∧
    call ∈ [.resizeVolume volumeId n, .execCommand pod resizeCommand,
      .updatePersistentVolume (withStorage pv q)]

theorem runSteps_resizePlan_calls (env : Env) (q : Quantity) (n : Int)
    (pvs : List PersistentVolume) (c c' : Cluster) (r : Option String)
    (hrun : runSteps (resizePlan env q n pvs) c = .ok r c') :
    ∃ made, c'.calls = c.calls ++ made ∧ ∀ call ∈ made, ForOffTargetVolume env q n pvs call := by
  induction pvs generalizing c with
  | nil =>
      simp only [resizePlan, runSteps, pure_apply, EStateM.Result.ok.injEq] at hrun
      exact ⟨[], by simp [← hrun.2], by simp⟩
  | cons pv pvs ih =>
      have mono : ∀ call, ForOffTargetVolume env q n pvs call →
          ForOffTargetVolume env q n (pv :: pvs) call := fun call ⟨pv', hm, h⟩ =>
        ⟨pv', List.mem_cons_of_mem _ hm, h⟩
      simp only [resizePlan] at hrun
      split at hrun
      · rename_i ho
        split at hrun
        · rename_i volumeId pod haws hpod
          have own : ∀ call ∈ [Call.resizeVolume volumeId n, .execCommand pod resizeCommand,
              .updatePersistentVolume (withStorage pv q)],
              ForOffTargetVolume env q n (pv :: pvs) call :=
            fun call hc => ⟨pv, List.mem_cons_self _ _, ho, volumeId, pod, haws, hpod, hc⟩
          rcases runSteps_volumeSteps env q n volumeId pod pv (resizePlan env q n pvs) c with
            ⟨-, msg, hr⟩ | ⟨-, -, msg, hr⟩ | ⟨-, -, msg, hr⟩ | ⟨-, -, hr⟩ <;> rw [hr] at hrun
          · obtain ⟨-, rfl⟩ := EStateM.Result.ok.inj hrun
            exact ⟨_, rfl, fun call hc => own call (List.Sublist.subset (by simp) hc)⟩
          · obtain ⟨-, rfl⟩ := EStateM.Result.ok.inj hrun
            exact ⟨_, rfl, fun call hc => own call (List.Sublist.subset (by simp) hc)⟩
          · obtain ⟨-, rfl⟩ := EStateM.Result.ok.inj hrun
            exact ⟨_, rfl, own⟩
          · obtain ⟨made, hmade, hfor⟩ := ih _ hrun
            refine ⟨[.resizeVolume volumeId n, .execCommand pod resizeCommand,
              .updatePersistentVolume (withStorage pv q)] ++ made, by simp [hmade],
              fun call hc => ?_⟩
            rcases List.mem_append.mp hc with hc | hc
            · exact own call hc
            · exact mono call (hfor call hc)
        all_goals
          simp only [runSteps, pure_apply, EStateM.Result.ok.injEq] at hrun
          exact ⟨[], by simp [← hrun.2], by simp⟩
      · obtain ⟨made, hmade, hfor⟩ := ih c hrun
        exact ⟨made, hmade, fun call hc => mono call (hfor call hc)⟩

theorem runSteps_connectStep (env : Env) (rest : List Step) (c : Cluster) :
    runSteps (connectStep env :: rest) c =
      match env.connectToEC2 with
      | some _ =>
          .ok (some "could not connect to EC2") { c with calls := c.calls ++ [.connectToEC2] }
      | none => runSteps rest { c with calls := c.calls ++ [.connectToEC2] } := by
  cases h : env.connectToEC2 <;> simp [connectStep, runSteps, bind_apply, h]

theorem readable_of_claim (dataVolumeName : String) (pv : PersistentVolume)
    (h : pv.awsElasticBlockStore ≠ none ∧
      ∃ ns pod, pv.claimRef = some ⟨ns, dataVolumeName ++ "-" ++ pod⟩) :
    Readable dataVolumeName pv := by
  obtain ⟨haws, ns, pod, hclaim⟩ := h
  refine ⟨?_, _, getPodNameFromPersistentVolume_of_claim _ _ ns pod hclaim⟩
  cases hv : pv.awsElasticBlockStore with
  | none => exact absurd hv haws
  | some id => simp only [getAWSVolumeId, hv]; split <;> [exact ⟨_, rfl⟩; split <;> exact ⟨_, rfl⟩]

theorem updateVolumes_calls (env : Env) (newVolume : Volume) (pvs : List PersistentVolume)
    (hlist : env.listPersistentVolumes = .ok pvs)
    (hpv : ∀ pv ∈ pvs, offTarget (sizeInGib (parseQuantity env newVolume.size).1) pv = true →
      Readable env.dataVolumeName pv) (c : Cluster) :
    let q := (parseQuantity env newVolume.size).1
    ∃ r c', updateVolumes env newVolume c = .ok r c' ∧ ∃ made,
      c'.calls = c.calls ++ [.listPersistentVolumes, .connectToEC2] ++ made ∧
      ∀ call ∈ made, ForOffTargetVolume env q (sizeInGib q) pvs call := by
  intro q
  rw [updateVolumes_eq_runSteps env newVolume pvs hlist hpv c, runSteps_connectStep]
  split
  · exact ⟨_, _, rfl, [], by simp, by simp⟩
  · obtain ⟨r, c', hrun⟩ := runSteps_ok { c with calls := c.calls ++ [.listPersistentVolumes] ++
      [.connectToEC2] } (resizePlan env q (sizeInGib q) pvs)
    obtain ⟨made, hmade, hfor⟩ := runSteps_resizePlan_calls env q _ pvs _ c' r hrun
    exact ⟨r, c', hrun, made, by simp [hmade], hfor⟩

/-- `updateVolumes` returns and runs exactly the resize plan when every volume off target
has an EBS source and a claim `<DataVolumeName>-<pod>`: device, filesystem and record of
each such volume in list order, up to the first failure, and nothing for the others. -/
theorem updateVolumes_resizes_in_order (env : Env) (newVolume : Volume)
    (pvs : List PersistentVolume) (hlist : env.listPersistentVolumes = .ok pvs)
    (hpv : ∀ pv ∈ pvs, offTarget (sizeInGib (parseQuantity env newVolume.size).1) pv = true →
      pv.awsElasticBlockStore ≠ none ∧
        ∃ ns pod, pv.claimRef = some ⟨ns, env.dataVolumeName ++ "-" ++ pod⟩) (c : Cluster) :
    let q := (parseQuantity env newVolume.size).1
    let n := sizeInGib q
    let pre := c.calls ++ [.listPersistentVolumes]
    (∀ pv ∈ pvs, ∀ ns pod, pv.claimRef = some ⟨ns, env.dataVolumeName ++ "-" ++ pod⟩ →
      getPodNameFromPersistentVolume env.dataVolumeName pv = some ⟨ns, pod⟩) ∧
    updateVolumes env newVolume c =
      runSteps (connectStep env :: resizePlan env q n pvs) { c with calls := pre } ∧
    ∃ r c', updateVolumes env newVolume c = .ok r c' ∧
      (∃ ss rest, connectStep env :: resizePlan env q n pvs = ss ++ rest ∧ Succeeds pre ss ∧
        (rest = [] ∧ r = none ∧ c'.calls = pre ++ stepCalls ss ∨
          ∃ s rest' made err, rest = s :: rest' ∧ StepFails (pre ++ stepCalls ss) s made err ∧
            r = some err ∧ c'.calls = pre ++ stepCalls ss ++ made)) ∧
      (RecordsFollowResizes env c.calls → RecordsFollowResizes env c'.calls) ∧
      ∃ made, c'.calls = pre ++ .connectToEC2 :: made ∧
        ∀ call ∈ made, ForOffTargetVolume env q n pvs call := by
  intro q n pre
  have hread : ∀ pv ∈ pvs, offTarget n pv = true → Readable env.dataVolumeName pv :=
    fun pv hm ho => readable_of_claim _ pv (hpv pv hm ho)
  have heq : updateVolumes env newVolume c =
      runSteps (connectStep env :: resizePlan env q n pvs) { c with calls := pre } :=
    updateVolumes_eq_runSteps env newVolume pvs hlist hread c
  refine ⟨fun pv _ ns pod => getPodNameFromPersistentVolume_of_claim _ pv ns pod, heq, ?_⟩
  obtain ⟨ss, rest, hs, hsucc, hcases⟩ := runSteps_apply { c with calls := pre }
    (connectStep env :: resizePlan env q n pvs)
  obtain ⟨r, c', hrun, hdecomp⟩ : ∃ r c', updateVolumes env newVolume c = .ok r c' ∧
      (rest = [] ∧ r = none ∧ c'.calls = pre ++ stepCalls ss ∨
        ∃ s rest' made err, rest = s :: rest' ∧ StepFails (pre ++ stepCalls ss) s made err ∧
          r = some err ∧ c'.calls = pre ++ stepCalls ss ++ made) := by
    rw [heq]
    rcases hcases with ⟨hr, hrun⟩ | ⟨s, rest', made, err, hr, hf, hrun⟩
    · exact ⟨_, _, hrun, .inl ⟨hr, rfl, rfl⟩⟩
    · exact ⟨_, _, hrun, .inr ⟨s, rest', made, err, hr, hf, rfl, rfl⟩⟩
  refine ⟨r, c', hrun, ⟨ss, rest, hs, hsucc, hdecomp⟩, fun hinv => ?_, ?_⟩
  · obtain ⟨-, -, -, hrfr⟩ := updateVolumes_calls_within env newVolume c c' r hrun
    exact hrfr hinv
  · obtain ⟨_, _, hrun', made, hmade, hfor⟩ := updateVolumes_calls env newVolume pvs hlist hread c
    obtain ⟨-, rfl⟩ := EStateM.Result.ok.inj (hrun.symm.trans hrun')
    exact ⟨made, by simp [hmade, pre], hfor⟩

/-- A 10 GiB EBS volume bound to the claim `pgdata-acid-0`. -/
def samplePV : PersistentVolume :=
  ⟨"pv-1", Finmap.singleton "storage" ⟨10737418240⟩, some "aws://eu-central-1b/vol-1",
    some ⟨"default", "pgdata-acid-0"⟩⟩

theorem updateVolumes_resizes_in_order_sample :
    let env := Env.succeeding [samplePV] (fun _ => .ok ⟨21474836480⟩) fun _ => .error ""
    updateVolumes env ⟨"20Gi", ""⟩ sampleCluster =
      runSteps (connectStep env :: resizePlan env ⟨21474836480⟩ 20 [samplePV])
        { sampleCluster with calls := [.listPersistentVolumes] } := by
  intro env
  exact (updateVolumes_resizes_in_order env ⟨"20Gi", ""⟩ [samplePV] rfl
    (by simp only [List.mem_singleton]; rintro _ rfl -; exact ⟨by simp [samplePV], _, _, rfl⟩)
    sampleCluster).2.1

/-- A second volume off target without an EBS source: having resized the first volume,
the loop dereferences the missing source and panics instead of returning an error. -/
theorem updateVolumes_panics_without_ebs :
    let pv₂ : PersistentVolume := ⟨"pv-2", Finmap.singleton "storage" ⟨10737418240⟩, none,
      some ⟨"default", "pgdata-acid-1"⟩⟩
    let env := Env.succeeding [samplePV, pv₂] (fun _ => .ok ⟨21474836480⟩) fun _ => .error ""
    pv₂.awsElasticBlockStore = none ∧ updateVolumes env ⟨"20Gi", ""⟩ sampleCluster =
      .error "nil pointer dereference" { sampleCluster with calls := [.listPersistentVolumes,
        .connectToEC2, .resizeVolume "vol-1" 20, .execCommand ⟨"default", "acid-0"⟩ resizeCommand,
        .updatePersistentVolume (withStorage samplePV ⟨21474836480⟩)] } :=
  ⟨rfl, rfl⟩

/-- A size that `ParseQuantity` rejects is not reported: its error is overwritten, and
`updateVolumes` runs the resize plan to the zero quantity, 0 GiB. -/
theorem updateVolumes_of_rejected_size (env : Env) (newVolume : Volume) (e : String)
    (herr : env.parseQuantity newVolume.size = .error e) (pvs : List PersistentVolume)
    (hlist : env.listPersistentVolumes = .ok pvs)
    (hpv : ∀ pv ∈ pvs, Readable env.dataVolumeName pv) (c : Cluster) :
    updateVolumes env newVolume c = runSteps (connectStep env :: resizePlan env 0 0 pvs)
      { c with calls := c.calls ++ [.listPersistentVolumes] } := by
  simpa [parseQuantity, herr] using
    updateVolumes_eq_runSteps env newVolume pvs hlist (fun pv hm _ => hpv pv hm) c

theorem updateVolumes_resizes_to_zero_sample :
    let env := Env.succeeding [samplePV]
      (fun _ => .error "quantities must match the regular expression") fun _ => .error ""
    env.parseQuantity "10Gb" = .error "quantities must match the regular expression" ∧
    updateVolumes env ⟨"10Gb", ""⟩ sampleCluster =
      .ok none { sampleCluster with calls := [.listPersistentVolumes, .connectToEC2,
        .resizeVolume "vol-1" 0, .execCommand ⟨"default", "acid-0"⟩ resizeCommand,
        .updatePersistentVolume (withStorage samplePV 0)] } := by
  intro env
  refine ⟨rfl, ?_⟩
  rw [updateVolumes_of_rejected_size env _ _ rfl [samplePV] rfl
    (by simp only [List.mem_singleton]; rintro _ rfl; exact ⟨⟨_, rfl⟩, _, rfl⟩) sampleCluster]
  rfl

/-- The records the API server holds after `call`: a record update replaces every listed
record of its name. -/
def storeRecord (pvs : List PersistentVolume) : Call → List PersistentVolume
  | .updatePersistentVolume rec => pvs.map fun pv => if pv.name = rec.name then rec else pv
  | _ => pvs

/-- The records the API server holds after the calls `calls`, from the listed `pvs`. -/
def storedRecords (pvs : List PersistentVolume) (calls : List Call) : List PersistentVolume :=
  calls.foldl storeRecord pvs

/-- A stored record is one the calls wrote, or a listed one that no write named. -/
theorem mem_storedRecords {pvs : List PersistentVolume} {calls : List Call}
    {x : PersistentVolume} (h : x ∈ storedRecords pvs calls) :
    Call.updatePersistentVolume x ∈ calls ∨
      x ∈ pvs ∧ ∀ rec, Call.updatePersistentVolume rec ∈ calls → rec.name ≠ x.name := by
  induction calls generalizing pvs with
  | nil => exact .inr ⟨h, by simp⟩
  | cons call calls ih =>
      rcases ih h with hw | ⟨hx, hnames⟩
      · exact .inl (List.mem_cons_of_mem _ hw)
      · cases call with
        | updatePersistentVolume rec₀ =>
            obtain ⟨pv, hpv, rfl⟩ := List.mem_map.mp hx
            by_cases hn : pv.name = rec₀.name
            · simp [hn]
            · refine .inr ⟨by simpa [hn] using hpv, ?_⟩
              simp only [hn, if_false] at hnames ⊢
              rintro rec (⟨⟩ | ⟨_, hrec⟩)
              · exact Ne.symm hn
              · exact hnames rec hrec
        | _ =>
            refine .inr ⟨hx, fun rec hrec => hnames rec ?_⟩
            simpa using hrec

theorem updateVolumesLoop_of_onTarget (env : Env) (q : Quantity) (n : Int)
    (pvs : List PersistentVolume) (h : ∀ pv ∈ pvs, offTarget n pv = false) (c : Cluster) :
    updateVolumesLoop env q n pvs c = .ok none c := by
  induction pvs with
  | nil => rfl
  | cons pv pvs ih =>
      rw [List.forall_mem_cons] at h
      simp [updateVolumesLoop, bind_apply, updateVolume_of_onTarget env q n pv h.1, ih h.2]

/-- After a loop that returned no error, every record the API server holds is at the
target size. -/
theorem storedRecords_onTarget (env : Env) (q : Quantity) (pvs : List PersistentVolume)
    (c c' : Cluster) (h : updateVolumesLoop env q (sizeInGib q) pvs c = .ok none c') :
    ∃ made, c'.calls = c.calls ++ made ∧
      ∀ x ∈ storedRecords pvs made, offTarget (sizeInGib q) x = false := by
  obtain ⟨made, -, rfl, -, hrec, hoff⟩ := updateVolumesLoop_calls env q pvs c c' none h
  refine ⟨made, rfl, fun x hx => ?_⟩
  rcases mem_storedRecords hx with hw | ⟨hx, hnames⟩
  · simp [offTarget, hrec x hw]
  · by_contra ho
    exact hnames _ (hoff rfl x hx (by simpa using ho)) rfl

/-- A second `updateVolumes` to the same size, on the records a first successful run left,
only lists the volumes and connects to EC2. -/
theorem updateVolumes_idempotent (env env' : Env) (newVolume : Volume)
    (pvs : List PersistentVolume) (c c' : Cluster) (made : List Call)
    (hlist : env.listPersistentVolumes = .ok pvs)
    (h : updateVolumes env newVolume c = .ok none c') (hmade : c'.calls = c.calls ++ made)
    (hsize : env'.parseQuantity newVolume.size = env.parseQuantity newVolume.size)
    (hlist' : env'.listPersistentVolumes = .ok (storedRecords pvs made)) (c₂ : Cluster) :
    ∃ r, updateVolumes env' newVolume c₂ =
        .ok r { c₂ with calls := c₂.calls ++ [.listPersistentVolumes, .connectToEC2] } ∧
      (env'.connectToEC2 = none → r = none) := by
  have hq : parseQuantity env' newVolume.size = parseQuantity env newVolume.size := by
    simp only [parseQuantity, hsize]
  cases hc : env.connectToEC2 <;> simp [updateVolumes, bind_apply, hlist, hc] at h
  obtain ⟨made', hmade', hon⟩ := storedRecords_onTarget env _ pvs _ c' h
  obtain rfl : made = [.listPersistentVolumes, .connectToEC2] ++ made' :=
    List.append_cancel_left (hmade.symm.trans (by simpa using hmade'))
  -- listing and connecting write no record
  change env'.listPersistentVolumes = .ok (storedRecords pvs made') at hlist'
  cases hc' : env'.connectToEC2 <;>
    simp [updateVolumes, bind_apply, hlist', hc', hq, updateVolumesLoop_of_onTarget _ _ _ _ hon]

/-- A first run resizes the 10 GiB volume to 20 GiB; a second run on the stored record
resizes nothing. -/
theorem updateVolumes_idempotent_sample :
    let env := Env.succeeding [samplePV] (fun _ => .ok ⟨21474836480⟩) fun _ => .error ""
    let made := [.listPersistentVolumes, .connectToEC2, .resizeVolume "vol-1" 20,
      .execCommand ⟨"default", "acid-0"⟩ resizeCommand,
      .updatePersistentVolume (withStorage samplePV ⟨21474836480⟩)]
    let env' := { env with listPersistentVolumes := .ok (storedRecords [samplePV] made) }
    updateVolumes env ⟨"20Gi", ""⟩ sampleCluster = .ok none { sampleCluster with calls := made } ∧
      ∃ r, updateVolumes env' ⟨"20Gi", ""⟩ sampleCluster = .ok r
        { sampleCluster with calls := [.listPersistentVolumes, .connectToEC2] } ∧
        (env'.connectToEC2 = none → r = none) := by
  intro env made env'
  have h : updateVolumes env ⟨"20Gi", ""⟩ sampleCluster =
      .ok none { sampleCluster with calls := made } := rfl
  exact ⟨h, updateVolumes_idempotent env env' _ [samplePV] _ _ made rfl h rfl rfl rfl _⟩

end PostgresOperator
