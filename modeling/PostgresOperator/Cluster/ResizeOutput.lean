import PostgresOperator.Cluster.Volumes
/-!
# The verdict of the filesystem resize

`resizeVolumeFS` trusts a run of `resize2fs` when its output says `Nothing to do`, or says
`on-line resizing required` and matches `ext2fsSuccessRegexp`. The model reads that
pattern with a scanner, `ext2fsSuccessAt`, tried at every suffix by `ext2fsSuccess`.
`Ext2fsLine` states the language the pattern denotes, piece by piece as it is written,
and the scanner accepts exactly it. A `+` run is taken whole, with no backtracking, which
is sound because every piece after a run starts with a character outside its class.
-/
namespace PostgresOperator

theorem literal_eq_some {lit : String} {s r : List Char} :
    literal lit s = some r ↔ s = lit.data ++ r := by
  have hlen : lit.length = lit.data.length := rfl
  unfold literal
  constructor
  · intro h
    split at h
    · rename_i hp
      obtain ⟨t, rfl⟩ := hp
      rw [hlen, List.drop_left] at h
      rw [Option.some.inj h]
    · cases h
  · rintro rfl
    rw [if_pos (List.prefix_append _ _), hlen, List.drop_left]

/-- A run of `p` followed by a character outside `p` is split off whole. -/
theorem takeWhile_dropWhile_run {p : Char → Bool} (run rest : List Char)
    (hrun : ∀ x ∈ run, p x = true) (hrest : ∀ x ∈ rest.head?, p x = false) :
    (run ++ rest).takeWhile p = run ∧ (run ++ rest).dropWhile p = rest := by
  rw [List.takeWhile_append_of_pos hrun, List.dropWhile_append_of_pos hrun]
  cases rest with
  | nil => simp
  | cons x rest => simp [List.takeWhile_cons, List.dropWhile_cons, hrest x rfl]

theorem plusRun_eq_some {cls : Char → Bool} {s r : List Char} :
    plusRun cls s = some r ↔ ∃ run, s = run ++ r ∧ run ≠ [] ∧ (∀ x ∈ run, cls x = true) ∧
      ∀ x ∈ r.head?, cls x = false := by
  unfold plusRun
  constructor
  · intro h
    split at h
    · cases h
    · rename_i hlen
      obtain rfl := Option.some.inj h
      refine ⟨s.takeWhile cls, (List.takeWhile_append_dropWhile cls s).symm,
        fun h => hlen (by simp [h]), fun x hx => List.mem_takeWhile_imp hx, fun x hx => ?_⟩
      have hnot := List.head_dropWhile_not cls s
      cases hd : s.dropWhile cls with
      | nil => simp [hd] at hx
      | cons y ys =>
          simp only [hd, List.head?_cons, Option.mem_def, Option.some.injEq] at hx
          subst hx
          simpa [hd] using hnot (by simp [hd])
  · rintro ⟨run, rfl, hne, hrun, hrest⟩
    obtain ⟨ht, hd⟩ := takeWhile_dropWhile_run run r hrun hrest
    simp [ht, hd, hne]

theorem isWordChar_of_isDigit {x : Char} (h : x.isDigit = true) : isWordChar x = true := by
  simp [isWordChar, Char.isAlphanum, h]

theorem countWithUnit_eq_some {s r : List Char} :
    countWithUnit s = some r ↔ ∃ count unit, s = "(".data ++ count ++ unit ++ ")".data ++ r ∧
      count ≠ [] ∧ (∀ x ∈ count, x.isDigit = true) ∧ unit ≠ [] ∧
      ∀ x ∈ unit, isWordChar x = true := by
  unfold countWithUnit
  constructor
  · intro h
    obtain ⟨s₁, h₁, h⟩ := Option.bind_eq_some.mp h
    rw [literal_eq_some] at h₁
    dsimp only at h
    split at h
    · rename_i hrun
      rw [literal_eq_some] at h
      obtain ⟨hlen, hhead⟩ : 2 ≤ (s₁.takeWhile isWordChar).length ∧
          ((s₁.takeWhile isWordChar).head?.map Char.isDigit).getD false = true := by
        simpa using hrun
      obtain ⟨y, rest, hyr⟩ : ∃ y rest, s₁.takeWhile isWordChar = y :: rest := by
        cases ht : s₁.takeWhile isWordChar with
        | nil => simp [ht] at hlen
        | cons y rest => exact ⟨y, rest, rfl⟩
      have hword : ∀ x ∈ y :: rest, isWordChar x = true := fun x hx =>
        List.mem_takeWhile_imp (hyr ▸ hx)
      refine ⟨[y], rest, ?_, by simp, by simpa [hyr] using hhead, ?_,
        fun x hx => hword x (by simp [hx])⟩
      · rw [h₁, ← List.takeWhile_append_dropWhile isWordChar s₁, hyr, h]
        simp
      · rintro rfl
        simp [hyr] at hlen
    · cases h
  · rintro ⟨count, unit, rfl, hc, hcd, hu, huw⟩
    have hrun : ∀ x ∈ count ++ unit, isWordChar x = true := by
      simpa [or_imp, forall_and] using ⟨fun x hx => isWordChar_of_isDigit (hcd x hx), huw⟩
    obtain ⟨ht, hd⟩ := takeWhile_dropWhile_run _ (")".data ++ r) hrun (by rintro x ⟨⟩; rfl)
    obtain ⟨y, count, rfl⟩ := List.exists_cons_of_ne_nil hc
    have h₁ : literal "(" ("(".data ++ (y :: count) ++ unit ++ ")".data ++ r) =
        some ((y :: count ++ unit) ++ (")".data ++ r)) :=
      literal_eq_some.mpr (by simp only [List.append_assoc])
    rw [h₁, Option.bind_eq_bind, Option.some_bind, ht, hd, literal_eq_some.mpr rfl]
    simp [hu, hcd y (List.mem_cons_self _ _)]

theorem plusRun_append {cls : Char → Bool} {run rest : List Char} (hne : run ≠ [])
    (hrun : ∀ x ∈ run, cls x = true) (hrest : ∀ x ∈ rest.head?, cls x = false) :
    plusRun cls (run ++ rest) = some rest :=
  plusRun_eq_some.mpr ⟨run, rfl, hne, hrun, hrest⟩

/-- `s` begins with a line of `ext2fsSuccessRegexp`: a device, a block count, a
parenthesised count and unit, and one character other than a newline for the final `.`. -/
def Ext2fsLine (s : List Char) : Prop :=
  ∃ dev size count unit ch rest,
    s = "The filesystem on ".data ++ dev ++ " is now ".data ++ size ++ " (".data ++ count ++
      unit ++ ") blocks long".data ++ ch :: rest ∧
    dev ≠ [] ∧ (∀ x ∈ dev, isDeviceChar x = true) ∧ size ≠ [] ∧ (∀ x ∈ size, x.isDigit = true) ∧
    count ≠ [] ∧ (∀ x ∈ count, x.isDigit = true) ∧ unit ≠ [] ∧
    (∀ x ∈ unit, isWordChar x = true) ∧ ch ≠ '\n'

theorem literal_append (lit : String) (r : List Char) : literal lit (lit.data ++ r) = some r :=
  literal_eq_some.mpr rfl

theorem countWithUnit_append {count unit : List Char} (hc : count ≠ [])
    (hcd : ∀ x ∈ count, x.isDigit = true) (hu : unit ≠ []) (huw : ∀ x ∈ unit, isWordChar x = true)
    (r : List Char) : countWithUnit ("(".data ++ (count ++ (unit ++ (")".data ++ r)))) = some r :=
  countWithUnit_eq_some.mpr ⟨count, unit, by simp only [List.append_assoc], hc, hcd, hu, huw⟩

/-- The matcher at one position accepts exactly the strings that begin with a line of the
pattern's language. -/
theorem ext2fsSuccessAt_iff (s : List Char) : ext2fsSuccessAt s = true ↔ Ext2fsLine s := by
  simp only [ext2fsSuccessAt, Option.isSome_iff_exists, Option.bind_eq_bind,
    Option.bind_eq_some]
  constructor
  · rintro ⟨u, s₁, h₁, s₂, h₂, s₃, h₃, s₄, h₄, s₅, h₅, s₆, h₆, s₇, h₇, h⟩
    rw [literal_eq_some] at h₁ h₃ h₅ h₇
    obtain ⟨dev, rfl, hdev, hdevc, -⟩ := plusRun_eq_some.mp h₂
    obtain ⟨size, rfl, hsize, hsizec, -⟩ := plusRun_eq_some.mp h₄
    obtain ⟨count, unit, rfl, hc, hcd, hu, huw⟩ := countWithUnit_eq_some.mp h₆
    obtain ⟨ch, rest, rfl, hch⟩ : ∃ ch rest, s₇ = ch :: rest ∧ ch ≠ '\n' := by
      cases s₇ with
      | nil => cases h
      | cons ch rest => exact ⟨ch, rest, rfl, fun hn => by simp [hn] at h⟩
    subst h₁ h₃ h₅ h₇
    exact ⟨dev, size, count, unit, ch, rest, by simp, hdev, hdevc, hsize, hsizec, hc, hcd, hu,
      huw, hch⟩
  · rintro ⟨dev, size, count, unit, ch, rest, rfl, hdev, hdevc, hsize, hsizec, hc, hcd, hu, huw,
      hch⟩
    rw [show " (".data = " ".data ++ "(".data from rfl,
      show ") blocks long".data = ")".data ++ " blocks long".data from rfl]
    simp -proj only [List.append_assoc]
    refine ⟨(), _, literal_append _ _, _, plusRun_append hdev hdevc ?_, _, literal_append _ _, _,
      plusRun_append hsize hsizec ?_, _, literal_append _ _, _,
      countWithUnit_append hc hcd hu huw _, _, literal_append _ _, if_neg hch⟩
    all_goals rintro x ⟨⟩; rfl

/-- The regular expression matches `out` exactly when a line of its language starts
somewhere in `out`. -/
theorem ext2fsSuccess_iff (out : String) :
    ext2fsSuccess out = true ↔ ∃ pre t, out.data = pre ++ t ∧ Ext2fsLine t := by
  simp only [ext2fsSuccess, List.any_eq_true, List.mem_tails, ext2fsSuccessAt_iff]
  constructor
  · rintro ⟨t, ⟨pre, h⟩, ht⟩
    exact ⟨pre, t, h.symm, ht⟩
  · rintro ⟨pre, t, h, ht⟩
    exact ⟨t, ⟨pre, h.symm⟩, ht⟩

/-- `resizeVolumeFS` runs one command on the pod and succeeds exactly when its output says
there is nothing to do, or that on-line resizing was required with an `Ext2fsLine`. -/
theorem resizeVolumeFS_verdict (env : Env) (pod : NamespacedName) (c : Cluster) (out : String)
    (err : Option String)
    (hreply : env.execCommand (c.calls ++ [.execCommand pod resizeCommand]) = (out, err)) :
    ∃ r, resizeVolumeFS env pod c =
        .ok r { c with calls := c.calls ++ [.execCommand pod resizeCommand] } ∧
      (r = none ↔ err = none ∧ ("Nothing to do".data <:+: out.data ∨
        "on-line resizing required".data <:+: out.data ∧
          ∃ pre t, out.data = pre ++ t ∧ Ext2fsLine t)) ∧
      (∀ e, err = some e → r = some e) ∧
      (err = none → r ≠ none → r = some s!"unrecognized output: {out}, assuming error") := by
  refine ⟨_, by rw [resizeVolumeFS_apply, hreply], ?_⟩
  cases err with
  | some e => simp [resizeOutcome]
  | none =>
      simp only [resizeOutcome, containsStr, ← ext2fsSuccess_iff]
      split <;> simp_all

set_option maxRecDepth 4000 in
/-- The output of an on-line resize by `resize2fs` is accepted. -/
theorem resizeVolumeFS_verdict_sample :
    let out := "Filesystem at /dev/xvdb is mounted on /home/postgres/pgdata; " ++
      "on-line resizing required\nThe filesystem on /dev/xvdb is now 2621440 (4k) blocks long.\n"
    let env := { Env.succeeding [] (fun _ => .ok 0) (fun _ => .error "") with
      execCommand := fun _ => (out, none) }
    let pod : NamespacedName := ⟨"default", "acid-0"⟩
    resizeVolumeFS env pod sampleCluster =
      .ok none { sampleCluster with
        calls := sampleCluster.calls ++ [.execCommand pod resizeCommand] } := by
  intro out env pod
  obtain ⟨r, h, hnone, -⟩ := resizeVolumeFS_verdict env pod sampleCluster out none rfl
  rwa [hnone.2 ⟨rfl, .inr ⟨by decide, (ext2fsSuccess_iff out).1 (by decide)⟩⟩] at h

end PostgresOperator
