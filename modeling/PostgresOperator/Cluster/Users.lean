import PostgresOperator.Cluster.Env

/-!
# The role model

`initUsers` fills `systemUsers` with the superuser and the replication user, then adds to
`pgUsers` the infrastructure roles of the operator's configuration, the robot users of the
manifest and the members of the cluster's team. Nothing empties `pgUsers` first, so a role
that an earlier pass added survives every later pass, even one that fails half way
(`initUsers_keeps_roles`). Each source writes over the ones before it: on a shared name the
team member wins over the manifest's user, which wins over the infrastructure role.
-/

namespace PostgresOperator

/-- `initSystemUsers`: the superuser and the replication user, each with a fresh
password. -/
def initSystemUsers (env : Env) : ClusterM Unit := do
  let password ← callWith .randomPassword env.randomPassword
  modify fun c => { c with
    systemUsers := c.systemUsers.insert env.superuserKeyName
      ⟨c.opConfig.superUsername, password, [], []⟩ }
  let password ← callWith .randomPassword env.randomPassword
  modify fun c => { c with
    systemUsers := c.systemUsers.insert env.replicationUserKeyName
      ⟨c.opConfig.replicationUsername, password, [], []⟩ }

/-- The loop of `initInfrastructureRoles` and `initRobotUsers`: each name must be valid
and its flags must normalise, and the first invalid entry ends the loop with its error. -/
def addValidUsers {α : Type} (env : Env) (flagsOf : α → List String)
    (mkUser : String → α → List String → ClusterM PgUser) :
    List (Σ _ : String, α) → ClusterM (Option String)
  | [] => return none
  | ⟨username, data⟩ :: rest => do
      if !env.isValidUsername username then return some s!"invalid username: '{username}'"
      match env.normalizeUserFlags (flagsOf data) with
      | .error err => return some s!"invalid flags for user '{username}': {err}"
      | .ok flags =>
          let user ← mkUser username data flags
          modify fun c => { c with pgUsers := c.pgUsers.insert username user }
          addValidUsers env flagsOf mkUser rest

/-- `initInfrastructureRoles`: each role is stored as configured, with its flags
normalised. -/
def initInfrastructureRoles (env : Env) : ClusterM (Option String) := do
  addValidUsers env PgUser.flags (fun _ data flags => pure { data with flags := flags })
    (← get).infrastructureRoles.entries

/-- `initRobotUsers`: each user of the manifest gets a fresh password. -/
def initRobotUsers (env : Env) : ClusterM (Option String) := do
  addValidUsers env id (fun username _ flags => do
      let password ← callWith .randomPassword env.randomPassword
      pure ⟨username, password, flags, []⟩)
    (← get).spec.users.entries

/-- The loop of `initHumanUsers`: each team member becomes a login superuser and a
member of the PAM role. -/
def addHumanUsers (env : Env) (pamRoleName : String) : List String → UserMap → UserMap
  | [], users => users
  | username :: rest, users => addHumanUsers env pamRoleName rest (users.insert username
      ⟨username, "", [env.roleFlagLogin, env.roleFlagSuperuser], [pamRoleName]⟩)

/-- `initHumanUsers`. -/
def initHumanUsers (env : Env) : ClusterM (Option String) := do
  match ← callReturning .getTeamMembers env.getTeamMembers with
  | .error err => return some s!"could not get list of team members: {err}"
  | .ok teamMembers =>
      modify fun c => { c with
        pgUsers := addHumanUsers env c.opConfig.pamRoleName teamMembers c.pgUsers }
      return none

/-- `initUsers`. -/
def initUsers (env : Env) : ClusterM (Option String) := do
  initSystemUsers env
  if let some err ← initInfrastructureRoles env then
    return some s!"could not init infrastructure roles: {err}"
  if let some err ← initRobotUsers env then
    return some s!"could not init robot users: {err}"
  if let some err ← initHumanUsers env then
    return some s!"could not init human users: {err}"
  return none

/-- A call the user functions make: a fresh password, or the team's members. -/
def UserCall (call : Call) : Prop := call = .randomPassword ∨ call = .getTeamMembers

/-- `c'` is `c` with other users, after further password and team calls: all that
the user functions change. -/
def UsersUpdate (c c' : Cluster) : Prop :=
  ∃ pgUsers systemUsers made, (∀ call ∈ made, UserCall call) ∧
    c' = { c with pgUsers := pgUsers, systemUsers := systemUsers, calls := c.calls ++ made }

theorem UsersUpdate.refl (c : Cluster) : UsersUpdate c c :=
  ⟨c.pgUsers, c.systemUsers, [], by simp, by simp⟩

theorem UsersUpdate.trans {c₁ c₂ c₃ : Cluster} (h₁ : UsersUpdate c₁ c₂) (h₂ : UsersUpdate c₂ c₃) :
    UsersUpdate c₁ c₃ := by
  obtain ⟨p, s, m, hm, rfl⟩ := h₁
  obtain ⟨p', s', m', hm', rfl⟩ := h₂
  exact ⟨p', s', m ++ m', by simpa [or_imp, forall_and] using ⟨hm, hm'⟩, by simp⟩

theorem UsersUpdate.spec_eq {c c' : Cluster} (h : UsersUpdate c c') : c'.spec = c.spec := by
  obtain ⟨_, _, _, _, rfl⟩ := h; rfl

theorem UsersUpdate.infrastructureRoles_eq {c c' : Cluster} (h : UsersUpdate c c') :
    c'.infrastructureRoles = c.infrastructureRoles := by
  obtain ⟨_, _, _, _, rfl⟩ := h; rfl

theorem UsersUpdate.opConfig_eq {c c' : Cluster} (h : UsersUpdate c c') :
    c'.opConfig = c.opConfig := by
  obtain ⟨_, _, _, _, rfl⟩ := h; rfl

/-- The loop over the entries of a map returns no error exactly when every name is a
valid username and every flag list normalises. Then each name of the map holds the user
`mkUser` built from its entry, and every other name keeps its user. -/
theorem addValidUsers_spec {α : Type} (env : Env) (flagsOf : α → List String)
    (mkUser : String → α → List String → ClusterM PgUser)
    (Built : String → α → List String → PgUser → Prop)
    (hmk : ∀ username data flags c, ∃ user c', mkUser username data flags c = .ok user c' ∧
      UsersUpdate c c' ∧ c'.pgUsers = c.pgUsers ∧ Built username data flags user)
    (entries : List (Σ _ : String, α)) (hnd : entries.NodupKeys) (c : Cluster) :
    ∃ r c', addValidUsers env flagsOf mkUser entries c = .ok r c' ∧ UsersUpdate c c' ∧
      (r = none ↔ ∀ e ∈ entries, env.isValidUsername e.1 = true ∧
        ∃ flags, env.normalizeUserFlags (flagsOf e.2) = .ok flags) ∧
      (r = none → ∀ k,
        (∀ data, entries.dlookup k = some data → ∃ flags user,
          env.normalizeUserFlags (flagsOf data) = .ok flags ∧ c'.pgUsers.lookup k = some user ∧
            Built k data flags user) ∧
        (entries.dlookup k = none → c'.pgUsers.lookup k = c.pgUsers.lookup k)) := by
  induction entries generalizing c with
  | nil => exact ⟨none, c, rfl, .refl c, by simp, fun _ k => ⟨by simp, fun _ => rfl⟩⟩
  | cons entry rest ih =>
      obtain ⟨username, data⟩ := entry
      obtain ⟨hnotin, hnd⟩ := List.nodupKeys_cons.mp hnd
      simp only [addValidUsers]
      split
      · rename_i hinvalid
        simp only [Bool.not_eq_eq_eq_not, Bool.not_true] at hinvalid
        exact ⟨_, c, rfl, .refl c, by simp [hinvalid], by simp⟩
      · split
        · rename_i err herr
          exact ⟨_, c, rfl, .refl c, by simp [herr], by simp⟩
        · rename_i hvalid _ flags hflags
          obtain ⟨user, c₁, hu, hup, hpg, hbuilt⟩ := hmk username data flags c
          obtain ⟨r, c', hrun, hup', hiff, hlookup⟩ :=
            ih hnd { c₁ with pgUsers := c₁.pgUsers.insert username user }
          refine ⟨r, c', by simp [bind_apply, hu, hrun], ?_, ?_, fun hr k => ?_⟩
          · obtain ⟨p, s, m, hm, rfl⟩ := hup
            exact .trans ⟨_, s, m, hm, rfl⟩ hup'
          · rw [hiff, List.forall_mem_cons]
            simp only [Bool.not_eq_eq_eq_not, Bool.not_true, Bool.not_eq_false] at hvalid
            simp [hvalid, hflags]
          · obtain ⟨hsome, hnone⟩ := hlookup hr k
            by_cases hk : k = username
            · subst hk
              have hrest : rest.dlookup k = none := List.dlookup_eq_none.mpr hnotin
              refine ⟨fun d hd => ?_, by simp⟩
              obtain rfl : data = d := by simpa using hd
              exact ⟨flags, user, hflags, by simp [hnone hrest], hbuilt⟩
            · rw [List.dlookup_cons_ne _ (⟨username, data⟩ : Σ _ : String, α) hk]
              refine ⟨hsome, fun hd => ?_⟩
              rw [hnone hd, AList.lookup_insert_ne hk, hpg]

/-- A condition on every entry of a map is one on every name it looks up. -/
theorem forall_entries_iff_lookup {β : Type} (s : AList fun _ : String => β)
    (P : String → β → Prop) : (∀ e ∈ s.entries, P e.1 e.2) ↔ ∀ n b, s.lookup n = some b → P n b :=
  ⟨fun h n b hl => h ⟨n, b⟩ (AList.mem_lookup_iff.mp hl),
    fun h e he => h e.1 e.2 (AList.mem_lookup_iff.mpr he)⟩

/-- After a stage that gives every name it stores a user and leaves every other name's
user alone, a name has a user exactly when it had one or the stage stores it. -/
theorem mem_iff_of_lookup {β : Type} {m m' : AList fun _ : String => β} {n : String} {P : Prop}
    (hnew : P → ∃ b, m'.lookup n = some b) (hold : ¬P → m'.lookup n = m.lookup n) :
    n ∈ m' ↔ n ∈ m ∨ P := by
  by_cases hP : P
  · obtain ⟨_, hb⟩ := hnew hP
    simp [hP, ← AList.lookup_isSome, hb]
  · simp [hP, ← AList.lookup_isSome, hold hP]

theorem initSystemUsers_ok (env : Env) (c : Cluster) :
    ∃ c', initSystemUsers env c = .ok () c' ∧ UsersUpdate c c' ∧ c'.pgUsers = c.pgUsers :=
  ⟨_, rfl, ⟨_, _, [.randomPassword, .randomPassword], by simp [UserCall],
    by simp only [List.append_assoc, List.singleton_append]; rfl⟩, rfl⟩

/-- `initInfrastructureRoles` returns no error exactly when every role has a valid name
and flags that normalise; then each role is stored under its name as configured, with
its flags normalised, and every other name keeps its user. -/
theorem initInfrastructureRoles_spec (env : Env) (c : Cluster) :
    ∃ r c', initInfrastructureRoles env c = .ok r c' ∧ UsersUpdate c c' ∧
      (r = none ↔ ∀ n role, c.infrastructureRoles.lookup n = some role →
        env.isValidUsername n = true ∧ ∃ flags, env.normalizeUserFlags role.flags = .ok flags) ∧
      (r = none → ∀ n,
        (∀ role, c.infrastructureRoles.lookup n = some role → ∃ flags,
          env.normalizeUserFlags role.flags = .ok flags ∧
            c'.pgUsers.lookup n = some { role with flags := flags }) ∧
        (n ∉ c.infrastructureRoles → c'.pgUsers.lookup n = c.pgUsers.lookup n)) := by
  obtain ⟨r, c', h, hup, hiff, hlookup⟩ := addValidUsers_spec env PgUser.flags _
    (fun _ data flags user => user = { data with flags := flags })
    (fun _ _ _ c => ⟨_, c, rfl, .refl c, rfl, rfl⟩) _ c.infrastructureRoles.nodupKeys c
  refine ⟨r, c', h, hup, hiff.trans (forall_entries_iff_lookup _ fun n (role : PgUser) =>
    env.isValidUsername n = true ∧ ∃ flags, env.normalizeUserFlags role.flags = .ok flags),
    fun hr n => ?_⟩
  obtain ⟨hsome, hnone⟩ := hlookup hr n
  refine ⟨fun role hrole => ?_, fun hn => hnone (AList.lookup_eq_none.mpr hn)⟩
  obtain ⟨flags, _, hflags, hn, rfl⟩ := hsome role hrole
  exact ⟨flags, hflags, hn⟩

theorem initInfrastructureRoles_ok (env : Env) (c : Cluster) :
    ∃ r c', initInfrastructureRoles env c = .ok r c' ∧ UsersUpdate c c' ∧
      (r = none → ∀ k, k ∈ c'.pgUsers ↔ k ∈ c.pgUsers ∨ k ∈ c.infrastructureRoles) := by
  obtain ⟨r, c', h, hup, -, hlookup⟩ := initInfrastructureRoles_spec env c
  refine ⟨r, c', h, hup, fun hr k => mem_iff_of_lookup (fun hk => ?_) (hlookup hr k).2⟩
  obtain ⟨role, hrole⟩ := Option.isSome_iff_exists.mp (AList.lookup_isSome.mpr hk)
  obtain ⟨_, -, hk⟩ := (hlookup hr k).1 role hrole
  exact ⟨_, hk⟩

/-- `initRobotUsers` returns no error exactly when every user of the manifest has a valid
name and flags that normalise; then each is stored under its name with a generated
password and its normalised flags, and every other name keeps its user. -/
theorem initRobotUsers_spec (env : Env) (c : Cluster) :
    ∃ r c', initRobotUsers env c = .ok r c' ∧ UsersUpdate c c' ∧
      (r = none ↔ ∀ n userFlags, c.spec.users.lookup n = some userFlags →
        env.isValidUsername n = true ∧ ∃ flags, env.normalizeUserFlags userFlags = .ok flags) ∧
      (r = none → ∀ n,
        (∀ userFlags, c.spec.users.lookup n = some userFlags → ∃ flags calls,
          env.normalizeUserFlags userFlags = .ok flags ∧
            c'.pgUsers.lookup n = some ⟨n, env.randomPassword calls, flags, []⟩) ∧
        (n ∉ c.spec.users → c'.pgUsers.lookup n = c.pgUsers.lookup n)) := by
  obtain ⟨r, c', h, hup, hiff, hlookup⟩ := addValidUsers_spec env id _
    (fun n _ flags user => ∃ calls, user = ⟨n, env.randomPassword calls, flags, []⟩)
    (fun _ _ _ c => ⟨_, _, rfl, ⟨_, _, [.randomPassword], by simp [UserCall], rfl⟩, rfl, _, rfl⟩)
    _ c.spec.users.nodupKeys c
  refine ⟨r, c', h, hup, hiff.trans (forall_entries_iff_lookup _ fun n userFlags =>
    env.isValidUsername n = true ∧ ∃ flags, env.normalizeUserFlags userFlags = .ok flags),
    fun hr n => ?_⟩
  obtain ⟨hsome, hnone⟩ := hlookup hr n
  refine ⟨fun userFlags hu => ?_, fun hn => hnone (AList.lookup_eq_none.mpr hn)⟩
  obtain ⟨flags, _, hflags, hn, calls, rfl⟩ := hsome userFlags hu
  exact ⟨flags, calls, hflags, hn⟩

theorem initRobotUsers_ok (env : Env) (c : Cluster) :
    ∃ r c', initRobotUsers env c = .ok r c' ∧ UsersUpdate c c' ∧
      (r = none → ∀ k, k ∈ c'.pgUsers ↔ k ∈ c.pgUsers ∨ k ∈ c.spec.users) := by
  obtain ⟨r, c', h, hup, -, hlookup⟩ := initRobotUsers_spec env c
  refine ⟨r, c', h, hup, fun hr k => mem_iff_of_lookup (fun hk => ?_) (hlookup hr k).2⟩
  obtain ⟨userFlags, hu⟩ := Option.isSome_iff_exists.mp (AList.lookup_isSome.mpr hk)
  obtain ⟨_, _, -, hk⟩ := (hlookup hr k).1 userFlags hu
  exact ⟨_, hk⟩

theorem addHumanUsers_mem (env : Env) (pamRoleName : String) (teamMembers : List String)
    (users : UserMap) (k : String) :
    k ∈ addHumanUsers env pamRoleName teamMembers users ↔ k ∈ users ∨ k ∈ teamMembers := by
  induction teamMembers generalizing users with
  | nil => simp [addHumanUsers]
  | cons username rest ih =>
      simp [addHumanUsers, ih, AList.mem_insert, or_assoc, or_left_comm]

theorem addHumanUsers_lookup (env : Env) (pamRoleName : String) (teamMembers : List String)
    (users : UserMap) (n : String) :
    (addHumanUsers env pamRoleName teamMembers users).lookup n =
      if n ∈ teamMembers then
        some ⟨n, "", [env.roleFlagLogin, env.roleFlagSuperuser], [pamRoleName]⟩
      else users.lookup n := by
  induction teamMembers generalizing users with
  | nil => simp [addHumanUsers]
  | cons username rest ih =>
      by_cases hn : n = username
      · subst hn
        by_cases hrest : n ∈ rest <;> simp [addHumanUsers, ih, hrest]
      · simp [addHumanUsers, ih, hn, AList.lookup_insert_ne hn]

/-- `initHumanUsers` returns no error exactly when the team's members are known; it then
stores each as a login superuser in the PAM role. -/
theorem initHumanUsers_spec (env : Env) (c : Cluster) :
    ∃ r c', initHumanUsers env c = .ok r c' ∧ UsersUpdate c c' ∧
      (r = none ↔ ∃ teamMembers, env.getTeamMembers = .ok teamMembers) ∧
      ∀ teamMembers, env.getTeamMembers = .ok teamMembers →
        c'.pgUsers = addHumanUsers env c.opConfig.pamRoleName teamMembers c.pgUsers := by
  have hcall : ∀ call ∈ [Call.getTeamMembers], UserCall call := by simp [UserCall]
  cases h : env.getTeamMembers with
  | error err =>
      exact ⟨some s!"could not get list of team members: {err}",
        { c with calls := c.calls ++ [.getTeamMembers] },
        by simp [initHumanUsers, bind_apply, h], ⟨_, _, _, hcall, rfl⟩, by simp, by simp⟩
  | ok teamMembers =>
      exact ⟨none, { c with
          pgUsers := addHumanUsers env c.opConfig.pamRoleName teamMembers c.pgUsers
          calls := c.calls ++ [.getTeamMembers] },
        by simp [initHumanUsers, bind_apply, h], ⟨_, _, _, hcall, rfl⟩, by simp,
        by rintro _ ⟨⟩; rfl⟩

theorem initHumanUsers_ok (env : Env) (c : Cluster) :
    ∃ r c', initHumanUsers env c = .ok r c' ∧ UsersUpdate c c' ∧
      (r = none → ∃ teamMembers, env.getTeamMembers = .ok teamMembers ∧
        ∀ k, k ∈ c'.pgUsers ↔ k ∈ c.pgUsers ∨ k ∈ teamMembers) := by
  obtain ⟨r, c', h, hup, hiff, hpg⟩ := initHumanUsers_spec env c
  refine ⟨r, c', h, hup, fun hr => ?_⟩
  obtain ⟨teamMembers, hteam⟩ := hiff.1 hr
  exact ⟨teamMembers, hteam, fun k => by rw [hpg teamMembers hteam, addHumanUsers_mem]⟩

/-- `initUsers` from the results of its stages: it returns no error exactly when none of
the three user stages does, and then leaves the cluster the last stage left. -/
theorem initUsers_of_stages {env : Env} {c c₁ c₂ c₃ c₄ : Cluster} {r₂ r₃ r₄ : Option String}
    (h₁ : initSystemUsers env c = .ok () c₁) (h₂ : initInfrastructureRoles env c₁ = .ok r₂ c₂)
    (h₃ : initRobotUsers env c₂ = .ok r₃ c₃) (h₄ : initHumanUsers env c₃ = .ok r₄ c₄) :
    ∃ r c', initUsers env c = .ok r c' ∧ (r = none ↔ r₂ = none ∧ r₃ = none ∧ r₄ = none) ∧
      (c' = c₂ ∨ c' = c₃ ∨ c' = c₄) ∧ (r = none → c' = c₄) := by
  cases r₂ with
  | some err =>
      exact ⟨some s!"could not init infrastructure roles: {err}", c₂,
        by simp [initUsers, bind_apply, h₁, h₂], by simp, by simp, by simp⟩
  | none =>
  cases r₃ with
  | some err =>
      exact ⟨some s!"could not init robot users: {err}", c₃,
        by simp [initUsers, bind_apply, h₁, h₂, h₃], by simp, by simp, by simp⟩
  | none =>
  cases r₄ with
  | some err =>
      exact ⟨some s!"could not init human users: {err}", c₄,
        by simp [initUsers, bind_apply, h₁, h₂, h₃, h₄], by simp, by simp, by simp⟩
  | none =>
      exact ⟨none, c₄, by simp [initUsers, bind_apply, h₁, h₂, h₃, h₄], by simp, by simp,
        fun _ => rfl⟩

/-- `initUsers` returns, having changed only the users and made only password and team
calls; when it succeeds, the roles are those before it together with those of its
three sources. -/
theorem initUsers_ok (env : Env) (c : Cluster) :
    ∃ r c', initUsers env c = .ok r c' ∧ UsersUpdate c c' ∧
      (r = none → ∃ teamMembers, env.getTeamMembers = .ok teamMembers ∧
        ∀ k, k ∈ c'.pgUsers ↔ k ∈ c.pgUsers ∨ k ∈ c.infrastructureRoles ∨ k ∈ c.spec.users ∨
          k ∈ teamMembers) := by
  obtain ⟨c₁, h₁, u₁, p₁⟩ := initSystemUsers_ok env c
  obtain ⟨r₂, c₂, h₂, u₂, k₂⟩ := initInfrastructureRoles_ok env c₁
  obtain ⟨r₃, c₃, h₃, u₃, k₃⟩ := initRobotUsers_ok env c₂
  obtain ⟨r₄, c₄, h₄, u₄, k₄⟩ := initHumanUsers_ok env c₃
  obtain ⟨r, c', h, hr, hlast, hc'⟩ := initUsers_of_stages h₁ h₂ h₃ h₄
  refine ⟨r, c', h, ?_, fun hnone => ?_⟩
  · rcases hlast with rfl | rfl | rfl
    exacts [u₁.trans u₂, u₁.trans (u₂.trans u₃), u₁.trans (u₂.trans (u₃.trans u₄))]
  · obtain ⟨rfl, rfl, rfl⟩ := hr.1 hnone
    obtain rfl := hc' hnone
    obtain ⟨teamMembers, hteam, k₄⟩ := k₄ rfl
    refine ⟨teamMembers, hteam, fun k => ?_⟩
    rw [k₄, k₃ rfl, k₂ rfl, p₁, u₂.spec_eq, u₁.spec_eq, u₁.infrastructureRoles_eq]
    simp only [or_assoc]

/-- The loop over the entries of a map drops no role, whether or not it returns an
error, when building a user leaves the roles alone. -/
theorem addValidUsers_keeps_roles {α : Type} (env : Env) (flagsOf : α → List String)
    (mkUser : String → α → List String → ClusterM PgUser)
    (hmk : ∀ username data flags c user c', mkUser username data flags c = .ok user c' →
      c'.pgUsers = c.pgUsers)
    (entries : List (Σ _ : String, α)) {c c' : Cluster} {r : Option String}
    (h : addValidUsers env flagsOf mkUser entries c = .ok r c') :
    ∀ k ∈ c.pgUsers, k ∈ c'.pgUsers := by
  induction entries generalizing c with
  | nil =>
      obtain ⟨-, rfl⟩ := EStateM.Result.ok.inj h
      exact fun _ hk => hk
  | cons entry rest ih =>
      obtain ⟨username, data⟩ := entry
      simp only [addValidUsers] at h
      split at h
      · obtain ⟨-, rfl⟩ := EStateM.Result.ok.inj h
        exact fun _ hk => hk
      split at h
      · obtain ⟨-, rfl⟩ := EStateM.Result.ok.inj h
        exact fun _ hk => hk
      rw [pure_bind] at h
      obtain ⟨user, c₁, hu, h₁⟩ := bind_ok c h
      obtain ⟨_, c₂, hmod, h₂⟩ := bind_ok c₁ h₁
      rw [modify_apply] at hmod
      obtain ⟨-, rfl⟩ := EStateM.Result.ok.inj hmod
      intro k hk
      exact ih h₂ k ((AList.mem_insert _).mpr (.inr (hmk _ _ _ _ _ _ hu ▸ hk)))

theorem initInfrastructureRoles_keeps_roles (env : Env) {c c' : Cluster} {r : Option String}
    (h : initInfrastructureRoles env c = .ok r c') : ∀ k ∈ c.pgUsers, k ∈ c'.pgUsers := by
  simp only [initInfrastructureRoles, bind_apply, get_apply] at h
  refine addValidUsers_keeps_roles env _ _ (fun _ _ _ _ _ _ hu => ?_) _ h
  simp only [pure_apply, EStateM.Result.ok.injEq] at hu
  rw [← hu.2]

theorem initRobotUsers_keeps_roles (env : Env) {c c' : Cluster} {r : Option String}
    (h : initRobotUsers env c = .ok r c') : ∀ k ∈ c.pgUsers, k ∈ c'.pgUsers := by
  simp only [initRobotUsers, bind_apply, get_apply] at h
  refine addValidUsers_keeps_roles env _ _ (fun _ _ _ _ _ _ hu => ?_) _ h
  simp only [bind_apply, callWith_apply, pure_apply, EStateM.Result.ok.injEq] at hu
  rw [← hu.2]

theorem initHumanUsers_keeps_roles (env : Env) {c c' : Cluster} {r : Option String}
    (h : initHumanUsers env c = .ok r c') : ∀ k ∈ c.pgUsers, k ∈ c'.pgUsers := by
  intro k hk
  cases hteam : env.getTeamMembers with
  | error err =>
      simp only [initHumanUsers, bind_apply, callReturning_apply, hteam, pure_apply,
        EStateM.Result.ok.injEq] at h
      rw [← h.2]
      exact hk
  | ok teamMembers =>
      simp only [initHumanUsers, bind_apply, callReturning_apply, hteam, modify_apply,
        pure_apply, EStateM.Result.ok.injEq] at h
      rw [← h.2]
      exact (addHumanUsers_mem _ _ _ _ k).mpr (.inl hk)

/-- `initUsers` drops no role, whether or not it returns an error: every pass only adds
roles. -/
theorem initUsers_keeps_roles (env : Env) {c c' : Cluster} {r : Option String}
    (h : initUsers env c = .ok r c') : ∀ k ∈ c.pgUsers, k ∈ c'.pgUsers := by
  obtain ⟨c₁, h₁, -, p₁⟩ := initSystemUsers_ok env c
  obtain ⟨r₂, c₂, h₂, -⟩ := initInfrastructureRoles_ok env c₁
  obtain ⟨r₃, c₃, h₃, -⟩ := initRobotUsers_ok env c₂
  obtain ⟨r₄, c₄, h₄, -⟩ := initHumanUsers_ok env c₃
  obtain ⟨r', c'', h', -, hlast, -⟩ := initUsers_of_stages h₁ h₂ h₃ h₄
  obtain ⟨-, rfl⟩ := EStateM.Result.ok.inj (h.symm.trans h')
  have k₂ := initInfrastructureRoles_keeps_roles env h₂
  have k₃ := initRobotUsers_keeps_roles env h₃
  have k₄ := initHumanUsers_keeps_roles env h₄
  intro k hk
  rw [← p₁] at hk
  rcases hlast with rfl | rfl | rfl
  exacts [k₂ k hk, k₃ k (k₂ k hk), k₄ k (k₃ k (k₂ k hk))]

/-- After a successful `initUsers` the roles are those before it together with the
infrastructure roles, the manifest's users and the team's members: a role of an
earlier pass stays. -/
theorem initUsers_pgUsers_keys (env : Env) (c c' : Cluster) (h : initUsers env c = .ok none c') :
    ∃ teamMembers, env.getTeamMembers = .ok teamMembers ∧
      ∀ k, k ∈ c'.pgUsers ↔ k ∈ c.pgUsers ∨ k ∈ c.infrastructureRoles ∨ k ∈ c.spec.users ∨
        k ∈ teamMembers := by
  obtain ⟨r, c'', hrun, -, hkeys⟩ := initUsers_ok env c
  rw [h] at hrun
  cases hrun
  exact hkeys rfl

theorem initUsers_pgUsers_keys_sample :
    let env := Env.succeeding [] (fun _ => .error "") fun _ => .error ""
    ∃ c', initUsers env sampleCluster = .ok none c' ∧
      ∃ teamMembers, env.getTeamMembers = .ok teamMembers ∧
        ∀ k, k ∈ c'.pgUsers ↔ k ∈ sampleCluster.pgUsers ∨ k ∈ sampleCluster.infrastructureRoles ∨
          k ∈ sampleCluster.spec.users ∨ k ∈ teamMembers := by
  intro env
  exact ⟨_, rfl, initUsers_pgUsers_keys env sampleCluster _ rfl⟩

/-- From a cluster without roles, `initUsers` succeeds exactly when every infrastructure
role and manifest user has a valid name and flags that normalise, and the team is known.
The roles are then the names of the three sources, the later source winning a shared one. -/
theorem initUsers_roles (env : Env) (c : Cluster) (hc : c.pgUsers = ∅) :
    ∃ r c', initUsers env c = .ok r c' ∧
      (r = none ↔
        (∀ n role, c.infrastructureRoles.lookup n = some role → env.isValidUsername n = true ∧
          ∃ flags, env.normalizeUserFlags role.flags = .ok flags) ∧
        (∀ n userFlags, c.spec.users.lookup n = some userFlags → env.isValidUsername n = true ∧
          ∃ flags, env.normalizeUserFlags userFlags = .ok flags) ∧
        ∃ teamMembers, env.getTeamMembers = .ok teamMembers) ∧
      ∀ teamMembers, r = none → env.getTeamMembers = .ok teamMembers → ∀ n,
        (n ∈ c'.pgUsers ↔ n ∈ c.infrastructureRoles ∨ n ∈ c.spec.users ∨ n ∈ teamMembers) ∧
        (n ∈ teamMembers → c'.pgUsers.lookup n =
          some ⟨n, "", [env.roleFlagLogin, env.roleFlagSuperuser], [c.opConfig.pamRoleName]⟩) ∧
        (n ∉ teamMembers → ∀ userFlags, c.spec.users.lookup n = some userFlags →
          ∃ flags calls, env.normalizeUserFlags userFlags = .ok flags ∧
            c'.pgUsers.lookup n = some ⟨n, env.randomPassword calls, flags, []⟩) ∧
        (n ∉ teamMembers → n ∉ c.spec.users → ∀ role,
          c.infrastructureRoles.lookup n = some role → ∃ flags,
            env.normalizeUserFlags role.flags = .ok flags ∧
              c'.pgUsers.lookup n = some { role with flags := flags }) := by
  obtain ⟨c₁, h₁, u₁, -⟩ := initSystemUsers_ok env c
  obtain ⟨r₂, c₂, h₂, u₂, v₂, l₂⟩ := initInfrastructureRoles_spec env c₁
  obtain ⟨r₃, c₃, h₃, u₃, v₃, l₃⟩ := initRobotUsers_spec env c₂
  obtain ⟨r₄, c₄, h₄, -, v₄, l₄⟩ := initHumanUsers_spec env c₃
  obtain ⟨r, c', h, hr, -, hc'⟩ := initUsers_of_stages h₁ h₂ h₃ h₄
  rw [u₁.infrastructureRoles_eq] at v₂ l₂
  rw [u₂.spec_eq, u₁.spec_eq] at v₃ l₃
  refine ⟨r, c', h, by rw [hr, v₂, v₃, v₄], fun teamMembers hnone hteam n => ?_⟩
  subst hnone
  obtain ⟨rfl, rfl, rfl⟩ := hr.1 rfl
  obtain rfl := hc' rfl
  obtain ⟨infra, -⟩ := l₂ rfl n
  obtain ⟨robot, hkeep⟩ := l₃ rfl n
  have hlookup : c'.pgUsers.lookup n = if n ∈ teamMembers then
      some ⟨n, "", [env.roleFlagLogin, env.roleFlagSuperuser], [c.opConfig.pamRoleName]⟩
      else c₃.pgUsers.lookup n := by
    rw [l₄ teamMembers hteam, addHumanUsers_lookup, u₃.opConfig_eq, u₂.opConfig_eq,
      u₁.opConfig_eq]
  obtain ⟨r', c'', h', -, hkeys⟩ := initUsers_ok env c
  rw [h] at h'
  obtain ⟨rfl, rfl⟩ := EStateM.Result.ok.inj h'
  obtain ⟨teamMembers', hteam', hkeys⟩ := hkeys rfl
  obtain rfl : teamMembers' = teamMembers := Except.ok.inj (hteam'.symm.trans hteam)
  refine ⟨by simp [hkeys, hc], fun hn => by simp [hlookup, hn], fun hn u hu => ?_,
    fun hn hR u hu => ?_⟩
  · simpa [hlookup, hn] using robot u hu
  · simpa [hlookup, hn, hkeep hR] using infra u hu

/-- A name that is an infrastructure role, a user of the manifest and a team member at
once is stored as the team member. -/
theorem initUsers_roles_sample :
    let env := { Env.succeeding [] (fun _ => .error "") fun _ => .error "" with
      getTeamMembers := .ok ["zalando"] }
    let c := new ⟨⟨"postgres", "standby", "zalandos"⟩,
        AList.singleton "zalando" ⟨"zalando", "", ["LOGIN"], []⟩⟩
      ⟨⟨"9.6", ⟨"10Gi", ""⟩, [], AList.singleton "zalando" ["CREATEDB"]⟩, .running⟩
    ∃ c', initUsers env c = .ok none c' ∧
      c'.pgUsers.lookup "zalando" = some ⟨"zalando", "", ["LOGIN", "SUPERUSER"], ["zalandos"]⟩ := by
  intro env c
  obtain ⟨r, c', h, hiff, hroles⟩ := initUsers_roles env c rfl
  obtain rfl : r = none := hiff.2 ⟨fun _ _ _ => ⟨rfl, _, rfl⟩, fun _ _ _ => ⟨rfl, _, rfl⟩, _, rfl⟩
  exact ⟨c', h, (hroles ["zalando"] rfl rfl "zalando").2.1 (List.mem_singleton_self _)⟩

end PostgresOperator
