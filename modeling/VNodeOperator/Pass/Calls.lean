import VNodeOperator.Pass.Target
import VNodeOperator.ProofSupport.Faults

/-!
# What one iteration of a pass can do

For every state and every pattern of failing calls: the calls an iteration over
one source pod makes (`PodCall`), and what it leaves behind (`PodStep`).  What
holds of whole passes is derived from these two.
-/

namespace VNodeOperator.Pass

open Model Kube Ports ProofSupport Service PodExecution

def Drifted (translator : PodService) (pool : VNodePool) (p : CorePod) (w : Cluster) : Prop :=
  ∃ cur, w.hostPods.get (targetKey pool p) = some cur ∧ cur.spec.deleting = false ∧
    podSpecsEqual cur.spec (targetPod translator pool p) = false

/-- A status an iteration can mirror: that of the host pod, or the one of a pod
just created. -/
def Mirrors (pool : VNodePool) (p : CorePod) (w : Cluster) (status : PodStatus) : Prop :=
  (∃ hp, w.hostPods.get (targetKey pool p) = some hp ∧ status = hp.status) ∨
    (isTerminalPod p = false ∧ w.hostPods.get (targetKey pool p) = none ∧
      status = { phase := .pending })

/-- The calls of an iteration over `p` that starts from `w`. -/
def PodCall (translator : PodService) (cs : Clientset) (pool : VNodePool) (p : CorePod)
    (w : Cluster) : Call → Prop
  | .getTenantConfigMap _ _ | .getTenantSecret _ _ | .getTenantPod _ _ => True
  | .getPod k | .getPodStatus k => k = targetKey pool p
  | .ensureConfigMap cm => cm ∈ configMapWrites (w.tenants cs) pool p
  | .ensureSecret s => s ∈ secretWrites (w.tenants cs) pool p
  | .createPod pod => isTerminalPod p = false ∧ pod = targetPod translator pool p
  | .deletePod k =>
      k = targetKey pool p ∧ (isTerminalPod p = true ∨ Drifted translator pool p w)
  | .updateTenantPod cs' pod =>
      cs' = cs ∧ ∃ old status, (w.tenants cs).pods.get p.key = some old ∧
        Mirrors pool p w status ∧ pod = withPodStatus old status
  | _ => False

/-- What an iteration over `p` leaves of `w`. -/
structure PodStep (env : Env) (translator : PodService) (cs : Clientset) (pool : VNodePool)
    (p : CorePod) (w w' : Cluster) : Prop where
  vnodes : w'.vnodes = w.vnodes
  hostPods : w'.hostPods = w.hostPods ∨
    (isTerminalPod p = false ∧ w.hostPods.get (targetKey pool p) = none ∧
      ∃ shown, env.storePod (targetPod translator pool p) = .ok shown ∧
        w'.hostPods = (w.addPod shown).hostPods) ∨
    ((isTerminalPod p = true ∨ Drifted translator pool p w) ∧
      w'.hostPods = (w.removePod env (targetKey pool p)).hostPods)
  configMaps : ∀ k, (∀ cm ∈ configMapWrites (w.tenants cs) pool p, cm.key ≠ k) →
    w'.hostConfigMaps.get k = w.hostConfigMaps.get k
  secrets : ∀ k, (∀ s ∈ secretWrites (w.tenants cs) pool p, s.key ≠ k) →
    w'.hostSecrets.get k = w.hostSecrets.get k
  tenants : w'.tenants = w.tenants ∨
    ∃ old status, (w.tenants cs).pods.get p.key = some old ∧ Mirrors pool p w status ∧
      w'.tenants = (w.putTenantPod cs (withPodStatus old status)).tenants

/-! ## Copying ConfigMaps and Secrets -/

structure Copied (cms : List ConfigMap) (secs : List Secret) (w w' : Cluster) : Prop where
  rest : w' = { w with
    hostConfigMaps := w'.hostConfigMaps
    hostSecrets := w'.hostSecrets }
  configMaps : ∀ k, (∀ cm ∈ cms, cm.key ≠ k) →
    w'.hostConfigMaps.get k = w.hostConfigMaps.get k
  secrets : ∀ k, (∀ s ∈ secs, s.key ≠ k) → w'.hostSecrets.get k = w.hostSecrets.get k

namespace Copied

variable {cms : List ConfigMap} {secs : List Secret} {w w' : Cluster}

theorem refl (w : Cluster) : Copied cms secs w w := ⟨rfl, fun _ _ => rfl, fun _ _ => rfl⟩

theorem trans {w'' : Cluster} (h : Copied cms secs w w') (h' : Copied cms secs w' w'') :
    Copied cms secs w w'' := by
  refine ⟨?_, ?_, ?_⟩
  · rw [h'.rest, h.rest]
  · intro k hk
    rw [h'.configMaps k hk, h.configMaps k hk]
  · intro k hk
    rw [h'.secrets k hk, h.secrets k hk]

theorem putConfigMap {cm : ConfigMap} (hcm : cm ∈ cms) :
    Copied cms secs w (w.putConfigMap cm) := by
  refine ⟨rfl, ?_, fun _ _ => rfl⟩
  intro k hk
  exact Store.get_put_ne w.hostConfigMaps (hk cm hcm)

theorem putSecret {s : Secret} (hs : s ∈ secs) : Copied cms secs w (w.putSecret s) := by
  refine ⟨rfl, fun _ _ => rfl, ?_⟩
  intro k hk
  exact Store.get_put_ne w.hostSecrets (hk s hs)

theorem hostPods (h : Copied cms secs w w') : w'.hostPods = w.hostPods := by
  rw [h.rest]

theorem tenants (h : Copied cms secs w w') : w'.tenants = w.tenants := by
  rw [h.rest]

theorem vnodes (h : Copied cms secs w w') : w'.vnodes = w.vnodes := by
  rw [h.rest]

end Copied

variable {env : Env} {translator : PodService} {cs : Clientset} {pool : VNodePool}
  {p : CorePod}

theorem robust_syncResource {cms : List ConfigMap} {secs : List Secret} {A : Call → Prop}
    {w w' : Cluster} {ref : VolumeResourceRef}
    (hgetConfigMap : ∀ k, A (.getTenantConfigMap cs k))
    (hgetSecret : ∀ k, A (.getTenantSecret cs k))
    (hensureConfigMap : ∀ cm ∈ cms, A (.ensureConfigMap cm))
    (hensureSecret : ∀ s ∈ secs, A (.ensureSecret s))
    (hcms : ∀ cm, configMapFor (w.tenants cs) pool ref = some cm → cm ∈ cms)
    (hsecs : ∀ s, secretFor (w.tenants cs) pool ref = some s → s ∈ secs)
    (hw : Copied cms secs w w') :
    Robust (handle env) A (syncResource cs pool ref ())
      (fun _ w'' => Copied cms secs w w'') w' := by
  have herror : ∀ (err : Err) (context : String),
      Robust (handle env) A
        (if err.isNotFound then return .next () else return .exit (err.wrap context) :
          Svc (Prog.Flow Unit Err))
        (fun _ w'' => Copied cms secs w w'') w' := by
    intro err context
    split
    · exact Robust.pure hw
    · exact Robust.pure hw
  unfold syncResource
  split
  · next htype =>
      apply Robust.bind
      refine Robust.read_of_eq rfl (hgetConfigMap _) ?_ (fun err => herror err _)
      cases hget : (w'.tenants cs).configMaps.get ⟨ref.sourceNamespace, ref.sourceName⟩ with
      | none =>
          rw [find_none _ _ hget]
          exact herror _ _
      | some cm =>
          have hmem : hostConfigMap pool ref cm ∈ cms := by
            apply hcms
            rw [hw.tenants] at hget
            simp [configMapFor, htype, hget]
          have hcopied := hw.trans (Copied.putConfigMap hmem)
          rw [find_some _ _ hget]
          apply Robust.bind
          exact Robust.perform_of_eq (handle_ensureConfigMap env w' _) (hensureConfigMap _ hmem)
            (Robust.pure hcopied) (fun _ => Robust.pure hw) (fun _ => Robust.pure hcopied)
  · next htype =>
      apply Robust.bind
      refine Robust.read_of_eq rfl (hgetSecret _) ?_ (fun err => herror err _)
      cases hget : (w'.tenants cs).secrets.get ⟨ref.sourceNamespace, ref.sourceName⟩ with
      | none =>
          rw [find_none _ _ hget]
          exact herror _ _
      | some s =>
          have hmem : hostSecret pool ref s ∈ secs := by
            apply hsecs
            rw [hw.tenants] at hget
            simp [secretFor, htype, hget]
          have hcopied := hw.trans (Copied.putSecret hmem)
          rw [find_some _ _ hget]
          apply Robust.bind
          exact Robust.perform_of_eq (handle_ensureSecret env w' _) (hensureSecret _ hmem)
            (Robust.pure hcopied) (fun _ => Robust.pure hw) (fun _ => Robust.pure hcopied)
  · exact Robust.pure hw

theorem robust_syncPodResources {A : Call → Prop} {w : Cluster}
    (hA : ∀ c, PodCall translator cs pool p w c → A c) :
    Robust (handle env) A (syncPodResources cs (translation translator pool p) pool)
      (fun _ w' => Copied (configMapWrites (w.tenants cs) pool p)
        (secretWrites (w.tenants cs) pool p) w w') w := by
  let cms := configMapWrites (w.tenants cs) pool p
  let secs := secretWrites (w.tenants cs) pool p
  have hbody : ∀ ref refs b w', ((∀ r ∈ ref :: refs, r ∈ podRefs p) ∧ Copied cms secs w w') →
      Robust (handle env) A (syncResource cs pool ref b)
        (fun r w' => r.elim (fun _ => (∀ r ∈ refs, r ∈ podRefs p) ∧ Copied cms secs w w')
          (fun _ => Copied cms secs w w')) w' := by
    intro ref refs b w' ⟨hrefs, hw⟩
    have href : ref ∈ podRefs p := hrefs ref List.mem_cons_self
    refine Robust.mono (robust_syncResource
      (fun _ => hA _ trivial) (fun _ => hA _ trivial)
      (fun cm hcm => hA _ hcm) (fun s hs => hA _ hs)
      (fun cm hcm => List.mem_filterMap.mpr ⟨ref, href, hcm⟩)
      (fun s hs => List.mem_filterMap.mpr ⟨ref, href, hs⟩) hw) ?_
    intro r w'' hw''
    cases r with
    | next b => exact ⟨fun r hr => hrefs r (List.mem_cons_of_mem ref hr), hw''⟩
    | exit err => exact hw''
  unfold syncPodResources
  apply Robust.bind
  refine Robust.mono (Robust.loop
    (fun refs _ w' => (∀ r ∈ refs, r ∈ podRefs p) ∧ Copied cms secs w w')
    (fun _ w' => Copied cms secs w w') hbody _ () w
    ⟨fun r hr => hr, Copied.refl w⟩) ?_
  intro r w' hw'
  cases r with
  | next b => exact Robust.pure hw'.2
  | exit err => exact Robust.pure hw'

/-! ## Host pods -/

theorem robust_ensureHostPod {A : Call → Prop} {Q : Bool × Bool × Option Err → Cluster → Prop}
    {w : Cluster} (hgetPod : A (.getPod (targetKey pool p)))
    (hcreatePod : A (.createPod (targetPod translator pool p)))
    (hdeletePod : Drifted translator pool p w → A (.deletePod (targetKey pool p)))
    (hkeep : ∀ r, Q r w)
    (hcreate : ∀ r shown, w.hostPods.get (targetKey pool p) = none →
      env.storePod (targetPod translator pool p) = .ok shown → Q r (w.addPod shown))
    (hdelete : ∀ deleted err, Drifted translator pool p w →
      Q (false, deleted, some err) (w.removePod env (targetKey pool p))) :
    Robust (handle env) A (ensureHostPod (targetPod translator pool p)) Q w := by
  have hmissing : ∀ err : Err, Robust (handle env) A (do
      if err.isNotFound then
        let created ← ask (.createPod (targetPod translator pool p))
        return (true, false, errorOf created)
      else return (false, false, some err)) Q w := by
    intro err
    split
    · apply Robust.bind
      rcases handle_createPod_cases env w (targetPod translator pool p) with
        ⟨err, hcall⟩ | ⟨hnone, shown, hshown, hcall⟩
      · exact Robust.read_of_eq hcall hcreatePod (Robust.pure (hkeep _))
          (fun _ => Robust.pure (hkeep _))
      · exact Robust.perform_of_eq hcall hcreatePod (Robust.pure (hcreate _ shown hnone hshown))
          (fun _ => Robust.pure (hkeep _))
          (fun _ => Robust.pure (hcreate _ shown hnone hshown))
    · exact Robust.pure (hkeep _)
  unfold ensureHostPod
  rw [targetPod_key]
  apply Robust.bind
  refine Robust.perform hgetPod ?_ hmissing ?_
  · cases hget : w.hostPods.get (targetKey pool p) with
    | none =>
        simp only [handle, hget]
        exact hmissing _
    | some cur =>
        simp only [handle, hget]
        split
        · exact Robust.pure (hkeep _)
        · next hdeleting =>
            split
            · exact Robust.pure (hkeep _)
            · next hequal =>
                have hdrift : Drifted translator pool p w :=
                  ⟨cur, hget, by simpa using hdeleting, by simpa using hequal⟩
                apply Robust.bind
                exact Robust.perform_of_eq (handle_deletePod env w _) (hdeletePod hdrift)
                  (Robust.pure (hdelete _ _ hdrift)) (fun _ => Robust.pure (hkeep _))
                  (fun _ => Robust.pure (hdelete _ _ hdrift))
  · intro err
    rw [handle_read env w (by rfl)]
    exact hmissing err

/-! ## Desired keys -/

/-- The loop goes on with these keys marked as desired, or the pass ends. -/
def Desires (desired : List String) (r : Prog.Flow Progress Outcome) : Prop :=
  r.elim (fun acc => acc.desired = desired) (fun _ => True)

theorem returns_reportPod (p : CorePod) {k : ObjKey} {acc : Progress} {desired : List String}
    (hacc : acc.desired = desired) :
    Prog.Returns (Desires desired) (reportPod translator cs p k acc) := by
  apply Prog.Returns.bind (Q := Desires desired)
  · apply Prog.Returns.bind (Prog.Returns.always _)
    intro r _
    cases r with
    | error err =>
        dsimp only
        split
        · exact hacc
        · trivial
    | ok status =>
        dsimp only
        split
        · trivial
        · apply Prog.Returns.bind (Prog.Returns.always _)
          intro r _
          cases r with
          | error err => trivial
          | ok u => exact hacc
  · intro r hr
    cases r with
    | exit outcome => trivial
    | next acc' =>
        dsimp only
        unfold deleteFinished
        split
        · apply Prog.Returns.bind (Prog.Returns.always _)
          intro r _
          cases r with
          | error err => trivial
          | ok u => exact hr
        · exact hr

/-- An iteration that goes on has marked its pod as desired. -/
theorem returns_reconcilePod (translator : PodService) (cs : Clientset) (pool : VNodePool)
    (p : CorePod) (acc : Progress) :
    Prog.Returns (Desires (keyForPod pool.ns (targetKey pool p).name :: acc.desired))
      (reconcilePod translator cs pool p acc) := by
  unfold reconcilePod
  rw [translate_eq]
  apply Prog.Returns.bind (Prog.Returns.always _)
  intro synced _
  cases synced with
  | error err => trivial
  | ok u =>
      dsimp only
      split
      · exact returns_reportPod p rfl
      · apply Prog.Returns.bind (Prog.Returns.always _)
        rintro ⟨created, deleted, err⟩ _
        cases err with
        | none => exact returns_reportPod p rfl
        | some err =>
            rw [afterEnsure]
            split
            · exact rfl
            · trivial

/-! ## Statuses -/

theorem handle_updateTenantPod {w : Cluster} {old : CorePod} {status : PodStatus}
    (hold : (w.tenants cs).pods.get p.key = some old) :
    handle env (.updateTenantPod cs (withPodStatus old status)) w =
      (.ok (), w.putTenantPod cs (withPodStatus old status)) := by
  have hkey : old.key = p.key := Store.key_of_get hold
  have hkey' : (withPodStatus old status).key = p.key := hkey
  simp only [handle, hkey', hold]
  rfl

def Mirrored (cs : Clientset) (pool : VNodePool) (p : CorePod) (w w' : Cluster) : Prop :=
  w' = w ∨ ∃ hp old, w.hostPods.get (targetKey pool p) = some hp ∧
    (w.tenants cs).pods.get p.key = some old ∧
    w' = w.putTenantPod cs (withPodStatus old hp.status)

theorem robust_mirrorStatus {A : Call → Prop}
    {Q : Prog.Flow Progress Outcome → Cluster → Prop} {w : Cluster} {acc : Progress}
    (hgetPodStatus : A (.getPodStatus (targetKey pool p)))
    (hgetTenantPod : A (.getTenantPod cs p.key))
    (hupdate : ∀ hp old, w.hostPods.get (targetKey pool p) = some hp →
      (w.tenants cs).pods.get p.key = some old →
      A (.updateTenantPod cs (withPodStatus old hp.status)))
    (hpost : ∀ r w', Mirrored cs pool p w w' → Q r w') :
    Robust (handle env) A (mirrorStatus translator cs p (targetKey pool p) acc) Q w := by
  have hkeep : ∀ r, Q r w := fun r => hpost r w (Or.inl rfl)
  have hfailed : ∀ err : Err, Robust (handle env) A
      (if err.isNotFound then return .next acc
      else return .exit (stop acc.result err (err.wrap ("getting host pod status for " ++
        (targetKey pool p).ns ++ "/" ++ (targetKey pool p).name))) :
        Svc (Prog.Flow Progress Outcome)) Q w := by
    intro err
    split <;> exact Robust.pure (hkeep _)
  unfold mirrorStatus
  apply Robust.bind
  refine Robust.perform hgetPodStatus ?_ hfailed ?_
  · cases hget : w.hostPods.get (targetKey pool p) with
    | none =>
        simp only [handle, hget]
        exact hfailed _
    | some hp =>
        simp only [handle, hget, PodService.syncStatus]
        apply Robust.bind
        unfold updateTenantPodStatus
        apply Robust.bind
        refine Robust.read_of_eq rfl hgetTenantPod ?_ ?_
        · cases hold : (w.tenants cs).pods.get p.key with
          | none =>
              rw [find_none _ _ hold]
              exact Robust.pure (Robust.pure (hkeep _))
          | some old =>
              have hmirrored : Mirrored cs pool p w
                  (w.putTenantPod cs (withPodStatus old hp.status)) :=
                Or.inr ⟨hp, old, hget, hold, rfl⟩
              rw [find_some _ _ hold]
              exact Robust.perform_of_eq (handle_updateTenantPod hold) (hupdate hp old hget hold)
                (Robust.pure (hpost _ _ hmirrored)) (fun _ => Robust.pure (hkeep _))
                (fun _ => Robust.pure (hpost _ _ hmirrored))
        · intro err
          exact Robust.pure (Robust.pure (hkeep _))
  · intro err
    rw [handle_read env w (by rfl)]
    exact hfailed err

theorem robust_deleteFinished {A : Call → Prop}
    {Q : Prog.Flow Progress Outcome → Cluster → Prop} {w : Cluster} {acc : Progress}
    (hdeletePod : isTerminalPod p = true → A (.deletePod (targetKey pool p)))
    (hkeep : ∀ r, Q r w)
    (hdelete : ∀ r, isTerminalPod p = true → Q r (w.removePod env (targetKey pool p))) :
    Robust (handle env) A (deleteFinished p (targetKey pool p) acc) Q w := by
  unfold deleteFinished
  split
  · next hterminal =>
      apply Robust.bind
      exact Robust.perform_of_eq (handle_deletePod env w _) (hdeletePod hterminal)
        (Robust.pure (hdelete _ hterminal)) (fun _ => Robust.pure (hkeep _))
        (fun _ => Robust.pure (hdelete _ hterminal))
  · exact Robust.pure (hkeep _)

theorem robust_reportPod {A : Call → Prop}
    {Q : Prog.Flow Progress Outcome → Cluster → Prop} {w : Cluster} {acc : Progress}
    (hgetPodStatus : A (.getPodStatus (targetKey pool p)))
    (hgetTenantPod : A (.getTenantPod cs p.key))
    (hupdate : ∀ hp old, w.hostPods.get (targetKey pool p) = some hp →
      (w.tenants cs).pods.get p.key = some old →
      A (.updateTenantPod cs (withPodStatus old hp.status)))
    (hdeletePod : isTerminalPod p = true → A (.deletePod (targetKey pool p)))
    (hkeep : ∀ r w', Mirrored cs pool p w w' → Q r w')
    (hdelete : ∀ r w', isTerminalPod p = true → Mirrored cs pool p w w' →
      Q r (w'.removePod env (targetKey pool p))) :
    Robust (handle env) A (reportPod translator cs p (targetKey pool p) acc) Q w := by
  unfold reportPod
  apply Robust.bind
  apply robust_mirrorStatus hgetPodStatus hgetTenantPod hupdate
  intro r w' hw'
  cases r with
  | exit outcome => exact Robust.pure (hkeep _ _ hw')
  | next acc' =>
      exact robust_deleteFinished hdeletePod (fun r => hkeep r w' hw')
        (fun r hterminal => hdelete r w' hterminal hw')

theorem robust_afterEnsure {A : Call → Prop}
    {Q : Prog.Flow Progress Outcome → Cluster → Prop} {w : Cluster} {acc : Progress}
    {ensured : Bool × Bool × Option Err}
    (hgetPodStatus : A (.getPodStatus (targetKey pool p)))
    (hgetTenantPod : A (.getTenantPod cs p.key))
    (hupdate : ∀ hp old, w.hostPods.get (targetKey pool p) = some hp →
      (w.tenants cs).pods.get p.key = some old →
      A (.updateTenantPod cs (withPodStatus old hp.status)))
    (hlive : isTerminalPod p = false)
    (hpost : ∀ r w', Mirrored cs pool p w w' → Q r w') :
    Robust (handle env) A (afterEnsure translator cs p (targetKey pool p) acc ensured) Q w := by
  obtain ⟨created, deleted, err⟩ := ensured
  cases err with
  | some err =>
      simp only [afterEnsure]
      split <;> exact Robust.pure (hpost _ _ (Or.inl rfl))
  | none =>
      have hdone : isTerminalPod p ≠ true := by simp [hlive]
      exact robust_reportPod hgetPodStatus hgetTenantPod hupdate
        (fun h => absurd h hdone) hpost (fun _ _ h => absurd h hdone)

/-! ## The whole iteration -/

def Ensured (env : Env) (translator : PodService) (pool : VNodePool) (p : CorePod)
    (w w' : Cluster) : Prop :=
  w' = w ∨ (isTerminalPod p = false ∧ w.hostPods.get (targetKey pool p) = none ∧
    ∃ shown, env.storePod (targetPod translator pool p) = .ok shown ∧ w' = w.addPod shown)

theorem get_addPod {w : Cluster} {shown : PodSpec}
    (hshown : env.storePod (targetPod translator pool p) = .ok shown) :
    (w.addPod shown).hostPods.get (targetKey pool p) =
      some ⟨shown, { phase := .pending }⟩ := by
  obtain ⟨hns, hname⟩ := env.storePod_key _ _ hshown
  have hkey : HostPod.key ⟨shown, { phase := .pending }⟩ = targetKey pool p := by
    rw [HostPod.key, hns, hname]
    rfl
  rw [← hkey]
  exact Store.get_put_self w.hostPods _

variable {w w₁ w₂ w' : Cluster}

theorem Mirrors.of_ensured (hpods : w₁.hostPods = w.hostPods)
    (hens : Ensured env translator pool p w₁ w₂) {hp : HostPod}
    (hhp : w₂.hostPods.get (targetKey pool p) = some hp) : Mirrors pool p w hp.status := by
  rcases hens with rfl | ⟨hterminal, hnone, shown, hshown, rfl⟩
  · rw [hpods] at hhp
    exact Or.inl ⟨hp, hhp, rfl⟩
  · rw [get_addPod hshown, Option.some.injEq] at hhp
    rw [hpods] at hnone
    rw [← hhp]
    exact Or.inr ⟨hterminal, hnone, rfl⟩

namespace PodStep

theorem of_mirrored
    (hcopied : Copied (configMapWrites (w.tenants cs) pool p)
      (secretWrites (w.tenants cs) pool p) w w₁)
    (hens : Ensured env translator pool p w₁ w₂) (hmirrored : Mirrored cs pool p w₂ w') :
    PodStep env translator cs pool p w w' := by
  have hens' : w₂ = { w₁ with hostPods := w₂.hostPods } := by
    rcases hens with rfl | ⟨_, _, _, _, rfl⟩ <;> rfl
  have hmirrored' : w' = { w₂ with tenants := w'.tenants } := by
    rcases hmirrored with rfl | ⟨_, _, _, _, rfl⟩ <;> rfl
  have hsame : w' = { w₁ with hostPods := w₂.hostPods, tenants := w'.tenants } := by
    rw [hmirrored', hens']
  refine ⟨?_, ?_, ?_, ?_, ?_⟩
  · rw [hsame, hcopied.vnodes]
  · rw [hsame]
    rcases hens with rfl | ⟨hterminal, hnone, shown, hshown, rfl⟩
    · exact Or.inl hcopied.hostPods
    · rw [hcopied.hostPods] at hnone
      refine Or.inr (Or.inl ⟨hterminal, hnone, shown, hshown, ?_⟩)
      simp only [Cluster.addPod, hcopied.hostPods]
  · intro k hk
    rw [hsame]
    exact hcopied.configMaps k hk
  · intro k hk
    rw [hsame]
    exact hcopied.secrets k hk
  · have htenants : w₂.tenants = w.tenants := by rw [hens', hcopied.tenants]
    rcases hmirrored with rfl | ⟨hp, old, hhp, hold, rfl⟩
    · exact Or.inl htenants
    · rw [htenants] at hold
      refine Or.inr ⟨old, hp.status, hold,
        Mirrors.of_ensured hcopied.hostPods hens hhp, ?_⟩
      simp only [Cluster.putTenantPod, Cluster.setTenant, htenants]

theorem removePod (hreason : isTerminalPod p = true ∨ Drifted translator pool p w)
    (hstep : PodStep env translator cs pool p w w') (hpods : w'.hostPods = w.hostPods) :
    PodStep env translator cs pool p w (w'.removePod env (targetKey pool p)) := by
  rw [Cluster.removePod_eq]
  refine ⟨hstep.vnodes, Or.inr (Or.inr ⟨hreason, ?_⟩), hstep.configMaps, hstep.secrets,
    hstep.tenants⟩
  exact Cluster.removePod_hostPods_congr env _ hpods

/-- An iteration touches no host pod but its own. -/
theorem get_hostPods_ne (hstep : PodStep env translator cs pool p w w') {k : ObjKey}
    (hk : targetKey pool p ≠ k) : w'.hostPods.get k = w.hostPods.get k := by
  rcases hstep.hostPods with hsame | ⟨_, _, shown, hshown, hadd⟩ | ⟨_, hremove⟩
  · rw [hsame]
  · rw [hadd]
    refine Store.get_put_ne w.hostPods ?_
    obtain ⟨hns, hname⟩ := env.storePod_key _ _ hshown
    rw [HostPod.key, hns, hname, targetPod_key]
    exact hk
  · rw [hremove]
    exact Cluster.get_removePod_ne env w hk

end PodStep

theorem Mirrored.hostPods (h : Mirrored cs pool p w w') : w'.hostPods = w.hostPods := by
  rcases h with rfl | ⟨_, _, _, _, rfl⟩ <;> rfl

theorem Drifted.of_hostPods (hpods : w₁.hostPods = w.hostPods)
    (h : Drifted translator pool p w₁) : Drifted translator pool p w := by
  unfold Drifted at h
  rw [hpods] at h
  exact h

/-- After the copies and a creation, the status that is written is one of an iteration
from `w`. -/
theorem podCall_update {cms : List ConfigMap} {secs : List Secret}
    (hcopied : Copied cms secs w w₁) (hens : Ensured env translator pool p w₁ w₂)
    {hp : HostPod} {old : CorePod} (hhp : w₂.hostPods.get (targetKey pool p) = some hp)
    (hold : (w₂.tenants cs).pods.get p.key = some old) :
    PodCall translator cs pool p w (.updateTenantPod cs (withPodStatus old hp.status)) := by
  have htenants : w₂.tenants = w.tenants := by
    rcases hens with rfl | ⟨_, _, _, _, rfl⟩ <;> exact hcopied.tenants
  rw [htenants] at hold
  exact ⟨rfl, old, hp.status, hold, Mirrors.of_ensured hcopied.hostPods hens hhp, rfl⟩

theorem robust_podStep {A : Call → Prop} {acc : Progress}
    (hA : ∀ c, PodCall translator cs pool p w c → A c) :
    Robust (handle env) A (reconcilePod translator cs pool p acc)
      (fun _ w' => PodStep env translator cs pool p w w') w := by
  unfold reconcilePod
  rw [translate_eq]
  apply Robust.bind
  refine Robust.mono (robust_syncPodResources hA) ?_
  intro r w₁ hcopied
  cases r with
  | error err =>
      exact Robust.pure (PodStep.of_mirrored hcopied (Or.inl rfl) (Or.inl rfl))
  | ok u =>
      -- The reasons for a call or a deletion are stated for `w`, which has the
      -- host pods and tenants of `w₁`.
      have hupdate : ∀ w₂, Ensured env translator pool p w₁ w₂ → ∀ hp old,
          w₂.hostPods.get (targetKey pool p) = some hp →
          (w₂.tenants cs).pods.get p.key = some old →
          A (.updateTenantPod cs (withPodStatus old hp.status)) :=
        fun w₂ hens hp old hhp hold => hA _ (podCall_update hcopied hens hhp hold)
      have hkeep : ∀ w₂, Ensured env translator pool p w₁ w₂ → ∀ w',
          Mirrored cs pool p w₂ w' → PodStep env translator cs pool p w w' :=
        fun w₂ hens w' hw' => PodStep.of_mirrored hcopied hens hw'
      have hdrifted : Drifted translator pool p w₁ → Drifted translator pool p w :=
        Drifted.of_hostPods hcopied.hostPods
      have hself : PodStep env translator cs pool p w w₁ :=
        hkeep w₁ (Or.inl rfl) w₁ (Or.inl rfl)
      dsimp only
      split
      · next hterminal =>
          refine robust_reportPod (hA _ rfl) (hA _ trivial) (hupdate w₁ (Or.inl rfl))
            (fun h => hA _ ⟨rfl, Or.inl h⟩) ?_ ?_
          · intro r w' hw'
            exact hkeep w₁ (Or.inl rfl) w' hw'
          · intro r w' _ hw'
            refine PodStep.removePod (Or.inl hterminal) (hkeep w₁ (Or.inl rfl) w' hw') ?_
            rw [hw'.hostPods, hcopied.hostPods]
      · next hterminal =>
          have hlive : isTerminalPod p = false := by simpa using hterminal
          have hafter : ∀ w₂, Ensured env translator pool p w₁ w₂ → ∀ ensured,
              Robust (handle env) A
                (afterEnsure translator cs p (targetKey pool p)
                  { acc with
                    desired := keyForPod pool.ns (targetKey pool p).name :: acc.desired }
                  ensured)
                (fun _ w' => PodStep env translator cs pool p w w') w₂ := by
            intro w₂ hens ensured
            exact robust_afterEnsure (hA _ rfl) (hA _ trivial) (hupdate w₂ hens) hlive
              fun _ w' hw' => hkeep w₂ hens w' hw'
          apply Robust.bind
          refine robust_ensureHostPod (hA _ rfl) (hA _ ⟨hlive, rfl⟩)
            (fun h => hA _ ⟨rfl, Or.inr (hdrifted h)⟩) (hafter w₁ (Or.inl rfl)) ?_ ?_
          · intro ensured shown hnone hshown
            exact hafter _ (Or.inr ⟨hlive, hnone, shown, hshown, rfl⟩) ensured
          · intro deleted err hdrift
            have hremoved := PodStep.removePod (Or.inr (hdrifted hdrift)) hself
              hcopied.hostPods
            simp only [afterEnsure]
            split <;> exact Robust.pure hremoved

theorem robust_reconcilePod {A : Call → Prop} {acc : Progress}
    (hA : ∀ c, PodCall translator cs pool p w c → A c) :
    Robust (handle env) A (reconcilePod translator cs pool p acc)
      (fun r w' =>
        Desires (keyForPod pool.ns (targetKey pool p).name :: acc.desired) r ∧
          PodStep env translator cs pool p w w') w := by
  have hstep : Robust (handle env) A (reconcilePod translator cs pool p acc)
      (fun _ w' => PodStep env translator cs pool p w w') w := robust_podStep hA
  have hdesires := (returns_reconcilePod translator cs pool p acc).run (withFaults (handle env))
  intro plan
  exact ⟨(hstep plan).1, hdesires (w, plan), (hstep plan).2⟩

end VNodeOperator.Pass
