import SessionGateway.Proofs.Connection.Origin
import SessionGateway.Proofs.Identity.Label

/-!
# Pods that users share

Two users of one namespace share a pod if the labels of their ids agree, and only then. So users
whose ids differ in nothing but the case of a letter share one; users whose ids are labels do not, as
long as their pods' names need not be cut.
-/

namespace SessionGateway

def Channel.Act.pod? : Channel.Act → Option (String × String)
  | .exec _ request => some (request.tenant, request.podName)
  | .forward _ request => some (request.tenant, request.podName)
  | _ => none

namespace Connection

theorem Confined.pod {ctx : Context} {attempt : Option Attempt} {sent : List ChannelRequest}
    {a : Channel.Act} {pod : String × String} (hconfined : Confined ctx attempt sent a)
    (hpod : a.pod? = some pod) : pod = (ctx.identity.tenant, ctx.podName) := by
  cases a with
  | exec i request =>
      obtain ⟨htenant, hname, _⟩ := hconfined
      obtain rfl := Option.some.inj hpod
      rw [htenant, hname]
      rfl
  | forward i request =>
      obtain ⟨_, _, _, _, _, rfl⟩ := hconfined
      exact (Option.some.inj hpod).symm
  | _ => cases hpod

/-- Whatever a connection asks of the cluster goes to its own pod. -/
theorem pod_of_run {p : Parts} {s u : State} {log : Log} {n : Nat} {a : Channel.Act}
    {pod : String × String} (hbuild : p.build = .ok s) (hrun : Run State.step s log u)
    (hact : .channel n a ∈ seen log) (hpod : a.pod? = some pod) :
    pod = (s.context.identity.tenant, s.context.podName) := by
  obtain ⟨_, _, _, _, _, hfresh⟩ := Parts.context_of_build hbuild
  rw [hfresh] at hrun
  exact ((confined_of_run hrun n).2 a (mem_actsOn.2 hact)).pod hpod

theorem Parts.userId_ne_empty {p : Parts} {s : State} (hbuild : p.build = .ok s) :
    s.context.identity.userId ≠ "" := by
  obtain ⟨_, _, _, huserId, _⟩ := Parts.context_of_build hbuild
  exact (Parts.choose_eq_some.1 huserId).2

section

variable {p q : Parts} {s t : State}

/-- Two users of one namespace, served with the same settings, have one pod exactly if the labels of
their ids agree; ids that are labels and are not cut have pods of their own. What the connection of
one of them asks of the cluster goes to the pod of the other only if the labels agree. -/
theorem shares_pod_iff_labels_agree (hs : p.build = .ok s) (ht : q.build = .ok t)
    (hconfig : s.context.config = t.context.config)
    (htenant : s.context.identity.tenant = t.context.identity.tenant)
    (hdiffer : s.context.identity.userId ≠ t.context.identity.userId) :
    (s.context.podName = t.context.podName ↔
      PodName.label (s.context.config.podNameLead ++ s.context.identity.userId) =
        PodName.label (s.context.config.podNameLead ++ t.context.identity.userId)) ∧
    ((∀ who ∈ [s.context.identity, t.context.identity], PodName.label who.userId = who.userId ∧
        s.context.config.podNameLead.length + who.userId.length ≤ PodName.maxLength) →
      s.context.podName ≠ t.context.podName) ∧
    ∀ log u, Run State.step s log u → ∀ n a pod, .channel n a ∈ seen log → a.pod? = some pod →
      (pod = (t.context.identity.tenant, t.context.podName) ↔
        PodName.label (s.context.config.podNameLead ++ s.context.identity.userId) =
          PodName.label (s.context.config.podNameLead ++ t.context.identity.userId)) := by
  have hagree : s.context.podName = t.context.podName ↔
      PodName.label (s.context.config.podNameLead ++ s.context.identity.userId) =
        PodName.label (s.context.config.podNameLead ++ t.context.identity.userId) := by
    rw [Context.podName, Context.podName, PodName.ofUser_eq_label, PodName.ofUser_eq_label, hconfig]
  refine ⟨hagree, fun hlabels hsame => ?_, fun log u hrun n a pod hact hpod => ?_⟩
  · obtain ⟨hslabel, hsfits⟩ := hlabels s.context.identity (by simp)
    obtain ⟨htlabel, htfits⟩ := hlabels t.context.identity (by simp)
    rw [Context.podName, Context.podName, ← hconfig] at hsame
    exact hdiffer (PodName.ofUser_injective hslabel htlabel (Parts.userId_ne_empty hs)
      (Parts.userId_ne_empty ht) hsfits htfits hsame)
  · rw [pod_of_run hs hrun hact hpod, htenant, Prod.mk.injEq, ← hagree]
    exact and_iff_right rfl

/-- Two users with short names have pods of their own. -/
theorem shares_pod_iff_labels_agree_short :
    ∃ ada ben s t, (Parts.complete ada).build = .ok s ∧ (Parts.complete ben).build = .ok t ∧
      s.context.identity = ⟨"team", "ada"⟩ ∧ t.context.identity = ⟨"team", "ben"⟩ ∧
      s.context.podName ≠ t.context.podName := by
  let ada : Login := ⟨"ada", [], .ofList [("namespace", "team"), ("user-id", "ada")]⟩
  let ben : Login := ⟨"ben", [], .ofList [("namespace", "team"), ("user-id", "ben")]⟩
  have hada : (Parts.complete ada).build = .ok (.fresh ⟨⟨"team", "ada"⟩, .standard⟩ false) := by rfl
  have hben : (Parts.complete ben).build = .ok (.fresh ⟨⟨"team", "ben"⟩, .standard⟩ false) := by rfl
  have hpods := (shares_pod_iff_labels_agree hada hben rfl rfl (by decide)).2.1 (by decide +kernel)
  exact ⟨ada, ben, _, _, hada, hben, rfl, rfl, hpods⟩

/-- Users whose ids differ in the case of a letter share a pod: the shell of one of them starts in
the pod of the other. -/
theorem shares_pod_of_letter_case :
    ∃ lower upper s t, (Parts.complete lower).build = .ok s ∧ (Parts.complete upper).build = .ok t ∧
      s.context = ⟨⟨"team", "ada"⟩, .standard⟩ ∧ t.context = ⟨⟨"team", "Ada"⟩, .standard⟩ ∧
      s.context.podName = t.context.podName ∧
      ∃ log u, Run State.step t log u ∧
        .channel 0 (.exec 0 (s.context.exec s.context.config.shellCommand false)) ∈ seen log := by
  let lower : Login := ⟨"ada", [], .ofList [("namespace", "team"), ("user-id", "ada")]⟩
  let upper : Login := ⟨"Ada", [], .ofList [("namespace", "team"), ("user-id", "Ada")]⟩
  have hlower : (Parts.complete lower).build = .ok (.fresh ⟨⟨"team", "ada"⟩, .standard⟩ false) := by
    rfl
  have hupper : (Parts.complete upper).build = .ok (.fresh ⟨⟨"team", "Ada"⟩, .standard⟩ false) := by
    rfl
  refine ⟨lower, upper, _, _, hlower, hupper, rfl, rfl, by decide +kernel, ?_⟩
  exact exists_run_of_replay
    [.advance, .keepalive (.start ""), .provisioned (.ok ()), .openChannel "session" [], .takeOpen,
      .runOpen 0, .accepted 0 (.ok ()), .channel 0 .advance,
      .channel 0 (.arrive ⟨"shell", [], true⟩), .channel 0 .advance, .channel 0 (.run 0)]
    (by decide +kernel)

end

end Connection

end SessionGateway
