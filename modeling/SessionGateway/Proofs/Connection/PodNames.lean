import SessionGateway.Proofs.Connection.Origin
import SessionGateway.Proofs.Identity.PodName

/-!
# Which users have a pod that can be named

The name of a pod is to be a label of a host. It is one if the configured start or the user's id has
an ASCII letter or digit. Where neither has one nothing is left of the name, and nothing that sets up
a connection asks for more of an id than that it is not empty.
-/

namespace SessionGateway

namespace PodName

/-- Whether a text is a label of a host: at least one and at most 63 characters, each of them a
lower-case letter, a digit or a dash, and no dash at either end. -/
def IsHostLabel (name : String) : Prop :=
  1 ≤ name.length ∧ name.length ≤ maxLength ∧
    (∀ c ∈ name.toList, c = '-' ∨ c.isLower = true ∨ c.isDigit = true) ∧
    name.toList.head? ≠ some '-' ∧ name.toList.getLast? ≠ some '-'

instance (name : String) : Decidable (IsHostLabel name) :=
  -- asks the characters of the name, where the search for an instance may ask all characters
  have : Decidable (∀ c ∈ name.toList, c = '-' ∨ c.isLower = true ∨ c.isDigit = true) :=
    List.decidableBAll _ name.toList
  inferInstanceAs (Decidable (_ ∧ _ ∧ _ ∧ _ ∧ _))

section

variable {lead userId : String}

/-- The name of a pod falls short of a label only by being empty. -/
theorem isHostLabel_ofUser_iff : IsHostLabel (ofUser lead userId) ↔ HasPlain (lead ++ userId) := by
  have htidy := tidy_ofUser lead userId
  have hempty : ofUser lead userId = "" ↔ ¬ HasPlain (lead ++ userId) := ofUser_eq_empty_iff
  constructor
  · rintro ⟨hpos, -⟩
    by_contra hnone
    rw [hempty.2 hnone] at hpos
    exact absurd hpos (by decide)
  · intro hplain
    have hne : (ofUser lead userId).length ≠ 0 := by
      rw [Ne, String.length_eq_zero_iff, hempty, not_not]
      exact hplain
    refine ⟨Nat.one_le_iff_ne_zero.2 hne, length_ofUser_le lead userId, fun c hc => ?_,
      htidy.start, ?_⟩
    · exact (htidy.plain c hc).imp_right fun ⟨hkept, hlower⟩ => isLower_or_isDigit hkept hlower
    · rw [toList_ofUser]
      exact getLast_dropTrailingDashes _

end

end PodName

namespace Connection

/-- A user who is served has a pod whose name is the label of a host exactly if the configured start
or the user's id has an ASCII letter or digit. Otherwise the name is empty. -/
theorem podName_isHostLabel_iff {p : Parts} {s : State} (hbuild : p.build = .ok s) :
    ∃ login userId, p.login = some login ∧
      Parts.choose p.userId login.permissions.userId = some userId ∧ userId ≠ "" ∧
      (PodName.IsHostLabel s.context.podName ↔
        PodName.HasPlain ((p.config.getD .standard).podNameLead ++ userId)) ∧
      (¬ PodName.HasPlain ((p.config.getD .standard).podNameLead ++ userId) →
        s.context.podName = "") := by
  obtain ⟨login, hlogin, _, huserId, hconfig, _⟩ := Parts.context_of_build hbuild
  refine ⟨login, _, hlogin, huserId, (Parts.choose_eq_some.1 huserId).2, ?_, fun hnone => ?_⟩
  · rw [← hconfig]
    exact PodName.isHostLabel_ofUser_iff
  · rw [← hconfig] at hnone
    exact PodName.ofUser_eq_empty_iff.2 hnone

/-- A user with a short name has a pod that can be named. -/
theorem podName_isHostLabel_iff_short :
    ∃ login s, (Parts.complete login).build = .ok s ∧ s.context.identity.userId = "__ada__" ∧
      PodName.IsHostLabel s.context.podName := by
  let login : Login := ⟨"ada", [], .ofList [("namespace", "team"), ("user-id", "__ada__")]⟩
  have hbuild : (Parts.complete login).build =
      .ok (.fresh ⟨⟨"team", "__ada__"⟩, .standard⟩ false) := by
    rfl
  obtain ⟨login', userId, hlogin, huserId, _, hlabel, _⟩ := podName_isHostLabel_iff hbuild
  obtain rfl : login = login' := Option.some.inj hlogin
  obtain rfl : "__ada__" = userId := Option.some.inj huserId
  exact ⟨login, _, hbuild, rfl, hlabel.2 ⟨'a', by decide, by decide⟩⟩

/-- A user whose id has no letter and no digit is served, and the shell starts in a pod that has no
name. -/
theorem no_podName_of_underscores :
    ∃ login s, (Parts.complete login).build = .ok s ∧ s.context.identity.userId = "___" ∧
      s.context.podName = "" ∧ ¬ PodName.IsHostLabel s.context.podName ∧
      ∃ log u, Run State.step s log u ∧
        .channel 0 (.exec 0 (s.context.exec s.context.config.shellCommand false)) ∈ seen log := by
  let login : Login := ⟨"ada", [], .ofList [("namespace", "team"), ("user-id", "___")]⟩
  have hbuild : (Parts.complete login).build =
      .ok (.fresh ⟨⟨"team", "___"⟩, .standard⟩ false) := by
    rfl
  refine ⟨login, _, hbuild, rfl, by decide +kernel, by decide +kernel, ?_⟩
  exact exists_run_of_replay
    [.advance, .keepalive (.start ""), .provisioned (.ok ()), .openChannel "session" [], .takeOpen,
      .runOpen 0, .accepted 0 (.ok ()), .channel 0 .advance,
      .channel 0 (.arrive ⟨"shell", [], true⟩), .channel 0 .advance, .channel 0 (.run 0)]
    (by decide +kernel)

end Connection

end SessionGateway
