import SessionGateway.Proofs.Task.Running

/-!
# Tokens below tokens

A token is made below an older one or without a parent, and keeps its place for good. Cancelling a
token reaches exactly the tokens below it, and a token that is made later is cancelled from the start
if the one above it is. Nothing else that happens to groups cancels a token.
-/

namespace SessionGateway.Task.Forest

def parentOf (f : Forest) (token : Nat) : Option Nat :=
  f.tokens[token]?.bind Token.parent

/-- A token is another one, or was made somewhere below it. -/
inductive Below (f : Forest) (top : Nat) : Nat → Prop
  | self : Below f top top
  | child {token parent : Nat} (hparent : f.parentOf token = some parent)
      (hbelow : Below f top parent) : Below f top token

/-- The token that is cancelled by an event, be it alone or with the group that has it. -/
def Event.cancels? (f : Forest) : Event → Option Nat
  | .cancelToken t => some t
  | .cancel g | .shutdown g => some (f.tokenOf g)
  | .token _ | .group _ | .spawn _ | .finish _ | .wait _ => none

/-- Parents are older than their children, and every group has a token. -/
structure Sound (f : Forest) : Prop where
  older : ∀ {token parent : Nat}, f.parentOf token = some parent → parent < token
  owned : ∀ token ∈ f.groups, token < f.tokens.length

/-- What an event does to the tokens, told by the token that it cancels. -/
inductive Turns (f t : Forest) : Option Nat → Prop
  | made {parent : Option Nat} (hparent : parent.all f.hasToken = true)
      (htokens : t.tokens = (f.addToken parent).tokens) : Turns f t none
  | cancelled {top : Nat} (htokens : t.tokens = (f.cancelToken top).tokens) : Turns f t (some top)
  | kept (htokens : t.tokens = f.tokens) : Turns f t none

section

variable {f t : Forest} {token parent top group : Nat} {e : Event}

/-! ## Who stands above whom -/

theorem isCancelled_congr (htokens : t.tokens = f.tokens) :
    t.isCancelled token = f.isCancelled token := by
  unfold isCancelled
  rw [htokens]

theorem lt_of_isCancelled (h : f.isCancelled token = true) : token < f.tokens.length := by
  by_contra hge
  simp [isCancelled, List.getElem?_eq_none (Nat.le_of_not_lt hge)] at h

theorem parentOf_congr (hparents : t.tokens.map Token.parent = f.tokens.map Token.parent) :
    t.parentOf token = f.parentOf token := by
  have hread (u : Forest) : u.parentOf token = (u.tokens.map Token.parent)[token]?.join := by
    rw [parentOf, List.getElem?_map]
    cases u.tokens[token]? <;> rfl
  rw [hread, hread, hparents]

theorem lt_of_parentOf (h : f.parentOf token = some parent) : token < f.tokens.length := by
  obtain ⟨entry, hentry, _⟩ := Option.bind_eq_some_iff.1 h
  exact (List.getElem?_eq_some_iff.1 hentry).1

theorem below_iff :
    f.Below top token ↔ token = top ∨ ∃ parent, f.parentOf token = some parent ∧ f.Below top parent := by
  constructor
  · rintro (_ | ⟨hparent, hbelow⟩)
    · exact .inl rfl
    · exact .inr ⟨_, hparent, hbelow⟩
  · rintro (rfl | ⟨parent, hparent, hbelow⟩)
    · exact .self
    · exact .child hparent hbelow

theorem Sound.le_of_below (hsound : f.Sound) (h : f.Below top token) : top ≤ token := by
  induction h with
  | self => exact Nat.le_refl _
  | child hparent _ ih => exact Nat.le_trans ih (Nat.le_of_lt (hsound.older hparent))

theorem Sound.not_below_parent (hsound : f.Sound) (h : f.parentOf token = some parent) :
    ¬f.Below token parent := fun hbelow =>
  absurd (hsound.le_of_below hbelow) (Nat.not_le_of_lt (hsound.older h))

/-- Of two tokens with the same parent, or without one, neither is below the other. -/
theorem Sound.not_below_sibling (hsound : f.Sound) {sibling : Nat} (hne : sibling ≠ token)
    (hsame : f.parentOf sibling = f.parentOf token) : ¬f.Below token sibling := by
  intro hbelow
  obtain rfl | ⟨parent, hparent, hbelow⟩ := below_iff.1 hbelow
  · exact hne rfl
  · exact hsound.not_below_parent (hsame.symm.trans hparent) hbelow

/-! ## Cancelling a token -/

/-- The pass that cancels a token: if what it has reached so far are the tokens below, then it goes
on to reach exactly these. -/
theorem cancelFrom_reaches (hsound : f.Sound) (done : List Token) {rest : List Token}
    {reached : List Bool} (htokens : f.tokens = done ++ rest) (hlength : reached.length = done.length)
    (hreached : ∀ i b, reached[i]? = some b → (b = true ↔ f.Below top i)) {k : Nat} {entry : Token}
    (hentry : rest[k]? = some entry) :
    ∃ hit : Bool, (cancelFrom top reached rest)[k]? =
      some { entry with cancelled := entry.cancelled || hit } ∧
        (hit = true ↔ f.Below top (done.length + k)) := by
  induction rest generalizing done reached k with
  | nil => simp at hentry
  | cons first rest ih =>
      have hparent : f.parentOf done.length = first.parent := by
        simp [parentOf, htokens]
      -- Whether the pass reaches the first of the tokens that remain.
      have hfirst : (reached.length = top ∨ (first.parent.bind (reached[·]?)).getD false = true) ↔
          f.Below top done.length := by
        rw [below_iff, hlength, hparent]
        refine or_congr_right ?_
        cases hp : first.parent with
        | none => simp
        | some p =>
            have hlt : p < reached.length := hlength ▸ hsound.older (hparent.trans hp)
            have hat : reached[p]? = some reached[p] := List.getElem?_eq_getElem hlt
            simp [hat, hreached p _ hat]
      cases k with
      | zero =>
          obtain rfl : first = entry := Option.some.inj hentry
          exact ⟨_, rfl, by simpa using hfirst⟩
      | succ k =>
          have hnext : ∀ i b, (reached ++ [decide (reached.length = top ∨
              (first.parent.bind (reached[·]?)).getD false = true)])[i]? = some b →
              (b = true ↔ f.Below top i) := by
            intro i b hb
            rw [List.getElem?_append] at hb
            split at hb
            · exact hreached i b hb
            · rw [List.getElem?_singleton] at hb
              obtain ⟨hi, ⟨⟩⟩ := Option.ite_none_right_eq_some.1 hb
              obtain rfl : i = done.length := by omega
              rw [decide_eq_true_eq]
              exact hfirst
          obtain ⟨hit, hat, hhit⟩ := ih (done ++ [first]) (by simp [htokens]) (by simp [hlength])
            hnext (by simpa using hentry)
          refine ⟨hit, hat, ?_⟩
          rwa [List.length_append, List.length_singleton, Nat.add_assoc, Nat.add_comm 1] at hhit

theorem parents_cancelFrom (top : Nat) (reached : List Bool) (tokens : List Token) :
    (cancelFrom top reached tokens).map Token.parent = tokens.map Token.parent := by
  induction tokens generalizing reached with
  | nil => rfl
  | cons first rest ih => simp only [cancelFrom, List.map_cons, ih]

theorem length_cancelToken : (f.cancelToken top).tokens.length = f.tokens.length := by
  have hparents := congrArg List.length (parents_cancelFrom top [] f.tokens)
  rwa [List.length_map, List.length_map] at hparents

theorem isCancelled_cancelToken (hsound : f.Sound) (htoken : token < f.tokens.length) :
    (f.cancelToken top).isCancelled token = true ↔
      f.isCancelled token = true ∨ f.Below top token := by
  have hentry := List.getElem?_eq_getElem htoken
  have hnone : ∀ i b, ([] : List Bool)[i]? = some b → (b = true ↔ f.Below top i) := by simp
  obtain ⟨hit, hat, hhit⟩ := cancelFrom_reaches hsound [] rfl rfl hnone hentry
  rw [List.length_nil, Nat.zero_add] at hhit
  simp [isCancelled, cancelToken, hat, hentry, ← hhit]

/-! ## What each event does to the tokens -/

theorem tokens_release : (f.release group).tokens = f.tokens := by
  unfold release
  split <;> rfl

theorem tokens_finish {task : Nat} : (f.finish task).tokens = f.tokens := by
  unfold finish
  split
  · exact tokens_release
  · rfl

theorem Move.turns (hmove : Move f e t) : Turns f t (e.cancels? f) := by
  cases hmove with
  | token hparent | group hparent => exact .made hparent rfl
  | cancelToken _ | cancel _ | shutdown _ => exact .cancelled rfl
  | finish _ _ => exact .kept tokens_finish
  | spawn _ | wait _ => exact .kept rfl

theorem Turns.length_le {cancels : Option Nat} (h : Turns f t cancels) :
    f.tokens.length ≤ t.tokens.length := by
  cases h with
  | made _ htokens => simp [htokens, addToken]
  | cancelled htokens => exact Nat.le_of_eq (htokens ▸ length_cancelToken.symm)
  | kept htokens => exact Nat.le_of_eq (htokens ▸ rfl)

/-- A token stays where it was made. -/
theorem Turns.parentOf {cancels : Option Nat} (h : Turns f t cancels)
    (htoken : token < f.tokens.length) : t.parentOf token = f.parentOf token := by
  cases h with
  | made _ htokens =>
      rw [Forest.parentOf, htokens, addToken, List.getElem?_append_left htoken]
      rfl
  | cancelled htokens => exact parentOf_congr (htokens ▸ parents_cancelFrom _ _ _)
  | kept htokens => exact parentOf_congr (htokens ▸ rfl)

theorem Turns.below_iff {cancels : Option Nat} (h : Turns f t cancels) (hsound : f.Sound)
    (htoken : token < f.tokens.length) : t.Below top token ↔ f.Below top token := by
  constructor
  · intro hbelow
    induction hbelow with
    | self => exact .self
    | child hparent _ ih =>
        rw [h.parentOf htoken] at hparent
        exact .child hparent (ih (Nat.lt_trans (hsound.older hparent) htoken))
  · intro hbelow
    induction hbelow with
    | self => exact .self
    | child hparent _ ih =>
        have hlt := Nat.lt_trans (hsound.older hparent) htoken
        exact .child ((h.parentOf htoken).trans hparent) (ih hlt)

/-- A token that was there before is cancelled now iff it was before, or the event cancels it or one
that it is below. -/
theorem Turns.isCancelled_iff {cancels : Option Nat} (h : Turns f t cancels) (hsound : f.Sound)
    (htoken : token < f.tokens.length) : t.isCancelled token = true ↔
      f.isCancelled token = true ∨ ∃ top, cancels = some top ∧ f.Below top token := by
  cases h with
  | made _ htokens =>
      have hsame : t.isCancelled token = f.isCancelled token := by
        rw [isCancelled, htokens, addToken, List.getElem?_append_left htoken]
        rfl
      simp [hsame]
  | cancelled htokens =>
      rw [isCancelled_congr htokens, isCancelled_cancelToken hsound htoken]
      simp
  | kept htokens => simp [isCancelled_congr htokens]

/-- A token that is new has its place below one that was there before, or below none, and is
cancelled iff that one is. -/
theorem Turns.of_new {cancels : Option Nat} (h : Turns f t cancels)
    (hnew : f.tokens.length ≤ token) (htoken : token < t.tokens.length) :
    cancels = none ∧ (∀ parent, t.parentOf token = some parent → parent < f.tokens.length) ∧
      (t.isCancelled token = true ↔
        ∃ parent, t.parentOf token = some parent ∧ f.isCancelled parent = true) := by
  cases h with
  | @made above habove htokens =>
      obtain rfl : token = f.tokens.length := by
        rw [htokens, addToken, List.length_append, List.length_singleton] at htoken
        omega
      have hat : t.tokens[f.tokens.length]? =
          some ⟨above, (above.map f.isCancelled).getD false⟩ := by
        simp [htokens, addToken]
      have hparent : t.parentOf f.tokens.length = above := by simp [Forest.parentOf, hat]
      refine ⟨rfl, fun parent hp => ?_, ?_⟩
      · rw [hparent] at hp
        simpa [hp, hasToken] using habove
      · rw [isCancelled, hat, hparent]
        cases above <;> simp
  | cancelled htokens =>
      rw [htokens, length_cancelToken] at htoken
      exact absurd htoken (Nat.not_lt_of_le hnew)
  | kept htokens =>
      rw [htokens] at htoken
      exact absurd htoken (Nat.not_lt_of_le hnew)

theorem Move.groups (hmove : Move f e t) :
    t.groups = f.groups ∨
      t.groups = f.groups ++ [f.tokens.length] ∧ t.tokens.length = f.tokens.length + 1 := by
  cases hmove with
  | group _ => exact .inr ⟨rfl, by simp [addGroup, addToken]⟩
  | finish hentry _ =>
      refine .inl ?_
      rw [Forest.finish, hentry]
      simp only [release]
      split <;> rfl
  | _ => exact .inl rfl

theorem sound_empty : empty.Sound :=
  ⟨fun h => by simp [parentOf, empty] at h, fun _ h => absurd h List.not_mem_nil⟩

theorem Move.sound (hmove : Move f e t) (hsound : f.Sound) : t.Sound := by
  have hturns := hmove.turns
  constructor
  case older =>
    intro token parent hparent
    rcases Nat.lt_or_ge token f.tokens.length with hlt | hge
    · exact hsound.older ((hturns.parentOf hlt).symm.trans hparent)
    · have hnew := hturns.of_new hge (lt_of_parentOf hparent)
      exact Nat.lt_of_lt_of_le (hnew.2.1 parent hparent) hge
  case owned =>
    intro token hmem
    rcases hmove.groups with hsame | ⟨hmore, hlength⟩
    · exact Nat.lt_of_lt_of_le (hsound.owned token (hsame ▸ hmem)) hturns.length_le
    · rw [hmore, List.mem_append, List.mem_singleton] at hmem
      rcases hmem with hmem | rfl
      · exact Nat.lt_of_lt_of_le (hsound.owned token hmem) hturns.length_le
      · omega

theorem Sound.tokenOf_lt (hsound : f.Sound) (hgroup : f.hasGroup group = true) :
    f.tokenOf group < f.tokens.length := by
  have hlt : group < f.groups.length := by simpa [hasGroup] using hgroup
  rw [tokenOf, List.getElem?_eq_getElem hlt]
  exact hsound.owned _ (List.getElem_mem hlt)

/-- What an event cancels is there. -/
theorem Move.lt_of_cancels (hmove : Move f e t) (hsound : f.Sound)
    (hcancels : e.cancels? f = some top) : top < f.tokens.length := by
  cases hmove with
  | cancelToken htoken =>
      obtain rfl := Option.some.inj hcancels
      simpa [hasToken] using htoken
  | cancel hgroup | shutdown hgroup =>
      obtain rfl := Option.some.inj hcancels
      exact hsound.tokenOf_lt hgroup
  | _ => cases hcancels

end

end SessionGateway.Task.Forest
