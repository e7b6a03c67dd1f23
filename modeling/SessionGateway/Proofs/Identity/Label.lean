import Mathlib.Data.List.Chain
import Mathlib.Data.List.DropRight
import SessionGateway.Identity.Basic

/-!
# Pod names as labels

The label of a text is made up of its words, which are the longest runs of ASCII letters and digits:
in lower case, joined with single dashes and cut to the length that a label may have. The name of a
pod is the label of the configured start and the user's id, so users share a pod where these labels
agree; ids that are labels themselves do not share one unless the name is cut.
-/

namespace SessionGateway.PodName

/-- What stands between the characters that a label cannot hold, in lower case. -/
def pieces (cs : List Char) : List (List Char) :=
  (cs.map Char.toLower).splitOnP (!isPlain ·)

def join (ws : List (List Char)) : List Char :=
  ['-'].intercalate (ws.filter (· ≠ []))

def label (text : String) : String :=
  let kept := (join (pieces text.toList)).take maxLength
  String.ofList (if kept.getLast? = some '-' then kept.dropLast else kept)

/-- What is written while a text is read: the joined pieces, and a dash if the text may go on. -/
def Trails (joined out : List Char) : Prop :=
  out = joined ∨ joined ≠ [] ∧ out = joined ++ ['-']

/-- Characters that stand in a label as they do here. -/
structure Tidy (cs : List Char) : Prop where
  plain : ∀ c ∈ cs, c = '-' ∨ isPlain c = true ∧ c.toLower = c
  single : cs.IsChain fun a b => a = '-' → b ≠ '-'
  start : cs.head? ≠ some '-'

theorem toLower_toLower (c : Char) : c.toLower.toLower = c.toLower := by
  unfold Char.toLower
  grind

/-! ## The words of a text -/

section

variable {c : Char} {cs rest w : List Char} {ws : List (List Char)}

theorem pieces_cons_plain (hplain : isPlain c.toLower = true) (hrest : pieces rest = w :: ws) :
    pieces (c :: rest) = (c.toLower :: w) :: ws := by
  rw [pieces, List.map_cons, List.splitOnP_cons_eq_if_modifyHead, if_neg (by simp [hplain])]
  exact congrArg (List.modifyHead (List.cons c.toLower)) hrest

theorem pieces_cons_other (hother : isPlain c.toLower = false) :
    pieces (c :: rest) = [] :: pieces rest := by
  rw [pieces, List.map_cons, List.splitOnP_cons_eq_if_modifyHead, if_pos (by simp [hother])]
  rfl

theorem join_nil_cons (ws : List (List Char)) : join ([] :: ws) = join ws := by
  simp [join]

theorem join_cons (hw : w ≠ []) :
    join (w :: ws) = if join ws = [] then w else w ++ '-' :: join ws := by
  have hfilter : (w :: ws).filter (· ≠ []) = w :: ws.filter (· ≠ []) := by simp [hw]
  unfold join
  rw [hfilter]
  cases hrest : ws.filter (· ≠ []) with
  | nil => simp
  | cons v vs =>
      have hv : v ≠ [] := by
        have hmem : v ∈ ws.filter (· ≠ []) := by
          rw [hrest]
          exact List.mem_cons_self
        simpa using (List.mem_filter.1 hmem).2
      rw [List.intercalate_cons_cons, if_neg]
      · simp
      · cases vs <;> simp [List.intercalate_cons_cons, hv]

/-- Reading a text writes its words. Within a word, the rest of the word is written first. -/
theorem trails_squeeze (cs : List Char) :
    Trails (join (pieces cs)) (squeeze true cs) ∧
    ∃ w ws out, pieces cs = w :: ws ∧ squeeze false cs = w ++ out ∧
      (ws = [] ∧ out = [] ∨ ∃ tail, out = '-' :: tail ∧ Trails (join ws) tail) := by
  induction cs with
  | nil => exact ⟨.inl rfl, [], [], [], rfl, rfl, .inl ⟨rfl, rfl⟩⟩
  | cons c rest ih =>
      obtain ⟨htrails, w, ws, out, hpieces, hout, hrest⟩ := ih
      cases hplain : isPlain c.toLower with
      | true =>
          have hstart : squeeze true (c :: rest) = c.toLower :: w ++ out := by
            simp [squeeze, hplain, hout]
          have hwithin : squeeze false (c :: rest) = c.toLower :: w ++ out := by
            simp [squeeze, hplain, hout]
          refine ⟨?_, c.toLower :: w, ws, out, pieces_cons_plain hplain hpieces, hwithin, hrest⟩
          rw [pieces_cons_plain hplain hpieces, join_cons (by simp), hstart]
          rcases hrest with ⟨rfl, rfl⟩ | ⟨tail, rfl, rfl | ⟨hne, rfl⟩⟩
          · exact .inl (by simp [join])
          · by_cases hnone : join ws = []
            · exact .inr ⟨by simp [hnone], by simp [hnone]⟩
            · exact .inl (by simp [hnone])
          · exact .inr ⟨by simp [hne], by simp [hne]⟩
      | false =>
          have hstart : squeeze true (c :: rest) = squeeze true rest := by simp [squeeze, hplain]
          have hwithin : squeeze false (c :: rest) = '-' :: squeeze true rest := by
            simp [squeeze, hplain]
          rw [pieces_cons_other hplain, join_nil_cons, hstart]
          exact ⟨htrails, [], pieces rest, _, rfl, hwithin, .inr ⟨_, rfl, htrails⟩⟩

theorem chars_squeeze (dashed : Bool) (cs : List Char) :
    (∀ c ∈ squeeze dashed cs, c = '-' ∨ isPlain c = true ∧ c.toLower = c) ∧
    ((squeeze dashed cs).IsChain fun a b => a = '-' → b ≠ '-') ∧
    (dashed = true → (squeeze dashed cs).head? ≠ some '-') := by
  induction cs generalizing dashed with
  | nil => simp [squeeze]
  | cons c rest ih =>
      obtain ⟨hplain, hsingle, _⟩ := ih false
      obtain ⟨hplain', hsingle', hstart'⟩ := ih true
      cases hc : isPlain c.toLower with
      | true =>
          have hdash : c.toLower ≠ '-' := by
            intro heq
            rw [heq] at hc
            exact absurd hc (by decide)
          simp only [squeeze, hc, if_true]
          refine ⟨?_, List.isChain_cons.2 ⟨fun _ _ heq => (hdash heq).elim, hsingle⟩, ?_⟩
          · rintro d (_ | ⟨_, hd⟩)
            · exact .inr ⟨hc, toLower_toLower c⟩
            · exact hplain d hd
          · simp [hdash]
      | false =>
          cases dashed with
          | true =>
              simp only [squeeze, hc, Bool.false_eq_true, if_false, if_true]
              exact ⟨hplain', hsingle', fun _ => hstart' rfl⟩
          | false =>
              simp only [squeeze, hc, Bool.false_eq_true, if_false]
              refine ⟨?_, List.isChain_cons.2 ⟨?_, hsingle'⟩, by simp⟩
              · rintro d (_ | ⟨_, hd⟩)
                · exact .inl rfl
                · exact hplain' d hd
              · rintro d hd - rfl
                exact hstart' rfl hd

theorem tidy_squeeze (cs : List Char) : Tidy (squeeze true cs) where
  plain := (chars_squeeze true cs).1
  single := (chars_squeeze true cs).2.1
  start := (chars_squeeze true cs).2.2 rfl

theorem Tidy.of_append (htidy : Tidy (cs ++ rest)) : Tidy cs where
  plain c hc := htidy.plain c (List.mem_append_left rest hc)
  single := (List.isChain_append.1 htidy.single).1
  start := by
    have hstart := htidy.start
    cases cs with
    | nil => simp
    | cons c cs => simpa using hstart

/-- What is tidy is written as it is. -/
theorem squeeze_tidy {dashed : Bool} (hplain : ∀ c ∈ cs, c = '-' ∨ isPlain c = true ∧ c.toLower = c)
    (hsingle : cs.IsChain fun a b => a = '-' → b ≠ '-')
    (hstart : dashed = true → cs.head? ≠ some '-') : squeeze dashed cs = cs := by
  induction cs generalizing dashed with
  | nil => rfl
  | cons c rest ih =>
      obtain ⟨hnext, hsingle'⟩ := List.isChain_cons.1 hsingle
      have hplain' := fun d hd => hplain d (List.mem_cons_of_mem c hd)
      rcases hplain c List.mem_cons_self with rfl | ⟨hc, hlower⟩
      · have hfresh : dashed = false := by
          cases dashed with
          | false => rfl
          | true => exact absurd rfl (hstart rfl)
        have hrest : squeeze true rest = rest :=
          ih hplain' hsingle' fun _ hhead => hnext '-' hhead rfl rfl
        have hdash : isPlain '-' = false := by decide
        simp [squeeze, hfresh, hdash, hrest]
      · have hrest : squeeze false rest = rest := ih hplain' hsingle' fun h => by cases h
        simp [squeeze, hlower, hc, hrest]

/-- What is written for the rest of a text depends on the beginning only by whether a dash has just
been written. -/
theorem exists_squeeze_append (dashed : Bool) (cs : List Char) :
    ∃ dashed', ∀ more, squeeze dashed (cs ++ more) = squeeze dashed cs ++ squeeze dashed' more := by
  induction cs generalizing dashed with
  | nil => exact ⟨dashed, fun more => rfl⟩
  | cons c rest ih =>
      cases hc : isPlain c.toLower with
      | true =>
          obtain ⟨dashed', hmore⟩ := ih false
          exact ⟨dashed', fun more => by simp [squeeze, hc, hmore]⟩
      | false =>
          obtain ⟨dashed', hmore⟩ := ih true
          exact ⟨dashed', fun more => by cases dashed <;> simp [squeeze, hc, hmore]⟩

theorem length_squeeze_le (dashed : Bool) (cs : List Char) :
    (squeeze dashed cs).length ≤ cs.length := by
  induction cs generalizing dashed with
  | nil => exact Nat.le_refl _
  | cons c rest ih =>
      have hfalse := ih false
      have htrue := ih true
      cases hc : isPlain c.toLower <;> cases dashed <;> simp [squeeze, hc] <;> omega

end

/-! ## The end of a label -/

section

variable {cs : List Char}

theorem dropTrailingDashes_eq (cs : List Char) :
    dropTrailingDashes cs = cs.rdropWhile (· = '-') :=
  rfl

/-- Where no two dashes stand together there is at most one to drop. -/
theorem dropTrailingDashes_of_single (hsingle : cs.IsChain fun a b => a = '-' → b ≠ '-') :
    dropTrailingDashes cs = if cs.getLast? = some '-' then cs.dropLast else cs := by
  rw [dropTrailingDashes_eq]
  rcases List.eq_nil_or_concat cs with rfl | ⟨front, c, rfl⟩
  · rfl
  · rw [List.concat_eq_append] at hsingle ⊢
    rw [List.rdropWhile_concat, List.getLast?_concat, List.dropLast_concat]
    by_cases hc : c = '-'
    · subst hc
      have hfront : front.rdropWhile (· = '-') = front := by
        rw [List.rdropWhile_eq_self_iff]
        intro hne hlast
        have hboth := (List.isChain_append.1 hsingle).2.2 (front.getLast hne)
          (List.getLast?_eq_some_getLast hne) '-' rfl
        exact hboth (of_decide_eq_true hlast) rfl
      simp [hfront]
    · simp [hc]

theorem dropTrailingDashes_take_trails {joined out : List Char} (n : Nat)
    (htrails : Trails joined out) :
    dropTrailingDashes (out.take n) = dropTrailingDashes (joined.take n) := by
  rcases htrails with rfl | ⟨-, rfl⟩
  · rfl
  · rw [List.take_append]
    rcases Nat.lt_or_ge joined.length n with hlt | hge
    · have hdash : ['-'].take (n - joined.length) = ['-'] := List.take_of_length_le (by simp; omega)
      rw [hdash, List.take_of_length_le (Nat.le_of_lt hlt)]
      exact List.rdropWhile_concat_pos _ _ _ rfl
    · rw [Nat.sub_eq_zero_of_le hge, List.take_zero, List.append_nil]

theorem Trails.exists_append {joined out : List Char} (htrails : Trails joined out) :
    ∃ tail, out = joined ++ tail := by
  rcases htrails with rfl | ⟨-, rfl⟩
  · exact ⟨[], (List.append_nil _).symm⟩
  · exact ⟨['-'], rfl⟩

end

/-- The name of a user's pod is the label of the configured start and the user's id. -/
theorem ofUser_eq_label (lead userId : String) : ofUser lead userId = label (lead ++ userId) := by
  have htrails := (trails_squeeze (lead ++ userId).toList).1
  obtain ⟨tail, htail⟩ := htrails.exists_append
  have htidy : Tidy (join (pieces (lead ++ userId).toList)) :=
    Tidy.of_append (htail ▸ tidy_squeeze (lead ++ userId).toList)
  rw [ofUser, label, ← String.toList_append, dropTrailingDashes_take_trails maxLength htrails,
    dropTrailingDashes_of_single (htidy.single.take maxLength)]

/-! ## Ids that are labels -/

section

variable {lead a b : String}

theorem tidy_of_label (h : label a = a) :
    Tidy a.toList ∧ dropTrailingDashes a.toList = a.toList := by
  have hname : ofUser "" a = a := by
    rw [ofUser_eq_label, String.empty_append, h]
  generalize hkept : (squeeze true a.toList).take maxLength = kept
  have hchars : a.toList = kept.rdropWhile (· = '-') := by
    rw [← hkept, ← dropTrailingDashes_eq]
    conv_lhs => rw [← hname]
    simp [ofUser]
  refine ⟨?_, ?_⟩
  · have hwritten : squeeze true a.toList =
        a.toList ++ (kept.rtakeWhile (· = '-') ++ (squeeze true a.toList).drop maxLength) := by
      rw [← List.append_assoc, hchars, List.rdropWhile_append_rtakeWhile, ← hchars, ← hkept,
        List.take_append_drop]
    have htidy := tidy_squeeze a.toList
    rw [hwritten] at htidy
    exact htidy.of_append
  · rw [dropTrailingDashes_eq, hchars]
    exact List.rdropWhile_idempotent _ _

/-- An id that is a label stands at the end of its pod's name as it is, if the name is not cut. -/
theorem exists_ofUser_eq (lead : String) :
    ∃ front : List Char, ∀ a, label a = a → a ≠ "" → lead.length + a.length ≤ maxLength →
      (ofUser lead a).toList = front ++ a.toList := by
  obtain ⟨dashed, hmore⟩ := exists_squeeze_append true lead.toList
  refine ⟨squeeze true lead.toList, fun a ha hne hfits => ?_⟩
  obtain ⟨htidy, hend⟩ := tidy_of_label ha
  have hwritten : squeeze true (lead.toList ++ a.toList) = squeeze true lead.toList ++ a.toList := by
    rw [hmore, squeeze_tidy htidy.plain htidy.single fun _ => htidy.start]
  have hkept : (squeeze true lead.toList ++ a.toList).length ≤ maxLength := by
    have hlength := length_squeeze_le true lead.toList
    simp only [List.length_append, String.length_toList] at hlength ⊢
    omega
  have hlast : dropTrailingDashes (squeeze true lead.toList ++ a.toList) =
      squeeze true lead.toList ++ a.toList := by
    rw [dropTrailingDashes_eq, List.rdropWhile_eq_self_iff] at hend ⊢
    intro hboth
    have hnonempty : a.toList ≠ [] := by simpa using hne
    rw [List.getLast_append_of_ne_nil hboth hnonempty]
    exact hend hnonempty
  rw [ofUser, hwritten, String.toList_ofList, List.take_of_length_le hkept, hlast]

theorem ofUser_injective (ha : label a = a) (hb : label b = b) (hane : a ≠ "") (hbne : b ≠ "")
    (hafits : lead.length + a.length ≤ maxLength) (hbfits : lead.length + b.length ≤ maxLength)
    (h : ofUser lead a = ofUser lead b) : a = b := by
  obtain ⟨front, hfront⟩ := exists_ofUser_eq lead
  have hchars : front ++ a.toList = front ++ b.toList := by
    rw [← hfront a ha hane hafits, ← hfront b hb hbne hbfits, h]
  exact String.toList_inj.1 (List.append_cancel_left hchars)

end

end SessionGateway.PodName
