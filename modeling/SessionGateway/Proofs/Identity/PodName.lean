import SessionGateway.Proofs.Identity.Label

/-!
# The form of a pod's name

A pod's name is the label of the configured start and the user's id, and a label is its own label. So
whatever the two texts hold, nothing but lower-case letters, digits and single dashes is left of them,
and nothing at all only if neither has a letter or digit.
-/

namespace SessionGateway.PodName

def HasPlain (text : String) : Prop :=
  ∃ c ∈ text.toList, isPlain c = true

theorem isPlain_toLower (c : Char) : isPlain c.toLower = isPlain c := by
  unfold isPlain Char.isAlphanum Char.isAlpha Char.isLower Char.isUpper Char.isDigit Char.toLower
  grind

theorem isLower_or_isDigit {c : Char} (hplain : isPlain c = true) (hlower : c.toLower = c) :
    c.isLower = true ∨ c.isDigit = true := by
  unfold Char.toLower at hlower
  unfold isPlain Char.isAlphanum Char.isAlpha Char.isUpper at hplain
  unfold Char.isLower Char.isDigit at *
  grind

section

variable {cs : List Char}

/-- Only a text without letters and digits leaves nothing to write. -/
theorem squeeze_eq_nil_iff : squeeze true cs = [] ↔ ∀ c ∈ cs, isPlain c = false := by
  induction cs with
  | nil => simp [squeeze]
  | cons c rest ih =>
      cases hc : isPlain c with
      | true => simp [squeeze, isPlain_toLower, hc]
      | false => simp [squeeze, isPlain_toLower, hc, ih]

/-- What a name keeps of what is written. -/
theorem exists_tail (cs : List Char) (n : Nat) :
    ∃ tail, cs = dropTrailingDashes (cs.take n) ++ tail := by
  refine ⟨(cs.take n).rtakeWhile (· = '-') ++ cs.drop n, ?_⟩
  rw [dropTrailingDashes_eq, ← List.append_assoc, List.rdropWhile_append_rtakeWhile,
    List.take_append_drop]

/-- Something is kept of a text that does not begin with a dash. -/
theorem dropTrailingDashes_take_eq_nil_iff (hstart : cs.head? ≠ some '-') :
    dropTrailingDashes (cs.take maxLength) = [] ↔ cs = [] := by
  cases cs with
  | nil => simp [dropTrailingDashes]
  | cons c rest =>
      have hc : c ≠ '-' := by simpa using hstart
      rw [dropTrailingDashes_eq, List.rdropWhile_eq_nil_iff]
      refine iff_of_false (fun hall => hc ?_) (List.cons_ne_nil c rest)
      exact of_decide_eq_true (hall c (by simp [maxLength]))

theorem getLast_dropTrailingDashes (cs : List Char) :
    (dropTrailingDashes cs).getLast? ≠ some '-' := by
  intro hlast
  rw [dropTrailingDashes_eq, List.getLast?_eq_some_iff] at hlast
  obtain ⟨front, hfront⟩ := hlast
  have hne : cs.rdropWhile (fun c => decide (c = '-')) ≠ [] := by simp [hfront]
  have hkept := List.rdropWhile_last_not _ _ hne
  simp [hfront] at hkept

end

section

variable {lead userId : String}

theorem toList_ofUser (lead userId : String) :
    (ofUser lead userId).toList =
      dropTrailingDashes ((squeeze true (lead ++ userId).toList).take maxLength) := by
  rw [ofUser, String.toList_ofList, String.toList_append]

/-- The name of a pod is empty only if neither the configured start nor the user's id has a letter
or digit. -/
theorem ofUser_eq_empty_iff : ofUser lead userId = "" ↔ ¬ HasPlain (lead ++ userId) := by
  rw [← String.toList_eq_nil_iff, toList_ofUser,
    dropTrailingDashes_take_eq_nil_iff (tidy_squeeze _).start, squeeze_eq_nil_iff]
  simp [HasPlain]

theorem tidy_ofUser (lead userId : String) : Tidy (ofUser lead userId).toList := by
  obtain ⟨tail, htail⟩ := exists_tail (squeeze true (lead ++ userId).toList) maxLength
  rw [toList_ofUser]
  exact Tidy.of_append (htail ▸ tidy_squeeze (lead ++ userId).toList)

theorem length_ofUser_le (lead userId : String) : (ofUser lead userId).length ≤ maxLength := by
  rw [← String.length_toList, toList_ofUser, dropTrailingDashes_eq]
  exact (List.rdropWhile_prefix (· = '-') _).length_le.trans (List.length_take_le _ _)

/-- What has the form of a name is the name of a pod without a configured start. -/
theorem ofUser_of_tidy {name : String} (htidy : Tidy name.toList) (hlength : name.length ≤ maxLength)
    (hlast : name.toList.getLast? ≠ some '-') : ofUser "" name = name := by
  have hkept : name.toList.take maxLength = name.toList :=
    List.take_of_length_le (by rwa [String.length_toList])
  rw [← String.toList_inj, toList_ofUser, String.empty_append,
    squeeze_tidy htidy.plain htidy.single fun _ => htidy.start, hkept,
    dropTrailingDashes_of_single htidy.single, if_neg hlast]

end

/-! ## Where a name is cut -/

section

variable {cs : List Char}

theorem utf8Size_squeeze {dashed : Bool} : ∀ c ∈ squeeze dashed cs, c.utf8Size = 1 := by
  intro c hc
  rcases (chars_squeeze dashed cs).1 c hc with rfl | ⟨hplain, -⟩
  · rfl
  · rw [Char.utf8Size_eq_one_iff]
    unfold isPlain Char.isAlphanum Char.isAlpha Char.isUpper Char.isLower Char.isDigit at hplain
    grind

theorem utf8ByteSize_ofList (h : ∀ c ∈ cs, c.utf8Size = 1) :
    (String.ofList cs).utf8ByteSize = cs.length := by
  induction cs with
  | nil => rfl
  | cons c rest ih =>
      have hc := h c List.mem_cons_self
      have hrest := ih fun d hd => h d (List.mem_cons_of_mem _ hd)
      rw [String.ofList_cons, String.utf8ByteSize_append, String.utf8ByteSize_singleton, hc, hrest,
        List.length_cons, Nat.add_comm]

/-- Where every character is one byte long, a text may be cut behind any number of bytes, which are
as many characters. -/
theorem cut_ofList (h : ∀ c ∈ cs, c.utf8Size = 1) {n : Nat}
    (hn : n ≤ (String.ofList cs).utf8ByteSize) :
    (String.Pos.Raw.mk n).IsValid (String.ofList cs) ∧
      (String.ofList cs).toByteArray.extract 0 n = (String.ofList (cs.take n)).toByteArray := by
  have hsize : (String.ofList (cs.take n)).utf8ByteSize = n := by
    rw [utf8ByteSize_ofList fun c hc => h c (List.mem_of_mem_take hc), List.length_take]
    rw [utf8ByteSize_ofList h] at hn
    omega
  have hparts : String.ofList cs = String.ofList (cs.take n) ++ String.ofList (cs.drop n) := by
    rw [← String.ofList_append, List.take_append_drop]
  rw [hparts]
  refine ⟨String.Pos.Raw.isValid_iff_exists_append.2 ⟨_, _, rfl, ?_⟩, ?_⟩
  · rw [String.Pos.Raw.ext_iff, String.byteIdx_rawEndPos, hsize]
  · rw [String.toByteArray_append]
    exact ByteArray.extract_append_eq_left (by rw [String.size_toByteArray, hsize])

end

/-- The name of a pod is the label of the configured start and the user's id, and it has the form of
a label: lower-case letters, digits and single dashes, no dash at either end, and not too many of
them. It is empty only if neither text has a letter or digit. What is written may be cut behind any
number of bytes, and a name is its own name. -/
theorem ofUser_normal (lead userId : String) :
    ofUser lead userId = label (lead ++ userId) ∧
    (∀ c ∈ (ofUser lead userId).toList, c.isLower = true ∨ c.isDigit = true ∨ c = '-') ∧
    ((ofUser lead userId).toList.IsChain fun a b => a = '-' → b ≠ '-') ∧
    (ofUser lead userId).toList.head? ≠ some '-' ∧ (ofUser lead userId).toList.getLast? ≠ some '-' ∧
    (ofUser lead userId).length ≤ 63 ∧
    (ofUser lead userId = "" ↔
      (∀ c ∈ lead.toList, c.isAlphanum = false) ∧ ∀ c ∈ userId.toList, c.isAlphanum = false) ∧
    (∀ n ≤ (String.ofList (squeeze true (lead ++ userId).toList)).utf8ByteSize,
      (String.Pos.Raw.mk n).IsValid (String.ofList (squeeze true (lead ++ userId).toList)) ∧
      (String.ofList (squeeze true (lead ++ userId).toList)).toByteArray.extract 0 n =
        (String.ofList ((squeeze true (lead ++ userId).toList).take n)).toByteArray) ∧
    ofUser "" (ofUser lead userId) = ofUser lead userId := by
  have htidy := tidy_ofUser lead userId
  have hlast : (ofUser lead userId).toList.getLast? ≠ some '-' := by
    rw [toList_ofUser]
    exact getLast_dropTrailingDashes _
  refine ⟨ofUser_eq_label lead userId, fun c hc => ?_, htidy.single, htidy.start, hlast,
    length_ofUser_le lead userId, ?_, fun n hn => cut_ofList utf8Size_squeeze hn,
    ofUser_of_tidy htidy (length_ofUser_le lead userId) hlast⟩
  · rcases htidy.plain c hc with rfl | ⟨hplain, hlower⟩
    · exact .inr (.inr rfl)
    · exact (isLower_or_isDigit hplain hlower).imp_right .inl
  · rw [ofUser_eq_empty_iff, HasPlain]
    simp [isPlain, or_imp, forall_and]

example : ofUser "Lab 7_" "-José-" = "lab-7-jos" := by decide +kernel

end SessionGateway.PodName
