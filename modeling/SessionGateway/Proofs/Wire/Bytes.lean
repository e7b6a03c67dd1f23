import SessionGateway.Wire.Basic

/-!
# Words and texts as bytes

Four bytes are the encoding of the word that they denote, and bytes are read as a text exactly if
they are the encoding of that text.
-/

namespace SessionGateway.Wire

theorem toNat_word (a b c d : UInt8) :
    (word a b c d).toNat = ((a.toNat * 256 + b.toNat) * 256 + c.toNat) * 256 + d.toNat := by
  have ha := a.toNat_lt
  have hb := b.toNat_lt
  have hc := c.toNat_lt
  have hd := d.toNat_lt
  unfold word
  rw [UInt32.toNat_ofNat']
  omega

theorem wordBytes_eq_iff {w : UInt32} {a b c d : UInt8} :
    wordBytes w = [a, b, c, d] ↔ word a b c d = w := by
  have ha := a.toNat_lt
  have hb := b.toNat_lt
  have hc := c.toNat_lt
  have hd := d.toNat_lt
  have hw := w.toNat_lt
  simp only [wordBytes, List.cons.injEq, and_true, ← UInt8.toNat_inj, ← UInt32.toNat_inj,
    toNat_word, UInt32.toNat_toUInt8, UInt32.toNat_shiftRight, Nat.shiftRight_eq_div_pow,
    UInt32.reduceToNat, Nat.reducePow, Nat.reduceMod]
  constructor <;> omega

theorem exists_wordBytes {p : Bytes} (h : 4 ≤ p.length) : ∃ w rest, p = wordBytes w ++ rest := by
  obtain _ | ⟨a, _ | ⟨b, _ | ⟨c, _ | ⟨d, rest⟩⟩⟩⟩ := p <;> simp at h
  exact ⟨word a b c d, rest, by rw [wordBytes_eq_iff.2 rfl]; rfl⟩

theorem toList_loop (b : ByteArray) (i : Nat) (read : List UInt8) :
    ByteArray.toList.loop b i read = read.reverse ++ b.data.toList.drop i := by
  induction i, read using ByteArray.toList.loop.induct b with
  | case1 i read hlt ih =>
      have hdrop : b.data.toList.drop i = b.get! i :: b.data.toList.drop (i + 1) := by
        rw [List.drop_eq_getElem_cons (by simpa using hlt)]
        simp [ByteArray.get!, hlt]
      rw [ByteArray.toList.loop, if_pos hlt, ih, hdrop, List.reverse_cons, List.append_assoc]
      rfl
  | case2 i read hge =>
      have hend : b.data.toList.drop i = [] := List.drop_of_length_le (by simpa using hge)
      rw [ByteArray.toList.loop, if_neg hge, hend, List.append_nil]

theorem toByteArray_textBytes (s : String) : (textBytes s).toByteArray = s.toByteArray := by
  apply ByteArray.ext
  apply Array.ext'
  rw [List.toList_data_toByteArray, textBytes, ByteArray.toList, toList_loop]
  rfl

theorem text?_eq_some_iff {bytes : Bytes} {s : String} :
    text? bytes = some s ↔ bytes = textBytes s := by
  unfold text? String.fromUTF8?
  constructor
  · intro h
    split at h
    · rename_i hvalid
      obtain rfl := Option.some.inj h
      have hsame : (textBytes (String.fromUTF8 bytes.toByteArray hvalid)).toByteArray =
          bytes.toByteArray := toByteArray_textBytes _
      have hlists := congrArg (fun b => b.data.toList) hsame
      simpa only [List.toList_data_toByteArray] using hlists.symm
    · cases h
  · rintro rfl
    rw [toByteArray_textBytes, dif_pos s.isValidUTF8]
    rfl

end SessionGateway.Wire
