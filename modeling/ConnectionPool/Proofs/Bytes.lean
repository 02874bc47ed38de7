import ConnectionPool.Bytes

/-!
Contract: the bytes of a text are the bytes of that text.

Owns: `Bytes.text?_ofText`.

Does not own: bytes that are no text.
-/

namespace ConnectionPool.Bytes

/-- The loop that lists the bytes of an array puts those from a position on behind those it has. -/
theorem toList_loop (bytes : ByteArray) (position : Nat) (listed : List UInt8) :
    ByteArray.toList.loop bytes position listed =
      listed.reverse ++ bytes.data.toList.drop position := by
  induction left : bytes.size - position generalizing position listed with
  | zero =>
      have atEnd : ¬ position < bytes.size := by omega
      have nothing : bytes.data.toList.drop position = [] := by
        apply List.drop_eq_nil_of_le
        simpa using atEnd
      unfold ByteArray.toList.loop
      simp [atEnd, nothing]
  | succ left inductionHypothesis =>
      have inside : position < bytes.size := by omega
      have within : position < bytes.data.toList.length := by simpa using inside
      have here : bytes.get! position = bytes.data.toList[position] := by
        obtain ⟨data⟩ := bytes
        have isInside : position < data.size := inside
        change data[position]! = data.toList[position]
        simp [isInside]
      unfold ByteArray.toList.loop
      rw [if_pos inside, inductionHypothesis (position + 1) _ (by omega),
        List.drop_eq_getElem_cons within, here]
      simp

theorem toList_eq (bytes : ByteArray) : bytes.toList = bytes.data.toList := by
  unfold ByteArray.toList
  simpa using toList_loop bytes 0 []

theorem text?_ofText (text : String) : text? (ofText text) = some text := by
  have sameBytes : (⟨(ofText text).toArray⟩ : ByteArray) = text.toByteArray := by
    simp [ofText, toList_eq]
  have valid : text.toByteArray.IsValidUTF8 := text.isValidUTF8
  simp only [text?, sameBytes, String.fromUTF8?, valid, dif_pos]
  rfl

end ConnectionPool.Bytes
