import CampusView.Json.Token

/-!
# Bodies

A body is bytes. Bytes that are not UTF-8 are not refused as such: they fail whoever comes to them
between two tokens or takes the string that they stand in, and a string that is only passed over may
have them. `textOfBytes` gives the bytes as a text that fails in the same places.
-/

namespace CampusView.Http

open Json

/-- The most that a body may have, in bytes. -/
def bodyLimit : Nat := 2097152

/-- What stands for a byte that is no part of a character. No token starts with it, and a string
that has it has half of a surrogate pair: the character before it keeps it from making a pair with
what precedes. -/
def strayByte : List Char := ['\ufffd', '\\', 'u', 'd', 'c', '0', '0']

/-- The characters of the bytes from a place on; `fuel` bounds how many. The characters read so far
are given in reverse. -/
def charsFrom (bytes : ByteArray) (acc : List Char) : Nat → Nat → List Char
  | 0, _ => acc.reverse
  | fuel + 1, i =>
    if i < bytes.size then
      match bytes.utf8DecodeChar? i with
      | some c => charsFrom bytes (c :: acc) fuel (i + c.utf8Size)
      | none => charsFrom bytes (strayByte.reverse ++ acc) fuel (i + 1)
    else acc.reverse

/-- The bytes as a text. A character takes at least one byte. -/
def textOfBytes (bytes : ByteArray) : String := .ofList (charsFrom bytes [] bytes.size 0)

/-! ### Text -/

theorem utf8DecodeChar?_append (bytes : ByteArray) (c : Char) (cs : List Char) :
    (bytes ++ (c :: cs).utf8Encode).utf8DecodeChar? bytes.size = some c := by
  rw [ByteArray.utf8DecodeChar?_eq_utf8DecodeChar?_extract,
    ByteArray.extract_append_eq_right rfl ByteArray.size_append]
  exact List.utf8DecodeChar?_utf8Encode_cons

theorem charsFrom_append (cs : List Char) (bytes : ByteArray) (acc : List Char) {fuel : Nat}
    (hfuel : cs.utf8Encode.size ≤ fuel) :
    charsFrom (bytes ++ cs.utf8Encode) acc fuel bytes.size = acc.reverse ++ cs := by
  induction cs generalizing bytes acc fuel with
  | nil => cases fuel <;> simp [charsFrom]
  | cons c cs ih =>
    have hsize : (c :: cs).utf8Encode.size = c.utf8Size + cs.utf8Encode.size := by
      rw [List.utf8Encode_cons, List.utf8Encode_singleton, ByteArray.size_append,
        List.size_toByteArray, String.length_utf8EncodeChar]
    have hpos := c.utf8Size_pos
    obtain ⟨fuel, rfl⟩ : ∃ n, fuel = n + 1 := ⟨fuel - 1, by omega⟩
    have hlt : bytes.size < (bytes ++ (c :: cs).utf8Encode).size := by
      rw [ByteArray.size_append]
      omega
    -- The bytes of the other characters follow those of the first.
    have hrest : bytes ++ (c :: cs).utf8Encode = (bytes ++ [c].utf8Encode) ++ cs.utf8Encode := by
      rw [List.utf8Encode_cons, ByteArray.append_assoc]
    have hplace : bytes.size + c.utf8Size = (bytes ++ [c].utf8Encode).size := by
      rw [List.utf8Encode_singleton, ByteArray.size_append, List.size_toByteArray,
        String.length_utf8EncodeChar]
    simp only [charsFrom, if_pos hlt, utf8DecodeChar?_append]
    rw [hrest, hplace, ih _ _ (by omega), List.reverse_cons, List.append_assoc,
      List.singleton_append]

/-- The bytes of a text read as that text. -/
theorem textOfBytes_toUTF8 (s : String) : textOfBytes s.toUTF8 = s := by
  have hbytes : s.toList.utf8Encode = s.toUTF8 := by
    rw [← String.toByteArray_ofList, String.ofList_toList]
    rfl
  have h := @charsFrom_append s.toList .empty [] s.toUTF8.size
    (Nat.le_of_eq (congrArg ByteArray.size hbytes))
  rw [hbytes, ByteArray.empty_append, ByteArray.size_empty] at h
  rw [textOfBytes, h, List.reverse_nil, List.nil_append, String.ofList_toList]

/-! ### Stray bytes -/

theorem scanToken_strayByte (r : List Char) : scanToken (strayByte ++ r) = none := by
  rfl

theorem stringPieces_strayByte (acc : List Piece) (r : List Char) :
    stringPieces acc (strayByte ++ r) = stringPieces (.inr 0xDC00 :: .inl '\ufffd' :: acc) r := by
  have hquad : hexQuad? 'd' 'c' '0' '0' = some 0xDC00 := by decide
  have hprinted : ('\ufffd' < ' ') = False := by decide
  simp [strayByte, stringPieces, hquad, hprinted, isLowSurrogate]

/-- The pieces read so far stay at the front. -/
theorem reverse_isPrefix_of_stringPieces {acc : List Piece} {cs r : List Char} {ps : List Piece}
    (h : stringPieces acc cs = some (ps, r)) : acc.reverse <+: ps := by
  -- Where the reader goes on, it has put one more piece in front of the reversed list.
  have hdrop : ∀ {p : Piece} {acc : List Piece}, (p :: acc).reverse <+: ps → acc.reverse <+: ps :=
    fun {p acc} hp => (List.prefix_append acc.reverse [p]).trans (List.reverse_cons ▸ hp)
  fun_induction stringPieces acc cs with
  | case1 =>
    cases h
    exact List.prefix_rfl
  | case2 | case3 | case5 | case8 =>
    rename_i ih
    exact hdrop (ih h)
  | case4 | case6 | case7 | case9 => cases h

/-- The second half of a pair has no text after a character. -/
theorem joinPieces_lone (c : Char) (acc : List Char) (ps qs : List Piece) :
    joinPieces acc (ps ++ .inl c :: .inr 0xDC00 :: qs) = none := by
  have hlow : isHighSurrogate 0xDC00 = false := by decide
  fun_induction joinPieces acc ps with
  | case1 => rcases qs with - | ⟨_ | _, _⟩ <;> simp [joinPieces, hlow]
  | case2 _ _ _ ih => exact ih
  | case3 _ _ _ _ hpair ih => simpa only [List.cons_append, joinPieces, if_pos hpair] using ih
  | case4 _ _ _ _ hpair => simp only [List.cons_append, joinPieces, if_neg hpair]
  | case5 _ _ tail hlone =>
    rcases tail with - | ⟨_ | low, tail⟩
    · rfl
    · rfl
    · exact absurd rfl (hlone low tail)

/-- A string in which the reader comes to a stray byte has no text. -/
theorem joinPieces_of_strayByte {acc : List Piece} {cs r : List Char} {ps : List Piece}
    (h : stringPieces acc (strayByte ++ cs) = some (ps, r)) : joinPieces [] ps = none := by
  rw [stringPieces_strayByte] at h
  obtain ⟨qs, rfl⟩ := reverse_isPrefix_of_stringPieces h
  simp only [List.reverse_cons, List.append_assoc, List.singleton_append]
  exact joinPieces_lone _ _ _ _

end CampusView.Http
