import GraphClient.Json.Parser

/-!
# Reading the strings that were written

The bytes of a text are well-formed UTF-8, so that reading them finds its characters and no stray
byte. In a string, quotes, backslashes and control characters are escaped, each in one way, and
everything else stands for itself. The reader resolves more escapes than are ever written; only those
that are written matter here.
-/

namespace GraphClient.Text.Source

/-- The encoded characters behind any bytes are read one by one. -/
theorem ofBytesFrom_utf8Encode (before : ByteArray) (cs : List Char) :
    ofBytesFrom (before ++ cs.utf8Encode) before.size = ofChars cs := by
  induction cs generalizing before with
  | nil =>
    rw [ofBytesFrom, dif_neg (by simp [List.utf8Encode_nil])]
    rfl
  | cons c cs ih =>
    have hsize : [c].utf8Encode.size = c.utf8Size := by simp [List.utf8Encode_singleton]
    have hinside : before.size < (before ++ (c :: cs).utf8Encode).size := by
      have hpos := c.utf8Size_pos
      rw [List.utf8Encode_cons, ByteArray.size_append, ByteArray.size_append, hsize]
      omega
    have hdecode : (before ++ (c :: cs).utf8Encode).utf8DecodeChar? before.size = some c := by
      rw [ByteArray.utf8DecodeChar?_eq_utf8DecodeChar?_extract,
        ByteArray.extract_append_eq_right rfl ByteArray.size_append,
        List.utf8DecodeChar?_utf8Encode_cons]
    have hrest := ih (before ++ [c].utf8Encode)
    rw [ByteArray.size_append, hsize, ByteArray.append_assoc, ← List.utf8Encode_cons] at hrest
    rw [ofBytesFrom, dif_pos hinside, hdecode, ofChars_cons]
    simp only [hrest]

/-- The bytes of a text are read as the text. -/
theorem ofBytes_toUTF8 (s : String) : ofBytes s.toUTF8 = ofString s := by
  have hread := ofBytesFrom_utf8Encode ByteArray.empty s.toList
  rwa [ByteArray.empty_append, String.utf8Encode_toList] at hread

end GraphClient.Text.Source


namespace GraphClient.Scan

open Text (Source Glyph)

theorem hexValue?_hexDigit : ∀ n < 16, hexValue? (Json.hexDigit n) = some n := by decide

/-- The digits of a control character spell its number. -/
theorem hex4_control {n : Nat} (hn : n < 32) (rest : Source) :
    hex4 (.char '0' :: .char '0' :: .char (Json.hexDigit (n / 16)) ::
      .char (Json.hexDigit (n % 16)) :: rest) = .ok (n, rest) := by
  have hzero : hexValue? '0' = some 0 := by decide
  have hhigh := hexValue?_hexDigit (n / 16) (by omega)
  have hlow := hexValue?_hexDigit (n % 16) (by omega)
  have hsum : ((0 * 16 + 0) * 16 + n / 16) * 16 + n % 16 = n := by omega
  simp only [hex4, hzero, hhigh, hlow, hsum]

/-- A control character is read from its number. -/
theorem escaped_control {c : Char} (hc : c.toNat < 32) (rest : Source) :
    escaped (.char 'u' :: .char '0' :: .char '0' :: .char (Json.hexDigit (c.toNat / 16)) ::
      .char (Json.hexDigit (c.toNat % 16)) :: rest) = .ok (c, rest) := by
  have htrailing : isTrailing c.toNat = false := by
    simp only [isTrailing, Bool.and_eq_false_iff, decide_eq_false_iff_not]
    omega
  have hleading : isLeading c.toNat = false := by
    simp only [isLeading, Bool.and_eq_false_iff, decide_eq_false_iff_not]
    omega
  simp only [escaped, unicodeEscape, hex4_control hc, bind, Except.bind, htrailing, hleading,
    Bool.false_eq_true, if_false, Char.ofNat_toNat]
  rfl

/-- One character of a string is read from what was written for it. -/
theorem content_escape (fuel : Nat) (c : Char) (more : List Char) :
    content (fuel + 1) (.ofChars (Json.escape c ++ more)) = do
      let (gs, rest) ← content fuel (.ofChars more)
      return (.char c :: gs, rest) := by
  unfold Json.escape
  -- first the escapes of two characters, each by its letter
  split
  · subst c
    rfl
  split
  · subst c
    rfl
  split
  · subst c
    rfl
  split
  · subst c
    rfl
  split
  · subst c
    rfl
  split
  · subst c
    rfl
  split
  · subst c
    rfl
  split
  · rename_i hc
    simp only [List.cons_append, List.nil_append, Source.ofChars_cons, content,
      escaped_control hc, bind, Except.bind]
  · rename_i hquote hback _ _ _ _ _ hc
    simp only [List.cons_append, List.nil_append, Source.ofChars_cons]
    rw [content]
    · simp only [hc, if_false]
    · simpa using hquote
    · simpa using hback

/-- Every character takes up room in what is written for it. -/
theorem length_le_size_escape (cs rest : List Char) :
    cs.length < Source.size (.ofChars (cs.flatMap Json.escape ++ '"' :: rest)) := by
  induction cs with
  | nil =>
    have := Glyph.size_pos (.char '"')
    simp only [List.flatMap_nil, List.nil_append, Source.ofChars_cons, Source.size_cons,
      List.length_nil]
    omega
  | cons c cs ih =>
    have hpos : 0 < Source.size (.ofChars (Json.escape c)) := by
      rw [Nat.pos_iff_ne_zero, ne_eq, Source.size_eq_zero]
      unfold Json.escape
      repeat' split
      all_goals simp
    simp only [List.flatMap_cons, List.append_assoc, Source.ofChars_append, Source.size_append,
      List.length_cons] at ih ⊢
    omega

/-- The characters of a string are read up to its closing quote. -/
theorem content_flatMap_escape (cs rest : List Char) (fuel : Nat) (hfuel : cs.length < fuel) :
    content fuel (.ofChars (cs.flatMap Json.escape ++ '"' :: rest)) =
      .ok (.ofChars cs, .ofChars rest) := by
  induction cs generalizing fuel with
  | nil =>
    obtain ⟨fuel, rfl⟩ := Nat.exists_eq_add_one_of_ne_zero (Nat.ne_of_gt hfuel)
    rfl
  | cons c cs ih =>
    rw [List.length_cons] at hfuel
    obtain ⟨fuel, rfl⟩ := Nat.exists_eq_add_one_of_ne_zero (show fuel ≠ 0 by omega)
    have hrest := ih fuel (by omega)
    rw [List.flatMap_cons, List.append_assoc, content_escape, hrest]
    rfl

/-- Reading a string that was written gives the string. -/
theorem string_escape (s : String) (rest : List Char) :
    string (.ofChars (s.toList.flatMap Json.escape ++ '"' :: rest)) = .ok (s, .ofChars rest) := by
  have hfuel := Nat.lt_succ_of_lt (length_le_size_escape s.toList rest)
  have hread := content_flatMap_escape s.toList rest _ hfuel
  simp only [string, hread, bind, Except.bind, Source.toChars?_ofChars, String.ofList_toList]
  rfl

end GraphClient.Scan
