import VoiceBridge.Codec.Base64

/-!
# Base64 is read back

`encode` and `decode` are inverse to each other: every byte list is read back from its text, and no other
text is read as it (`decode_eq_some_iff`). Both directions go group by group. Within a group, the values of
the letters are the digits to the base 64 of a number whose digits to the base 256 are the bytes; what
padding leaves over of it is zero.
-/

namespace VoiceBridge.Base64

variable {c : Char} {n : Nat} {s : List Char} {bytes : Bytes}

/-! ### The alphabet -/

theorem value?_letter : ∀ n < 64, value? (letter n) = some n := by decide

theorem letter_ne_padding : ∀ n < 64, letter n ≠ '=' := by decide

theorem ofNat_eq_of_toNat_eq (h : c.toNat = n) : Char.ofNat n = c := by
  rw [← h, Char.ofNat_toNat]

/-- A character with a value is the letter for it. -/
theorem letter_of_value? (h : value? c = some n) : n < 64 ∧ letter n = c := by
  have hle (a b : Char) : a ≤ b ↔ a.toNat ≤ b.toNat := Iff.rfl
  simp only [value?, hle, Char.reduceToNat] at h
  split at h
  next hupper =>
    obtain rfl := Option.some.inj h
    refine ⟨by omega, ?_⟩
    rw [letter, if_pos (by omega)]
    exact ofNat_eq_of_toNat_eq (by simp only [Char.reduceToNat]; omega)
  split at h
  next hlower =>
    obtain rfl := Option.some.inj h
    refine ⟨by omega, ?_⟩
    rw [letter, if_neg (by omega), if_pos (by omega)]
    exact ofNat_eq_of_toNat_eq (by simp only [Char.reduceToNat]; omega)
  split at h
  next hdigit =>
    obtain rfl := Option.some.inj h
    refine ⟨by omega, ?_⟩
    rw [letter, if_neg (by omega), if_neg (by omega), if_pos (by omega)]
    exact ofNat_eq_of_toNat_eq (by simp only [Char.reduceToNat]; omega)
  split at h
  next hplus =>
    obtain rfl := Option.some.inj h
    rw [hplus]
    decide
  split at h
  next hslash =>
    obtain rfl := Option.some.inj h
    rw [hslash]
    decide
  next => cases h

/-- A text has nothing in it but letters and padding. -/
theorem mem_encodeChars (bytes : Bytes) : ∀ c ∈ encodeChars bytes, c = '=' ∨ ∃ n < 64, c = letter n := by
  fun_induction encodeChars bytes with
  | case1 => exact fun _ h => nomatch h
  | case2 a n =>
    have ha : a.toNat < 256 := a.toNat_lt
    simp only [List.forall_mem_cons]
    exact ⟨.inr ⟨_, by omega, rfl⟩, .inr ⟨_, by omega, rfl⟩, .inl trivial, .inl trivial, nofun⟩
  | case3 a b n =>
    have ha : a.toNat < 256 := a.toNat_lt
    have hb : b.toNat < 256 := b.toNat_lt
    simp only [List.forall_mem_cons]
    exact ⟨.inr ⟨_, by omega, rfl⟩, .inr ⟨_, by omega, rfl⟩, .inr ⟨_, by omega, rfl⟩, .inl trivial, nofun⟩
  | case4 a b c rest n ih =>
    have ha : a.toNat < 256 := a.toNat_lt
    have hb : b.toNat < 256 := b.toNat_lt
    have hc : c.toNat < 256 := c.toNat_lt
    simp only [List.forall_mem_cons]
    exact ⟨.inr ⟨_, by omega, rfl⟩, .inr ⟨_, by omega, rfl⟩, .inr ⟨_, by omega, rfl⟩,
      .inr ⟨_, by omega, rfl⟩, ih⟩

/-! ### Reading back what was written -/

theorem decodeChars_encodeChars (bytes : Bytes) : decodeChars (encodeChars bytes) = some bytes := by
  fun_induction encodeChars bytes with
  | case1 => rfl
  | case2 a n =>
    have ha : a.toNat < 256 := a.toNat_lt
    have hn : n / 64 * 64 + n % 64 = n := by omega
    have hspare : n % 16 = 0 := by omega
    have hfirst : n / 16 = a.toNat := by omega
    simp only [decodeChars, value?_letter (n / 64) (by omega), value?_letter (n % 64) (by omega),
      Option.bind_eq_bind, Option.bind_some, hn, hspare, if_true, hfirst, UInt8.ofNat_toNat]
  | case3 a b n =>
    have ha : a.toNat < 256 := a.toNat_lt
    have hb : b.toNat < 256 := b.toNat_lt
    have hn : (n / 4096 * 64 + n / 64 % 64) * 64 + n % 64 = n := by omega
    have hspare : n % 4 = 0 := by omega
    have hfirst : n / 1024 = a.toNat := by omega
    have hsecond : n / 4 % 256 = b.toNat := by omega
    rw [decodeChars]
    · simp only [value?_letter (n / 4096) (by omega), value?_letter (n / 64 % 64) (by omega),
        value?_letter (n % 64) (by omega), Option.bind_eq_bind, Option.bind_some, hn, hspare, if_true,
        hfirst, hsecond, UInt8.ofNat_toNat]
    -- The third character is not mistaken for padding.
    · exact letter_ne_padding _ (by omega)
  | case4 a b c rest n ih =>
    have ha : a.toNat < 256 := a.toNat_lt
    have hb : b.toNat < 256 := b.toNat_lt
    have hc : c.toNat < 256 := c.toNat_lt
    have hn : ((n / 262144 * 64 + n / 4096 % 64) * 64 + n / 64 % 64) * 64 + n % 64 = n := by omega
    have hfirst : n / 65536 = a.toNat := by omega
    have hsecond : n / 256 % 256 = b.toNat := by omega
    have hthird : n % 256 = c.toNat := by omega
    rw [decodeChars]
    · simp only [value?_letter (n / 262144) (by omega), value?_letter (n / 4096 % 64) (by omega),
        value?_letter (n / 64 % 64) (by omega), value?_letter (n % 64) (by omega), ih,
        Option.bind_eq_bind, Option.bind_some, hn, hfirst, hsecond, hthird, UInt8.ofNat_toNat]
    · exact fun _ h => absurd h (letter_ne_padding _ (by omega))
    · exact fun h => absurd h (letter_ne_padding _ (by omega))

/-! ### Writing again what was read -/

theorem eq_encodeChars_of_decodeChars {s : List Char} :
    ∀ bytes, decodeChars s = some bytes → s = encodeChars bytes := by
  fun_induction decodeChars s with
  | case1 =>
    rintro bytes ⟨rfl⟩
    rfl
  | case2 c1 c2 =>
    intro bytes h
    simp only [Option.bind_eq_bind, Option.bind_eq_some_iff, Option.ite_none_right_eq_some] at h
    obtain ⟨n1, h1, n2, h2, hspare, ⟨⟩⟩ := h
    obtain ⟨h1, rfl⟩ := letter_of_value? h1
    obtain ⟨h2, rfl⟩ := letter_of_value? h2
    generalize hn : n1 * 64 + n2 = n at hspare
    have hbytes : (UInt8.ofNat (n / 16)).toNat * 16 = n := by
      rw [UInt8.toNat_ofNat_of_lt' (show n / 16 < 256 by omega)]
      omega
    have hfirst : n / 64 = n1 := by omega
    have hsecond : n % 64 = n2 := by omega
    simp only [encodeChars, hbytes, hfirst, hsecond]
  | case3 c1 c2 c3 hc3 =>
    intro bytes h
    simp only [Option.bind_eq_bind, Option.bind_eq_some_iff, Option.ite_none_right_eq_some] at h
    obtain ⟨n1, h1, n2, h2, n3, h3, hspare, ⟨⟩⟩ := h
    obtain ⟨h1, rfl⟩ := letter_of_value? h1
    obtain ⟨h2, rfl⟩ := letter_of_value? h2
    obtain ⟨h3, rfl⟩ := letter_of_value? h3
    generalize hn : (n1 * 64 + n2) * 64 + n3 = n at hspare
    have hbytes : ((UInt8.ofNat (n / 1024)).toNat * 256 + (UInt8.ofNat (n / 4 % 256)).toNat) * 4 = n := by
      rw [UInt8.toNat_ofNat_of_lt' (show n / 1024 < 256 by omega),
        UInt8.toNat_ofNat_of_lt' (show n / 4 % 256 < 256 by omega)]
      omega
    have hfirst : n / 4096 = n1 := by omega
    have hsecond : n / 64 % 64 = n2 := by omega
    have hthird : n % 64 = n3 := by omega
    simp only [encodeChars, hbytes, hfirst, hsecond, hthird]
  | case4 c1 c2 c3 c4 rest hc3 hc4 ih =>
    intro bytes h
    simp only [Option.bind_eq_bind, Option.bind_eq_some_iff] at h
    obtain ⟨n1, h1, n2, h2, n3, h3, n4, h4, tail, htail, ⟨⟩⟩ := h
    obtain ⟨h1, rfl⟩ := letter_of_value? h1
    obtain ⟨h2, rfl⟩ := letter_of_value? h2
    obtain ⟨h3, rfl⟩ := letter_of_value? h3
    obtain ⟨h4, rfl⟩ := letter_of_value? h4
    generalize hn : ((n1 * 64 + n2) * 64 + n3) * 64 + n4 = n
    have hbytes : ((UInt8.ofNat (n / 65536)).toNat * 256 + (UInt8.ofNat (n / 256 % 256)).toNat) * 256 +
        (UInt8.ofNat (n % 256)).toNat = n := by
      rw [UInt8.toNat_ofNat_of_lt' (show n / 65536 < 256 by omega),
        UInt8.toNat_ofNat_of_lt' (show n / 256 % 256 < 256 by omega),
        UInt8.toNat_ofNat_of_lt' (show n % 256 < 256 by omega)]
      omega
    have hfirst : n / 262144 = n1 := by omega
    have hsecond : n / 4096 % 64 = n2 := by omega
    have hthird : n / 64 % 64 = n3 := by omega
    have hfourth : n % 64 = n4 := by omega
    rw [encodeChars, ih tail htail]
    simp only [hbytes, hfirst, hsecond, hthird, hfourth]
  | case5 => exact nofun

theorem decodeChars_eq_some_iff : decodeChars s = some bytes ↔ s = encodeChars bytes :=
  ⟨eq_encodeChars_of_decodeChars bytes, fun h => h ▸ decodeChars_encodeChars bytes⟩

/-- A text stands for the bytes that are written as it, and for no others. -/
theorem decode_eq_some_iff {s : String} : decode s = some bytes ↔ s = encode bytes := by
  rw [decode, decodeChars_eq_some_iff, encode, ← String.toList_inj, String.toList_ofList]

@[simp]
theorem decode_encode (bytes : Bytes) : decode (encode bytes) = some bytes :=
  decode_eq_some_iff.mpr rfl

end VoiceBridge.Base64
