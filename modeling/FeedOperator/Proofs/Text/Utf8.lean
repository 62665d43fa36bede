import FeedOperator.Text.Utf8

/-!
# UTF-8: what is written is read again

A text that was written as octets is read without a break, and every character comes back.

* `symbolsFrom_single`, `symbolsFrom_opens`, `symbolsFrom_further`, `symbolsFrom_last`: what one
  octet does to the reading.
* `symbolsFrom_utf8EncodeChar`: the octets of one character are read as that character, whatever
  follows them.

Results:
* `symbols_encode`: the reading of a written text is the text, with no broken stretch.
* `lossy_encode`: so nothing of it is replaced.
-/

namespace FeedOperator.Text.Utf8

variable {octet : UInt8} {p : Pending} {c : Char} {rest : List UInt8}

/-! ## One octet -/

theorem symbolsFrom_single (h : lead octet.toNat = .single c) :
    symbolsFrom none (octet :: rest) = some c :: symbolsFrom none rest := by
  simp only [symbolsFrom, h]

theorem symbolsFrom_opens (h : lead octet.toNat = .opens p) :
    symbolsFrom none (octet :: rest) = symbolsFrom (some p) rest := by
  simp only [symbolsFrom, h]

theorem symbolsFrom_further (fits : p.least ≤ octet.toNat ∧ octet.toNat ≤ p.most)
    (more : 1 < p.due) :
    symbolsFrom (some p) (octet :: rest) =
      symbolsFrom (some ⟨p.bits * 64 + (octet.toNat - 0x80), p.due - 1, 0x80, 0xBF⟩) rest := by
  simp only [symbolsFrom, if_pos fits, if_neg (Nat.not_le.2 more)]

theorem symbolsFrom_last (fits : p.least ≤ octet.toNat ∧ octet.toNat ≤ p.most)
    (last : p.due ≤ 1) :
    symbolsFrom (some p) (octet :: rest) =
      some (Char.ofNat (p.bits * 64 + (octet.toNat - 0x80))) :: symbolsFrom none rest := by
  simp only [symbolsFrom, if_pos fits, if_pos last]

/-! ## One character -/

/-- The values of characters leave out the surrogates. -/
theorem scalar_cases (c : Char) :
    c.toNat < 0xD800 ∨ (0xDFFF < c.toNat ∧ c.toNat < 0x110000) :=
  c.valid

theorem lead_of_three {n : Nat} (h : n < 16) :
    lead (n + 224) =
      .opens ⟨n, 2, if n = 0 then 0xA0 else 0x80, if n = 13 then 0x9F else 0xBF⟩ := by
  rw [lead, if_neg (by omega), if_neg (by omega), if_neg (by omega), if_pos (by omega)]
  simp

theorem lead_of_four {n : Nat} (h : n < 5) :
    lead (n + 240) =
      .opens ⟨n, 3, if n = 0 then 0x90 else 0x80, if n = 4 then 0x8F else 0xBF⟩ := by
  rw [lead, if_neg (by omega), if_neg (by omega), if_neg (by omega), if_neg (by omega),
    if_pos (by omega)]
  simp

theorem toNat_ofNat_lt {n : Nat} (h : n < 256) : (UInt8.ofNat n).toNat = n :=
  UInt8.toNat_ofNat_of_lt' h

theorem toNat_continuation (n : Nat) : (UInt8.ofNat (n % 64 + 128)).toNat = n % 64 + 128 :=
  toNat_ofNat_lt (by omega)

theorem read_one (h : c.toNat ≤ 127) :
    symbolsFrom none (UInt8.ofNat c.toNat :: rest) = some c :: symbolsFrom none rest := by
  apply symbolsFrom_single
  rw [toNat_ofNat_lt (by omega), lead, if_pos (by omega), Char.ofNat_toNat]

theorem read_two (low : 127 < c.toNat) (high : c.toNat ≤ 2047) :
    symbolsFrom none (UInt8.ofNat (c.toNat / 64 % 32 + 192) ::
      UInt8.ofNat (c.toNat % 64 + 128) :: rest) = some c :: symbolsFrom none rest := by
  have first : lead (UInt8.ofNat (c.toNat / 64 % 32 + 192)).toNat =
      .opens ⟨c.toNat / 64, 1, 0x80, 0xBF⟩ := by
    rw [toNat_ofNat_lt (by omega), lead, if_neg (by omega), if_neg (by omega), if_pos (by omega),
      show c.toNat / 64 % 32 + 192 - 0xC0 = c.toNat / 64 by omega]
  have second := toNat_continuation c.toNat
  rw [symbolsFrom_opens first, symbolsFrom_last (by simp only [second]; omega) (by simp), second,
    show c.toNat / 64 * 64 + (c.toNat % 64 + 128 - 0x80) = c.toNat by omega, Char.ofNat_toNat]

theorem read_three (low : 2047 < c.toNat) (high : c.toNat ≤ 65535) :
    symbolsFrom none (UInt8.ofNat (c.toNat / 4096 % 16 + 224) ::
      UInt8.ofNat (c.toNat / 64 % 64 + 128) :: UInt8.ofNat (c.toNat % 64 + 128) :: rest) =
      some c :: symbolsFrom none rest := by
  have scalar := scalar_cases c
  have first : (UInt8.ofNat (c.toNat / 4096 % 16 + 224)).toNat = c.toNat / 4096 + 224 := by
    rw [toNat_ofNat_lt (by omega)]; omega
  have second := toNat_continuation (c.toNat / 64)
  have third := toNat_continuation c.toNat
  have opens := lead_of_three (n := c.toNat / 4096) (by omega)
  rw [symbolsFrom_opens (by rw [first, opens]),
    symbolsFrom_further (by simp only [second]; split <;> split <;> omega) (by simp), second,
    symbolsFrom_last (by simp only [third]; omega) (by simp), third,
    show (c.toNat / 4096 * 64 + (c.toNat / 64 % 64 + 128 - 0x80)) * 64 +
      (c.toNat % 64 + 128 - 0x80) = c.toNat by omega, Char.ofNat_toNat]

theorem read_four (low : 65535 < c.toNat) :
    symbolsFrom none (UInt8.ofNat (c.toNat / 262144 % 8 + 240) ::
      UInt8.ofNat (c.toNat / 4096 % 64 + 128) :: UInt8.ofNat (c.toNat / 64 % 64 + 128) ::
      UInt8.ofNat (c.toNat % 64 + 128) :: rest) = some c :: symbolsFrom none rest := by
  have scalar := scalar_cases c
  have first : (UInt8.ofNat (c.toNat / 262144 % 8 + 240)).toNat = c.toNat / 262144 + 240 := by
    rw [toNat_ofNat_lt (by omega)]; omega
  have second := toNat_continuation (c.toNat / 4096)
  have third := toNat_continuation (c.toNat / 64)
  have fourth := toNat_continuation c.toNat
  have opens := lead_of_four (n := c.toNat / 262144) (by omega)
  rw [symbolsFrom_opens (by rw [first, opens]),
    symbolsFrom_further (by simp only [second]; split <;> split <;> omega) (by simp), second,
    symbolsFrom_further (by simp only [third]; omega) (by simp), third,
    symbolsFrom_last (by simp only [fourth]; omega) (by simp), fourth,
    show ((c.toNat / 262144 * 64 + (c.toNat / 4096 % 64 + 128 - 0x80)) * 64 +
      (c.toNat / 64 % 64 + 128 - 0x80)) * 64 + (c.toNat % 64 + 128 - 0x80) = c.toNat by omega,
    Char.ofNat_toNat]

/-- The octets of a character are read as that character, whatever follows them. -/
theorem symbolsFrom_utf8EncodeChar (c : Char) (rest : List UInt8) :
    symbolsFrom none (String.utf8EncodeChar c ++ rest) = some c :: symbolsFrom none rest := by
  simp only [String.utf8EncodeChar, Char.toNat_val]
  by_cases one : c.toNat ≤ 127
  · rw [if_pos one]
    exact read_one one
  by_cases two : c.toNat ≤ 2047
  · rw [if_neg one, if_pos two]
    exact read_two (by omega) two
  by_cases three : c.toNat ≤ 65535
  · rw [if_neg one, if_neg two, if_pos three]
    exact read_three (by omega) three
  · rw [if_neg one, if_neg two, if_neg three]
    exact read_four (by omega)

/-! ## Whole texts -/

/-- **A written text is read as itself**, with no broken stretch. -/
theorem symbols_encode (s : List Char) : symbols (encode s) = s.map some := by
  rw [symbols, encode]
  induction s with
  | nil => rfl
  | cons c s ih =>
    rw [List.flatMap_cons, symbolsFrom_utf8EncodeChar, ih, List.map_cons]

/-- Nothing of a written text is replaced. -/
theorem lossy_encode (s : List Char) : lossy (encode s) = s := by
  rw [lossy, symbols_encode, List.map_map]
  exact List.map_id' s

end FeedOperator.Text.Utf8
