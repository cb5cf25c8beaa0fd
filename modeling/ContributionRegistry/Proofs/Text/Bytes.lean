import ContributionRegistry.Text.Utf8

/-!
# Texts out of their bytes

The bytes of a text are read as that text, strictly and with replacements alike (`decode_encode`):
decoding goes character by character, and the bytes of a character are read as that character
whatever follows them (`decode_encodeChar`). There is one lemma for each number of bytes that a
character can have, all in natural numbers, where they are arithmetic.

It follows that a text is known by its bytes (`encode_injective`). For ASCII, where a character is
its byte, there are short forms.
-/

namespace ContributionRegistry.Text.Utf8

/-! ### First and following bytes -/

/-- The byte of a number below 256 is that number. -/
theorem toNat_ofNat {n : Nat} (h : n < 256) : (UInt8.ofNat n).toNat = n :=
  UInt8.toNat_ofNat_of_lt' h

/-- Which bytes begin a character of two, three and four bytes. -/
theorem followers_eq {a : UInt8} {n : Nat} (h : n = 1 ∧ 0xC2 ≤ a.toNat ∧ a.toNat ≤ 0xDF ∨
    n = 2 ∧ 0xE0 ≤ a.toNat ∧ a.toNat ≤ 0xEF ∨ n = 3 ∧ 0xF0 ≤ a.toNat ∧ a.toNat ≤ 0xF4) :
    followers a = n := by
  simp only [followers, UInt8.le_iff_toNat_le, Bool.and_eq_true, decide_eq_true_eq]
  show (if 0xC2 ≤ a.toNat ∧ a.toNat ≤ 0xDF then 1 else if 0xE0 ≤ a.toNat ∧ a.toNat ≤ 0xEF then 2
    else if 0xF0 ≤ a.toNat ∧ a.toNat ≤ 0xF4 then 3 else 0) = n
  split
  · omega
  split
  · omega
  split <;> omega

theorem isContinuation_iff (b : UInt8) :
    isContinuation b = true ↔ 0x80 ≤ b.toNat ∧ b.toNat ≤ 0xBF := by
  simp only [isContinuation, Bool.and_eq_true, decide_eq_true_eq, UInt8.le_iff_toNat_le]
  exact Iff.rfl

/-- A continuation byte follows a first byte, but for four first bytes that leave out a part. -/
theorem mayFollow_eq_true {a b : UInt8} (h : 0x80 ≤ b.toNat ∧ b.toNat ≤ 0xBF)
    (he0 : a.toNat = 0xE0 → 0xA0 ≤ b.toNat) (hed : a.toNat = 0xED → b.toNat ≤ 0x9F)
    (hf0 : a.toNat = 0xF0 → 0x90 ≤ b.toNat) (hf4 : a.toNat = 0xF4 → b.toNat ≤ 0x8F) :
    mayFollow a b = true := by
  rw [mayFollow, (isContinuation_iff b).2 h, Bool.true_and]
  simp only [← UInt8.toNat_inj, UInt8.le_iff_toNat_le]
  show (if a.toNat = 0xE0 then decide (0xA0 ≤ b.toNat)
    else if a.toNat = 0xED then decide (b.toNat ≤ 0x9F)
    else if a.toNat = 0xF0 then decide (0x90 ≤ b.toNat)
    else if a.toNat = 0xF4 then decide (b.toNat ≤ 0x8F) else true) = true
  split
  · next h => exact decide_eq_true (he0 h)
  split
  · next h => exact decide_eq_true (hed h)
  split
  · next h => exact decide_eq_true (hf0 h)
  split
  · next h => exact decide_eq_true (hf4 h)
  · rfl

/-! ### One character

Each lemma takes the bytes as they come from the number of the character. -/

/-- A byte from 128 on is no character by itself. -/
theorem not_lt_of_le {a : UInt8} (h : 0x80 ≤ a.toNat) : ¬ a < 0x80 := fun hlt ↦
  Nat.not_lt.2 h (UInt8.lt_iff_toNat_lt.1 hlt)

theorem decode_one {a : UInt8} (h : a.toNat < 0x80) (rest : List UInt8) :
    decode (a :: rest) = some (Char.ofNat a.toNat) :: decode rest := by
  have ha : a < 0x80 := UInt8.lt_iff_toNat_lt.2 h
  match rest with
  | [] => simp [decode, ha]
  | [b] => simp [decode, ha]
  | [b, c] => simp [decode, ha]
  | b :: c :: d :: rest => rw [decode, if_pos ha]

theorem decode_two {a b : UInt8} {n : Nat} (h : 0x80 ≤ n) (h' : n < 0x800)
    (ha : a.toNat = n / 64 % 32 + 0xC0) (hb : b.toNat = n % 64 + 0x80) (rest : List UInt8) :
    decode (a :: b :: rest) = some (Char.ofNat n) :: decode rest := by
  have hn : a.toNat % 32 * 64 + b.toNat % 64 = n := by omega
  have hlead := not_lt_of_le (a := a) (by omega)
  have hf := followers_eq (n := 1) (a := a) (by omega)
  have hm := mayFollow_eq_true (a := a) (b := b) (by omega) (by omega) (by omega) (by omega)
    (by omega)
  match rest with
  | [] => simp [decode, hlead, hf, hm, payload, hn]
  | [c] => simp [decode, hlead, hf, hm, payload, hn]
  | c :: d :: rest => simp [decode, hlead, hf, hm, payload, hn]

/-- The numbers of surrogates have bytes, too, but those are not read as a character. -/
theorem decode_three {a b c : UInt8} {n : Nat} (h : 0x800 ≤ n) (h' : n < 0x10000)
    (hn : n < 0xD800 ∨ 0xDFFF < n) (ha : a.toNat = n / 4096 % 16 + 0xE0)
    (hb : b.toNat = n / 64 % 64 + 0x80) (hc : c.toNat = n % 64 + 0x80) (rest : List UInt8) :
    decode (a :: b :: c :: rest) = some (Char.ofNat n) :: decode rest := by
  have hn' : (a.toNat % 16 * 64 + b.toNat % 64) * 64 + c.toNat % 64 = n := by omega
  have hlead := not_lt_of_le (a := a) (by omega)
  have hf := followers_eq (n := 2) (a := a) (by omega)
  have hm := mayFollow_eq_true (a := a) (b := b) (by omega) (by omega) (by omega) (by omega)
    (by omega)
  have hm' := (isContinuation_iff c).2 (by omega)
  match rest with
  | [] => simp [decode, hlead, hf, hm, hm', payload, hn']
  | d :: rest => simp [decode, hlead, hf, hm, hm', payload, hn']

theorem decode_four {a b c d : UInt8} {n : Nat} (h : 0x10000 ≤ n) (h' : n < 0x110000)
    (ha : a.toNat = n / 262144 % 8 + 0xF0) (hb : b.toNat = n / 4096 % 64 + 0x80)
    (hc : c.toNat = n / 64 % 64 + 0x80) (hd : d.toNat = n % 64 + 0x80) (rest : List UInt8) :
    decode (a :: b :: c :: d :: rest) = some (Char.ofNat n) :: decode rest := by
  have hn : ((a.toNat % 8 * 64 + b.toNat % 64) * 64 + c.toNat % 64) * 64 + d.toNat % 64 = n := by
    omega
  have hlead := not_lt_of_le (a := a) (by omega)
  have hf := followers_eq (n := 3) (a := a) (by omega)
  have hm := mayFollow_eq_true (a := a) (b := b) (by omega) (by omega) (by omega) (by omega)
    (by omega)
  have hm' := (isContinuation_iff c).2 (by omega)
  have hm'' := (isContinuation_iff d).2 (by omega)
  simp [decode, hlead, hf, hm, hm', hm'', payload, hn]

/-- The bytes of a character by its number. -/
theorem encodeChar_eq (c : Char) :
    String.utf8EncodeChar c =
      if c.toNat ≤ 0x7F then [UInt8.ofNat c.toNat]
      else if c.toNat ≤ 0x7FF then
        [UInt8.ofNat (c.toNat / 64 % 32 + 0xC0), UInt8.ofNat (c.toNat % 64 + 0x80)]
      else if c.toNat ≤ 0xFFFF then
        [UInt8.ofNat (c.toNat / 4096 % 16 + 0xE0), UInt8.ofNat (c.toNat / 64 % 64 + 0x80),
          UInt8.ofNat (c.toNat % 64 + 0x80)]
      else
        [UInt8.ofNat (c.toNat / 262144 % 8 + 0xF0), UInt8.ofNat (c.toNat / 4096 % 64 + 0x80),
          UInt8.ofNat (c.toNat / 64 % 64 + 0x80), UInt8.ofNat (c.toNat % 64 + 0x80)] :=
  rfl

/-- **The bytes of a character are read as that character**, whatever follows them. -/
theorem decode_encodeChar (c : Char) (rest : List UInt8) :
    decode (String.utf8EncodeChar c ++ rest) = some c :: decode rest := by
  have hvalid : c.toNat < 0xD800 ∨ 0xDFFF < c.toNat ∧ c.toNat < 0x110000 := c.valid
  have hc : some (Char.ofNat c.toNat) :: decode rest = some c :: decode rest := by
    rw [Char.ofNat_toNat]
  rw [← hc, encodeChar_eq]
  split
  · have hbyte : (UInt8.ofNat c.toNat).toNat = c.toNat := toNat_ofNat (by omega)
    exact (decode_one (by omega) rest).trans (by rw [hbyte])
  split
  · exact decode_two (by omega) (by omega) (toNat_ofNat (by omega)) (toNat_ofNat (by omega)) rest
  split
  · exact decode_three (by omega) (by omega) (by omega) (toNat_ofNat (by omega))
      (toNat_ofNat (by omega)) (toNat_ofNat (by omega)) rest
  · exact decode_four (by omega) (by omega) (toNat_ofNat (by omega)) (toNat_ofNat (by omega))
      (toNat_ofNat (by omega)) (toNat_ofNat (by omega)) rest

/-! ### Texts -/

@[simp] theorem encode_nil : encode [] = [] := rfl

theorem encode_cons (c : Char) (text : List Char) :
    encode (c :: text) = String.utf8EncodeChar c ++ encode text := rfl

theorem encode_append (a b : List Char) : encode (a ++ b) = encode a ++ encode b :=
  List.flatMap_append

/-- **The bytes of a text are read as its characters.** -/
theorem decode_encode (text : List Char) : decode (encode text) = text.map some := by
  induction text with
  | nil => rfl
  | cons c text ih => rw [encode_cons, decode_encodeChar, ih, List.map_cons]

/-- Strict reading gives the text back. -/
theorem decode?_encode (text : List Char) : decode? (encode text) = some text := by
  rw [decode?, decode_encode]
  induction text with
  | nil => rfl
  | cons c text ih =>
    rw [List.map_cons, List.mapM_cons, ih]
    rfl

/-- Reading with replacements has nothing to replace. -/
theorem decodeLossy_encode (text : List Char) : decodeLossy (encode text) = text := by
  rw [decodeLossy, decode_encode, List.map_map]
  exact List.map_id text

/-- Texts with the same bytes are the same. -/
theorem encode_injective {a b : List Char} (h : encode a = encode b) : a = b := by
  have hdecoded : some a = some b := by rw [← decode?_encode a, h, decode?_encode]
  exact Option.some.inj hdecoded

/-! ### ASCII -/

/-- What is true of all characters in ASCII can be found out by looking at them. -/
theorem forall_ascii {P : Char → Prop} (h : ∀ n < 0x80, P (Char.ofNat n)) {c : Char}
    (hc : c.toNat < 0x80) : P c := by
  rw [← Char.ofNat_toNat c]
  exact h c.toNat hc

/-- The one byte of a character in ASCII. -/
def byte (c : Char) : UInt8 := UInt8.ofNat c.toNat

/-- A character of ASCII is its byte. -/
theorem encodeChar_of_lt {c : Char} (h : c.toNat < 0x80) : String.utf8EncodeChar c = [byte c] := by
  have hc : c.val.toNat ≤ 0x7F := Nat.le_of_lt_succ h
  exact if_pos hc

/-- A text in ASCII has a byte for each character. -/
theorem encode_of_forall_lt {text : List Char} (h : ∀ c ∈ text, c.toNat < 0x80) :
    encode text = text.map byte := by
  induction text with
  | nil => rfl
  | cons c text ih =>
    have hc := h c List.mem_cons_self
    have htext := ih fun d hd ↦ h d (List.mem_cons_of_mem c hd)
    rw [encode_cons, encodeChar_of_lt hc, htext]
    rfl

theorem byte_inj {c d : Char} (hc : c.toNat < 0x80) (hd : d.toNat < 0x80) :
    byte c = byte d ↔ c = d := by
  refine ⟨fun h ↦ ?_, fun h ↦ h ▸ rfl⟩
  have htoNat : c.toNat = d.toNat := by
    rw [← toNat_ofNat (n := c.toNat) (by omega), ← toNat_ofNat (n := d.toNat) (by omega)]
    exact congrArg UInt8.toNat h
  exact Char.toNat_inj.1 htoNat

end ContributionRegistry.Text.Utf8
