/-!
# Names of hosts beyond ASCII

Labels with characters beyond ASCII, written in letters, digits and hyphens (RFC 3492): the ASCII
characters first, then where the others go and which they are, smallest first. Numbers are written
in digits of base 36 whose weights adapt to the numbers before.

`encode` writes a label and `decode?` reads one. Reading ends because every number takes a character
of what is written (`length_lt_of_readNumber?`). Writing a number ends because what is left to write
gets smaller, as the threshold of a digit is neither below 1 nor above 26 (`threshold_pos`,
`threshold_le`).
-/

namespace ContributionRegistry.Web.Punycode

/-- A digit of base 36. -/
def digitChar (n : Nat) : Char :=
  if n < 26 then Char.ofNat (n + 'a'.toNat) else Char.ofNat (n - 26 + '0'.toNat)

/-- The value from which on a digit is the last one of its number. -/
def threshold (place bias : Nat) : Nat :=
  if place ≤ bias then 1 else if bias + 26 ≤ place then 26 else place - bias

/-- A zero ends every number. -/
theorem threshold_pos (place bias : Nat) : 1 ≤ threshold place bias := by
  unfold threshold
  split
  · omega
  · split <;> omega

/-- Digits from 26 on end every number. -/
theorem threshold_le (place bias : Nat) : threshold place bias ≤ 26 := by
  unfold threshold
  split
  · omega
  · split <;> omega

/-- The bias that a number leads to: it is divided by 35 until it is at most 455, and every division
adds 36. -/
def settleBias (delta : Nat) : Nat :=
  if h : 455 < delta then 36 + settleBias (delta / 35) else 36 * delta / (delta + 38)
termination_by delta
decreasing_by omega

/-- The bias after a number; `count` characters are placed by then. -/
def adapt (delta count : Nat) (first : Bool) : Nat :=
  let delta := if first then delta / 700 else delta / 2
  settleBias (delta + delta / count)

/-! ### Writing -/

/-- A number in adaptive digits, from a place on. -/
def encodeNumber (bias place n : Nat) : List Char :=
  let t := threshold place bias
  if n < t then [digitChar n]
  else digitChar (t + (n - t) % (36 - t)) :: encodeNumber bias (place + 36) ((n - t) / (36 - t))
termination_by n
decreasing_by
  have h1 := threshold_pos place bias
  have h2 := threshold_le place bias
  exact Nat.lt_of_le_of_lt (Nat.div_le_self _ _) (by omega)

/-- The state of writing: the number to be written next, the bias and what is written. -/
structure Writing where
  /-- The number to be written next. -/
  delta : Nat
  /-- How far the thresholds are shifted. -/
  bias : Nat
  /-- How many characters have been written. -/
  placed : Nat
  /-- How many of them are ASCII. -/
  basic : Nat
  /-- What is written so far. -/
  written : List Char

/-- Goes past a character of the label while the occurrences of `n` are written. -/
def pass (n : Nat) (w : Writing) (c : Char) : Writing :=
  if c.toNat < n then { w with delta := w.delta + 1 }
  else if c.toNat = n then
    { w with
      delta := 0
      bias := adapt w.delta (w.placed + 1) (w.placed == w.basic)
      placed := w.placed + 1
      written := w.written ++ encodeNumber w.bias 36 w.delta }
  else w

/-- Writes the occurrences of each character, smallest first; `n` is the first one not written yet.
-/
def encodeAll (label : List Char) : Nat → List Nat → Writing → Writing
  | _, [], w => w
  | n, m :: rest, w =>
    let w := { w with delta := w.delta + (m - n) * (w.placed + 1) }
    let w := label.foldl (pass m) w
    encodeAll label (m + 1) rest { w with delta := w.delta + 1 }

/-- A label in letters, digits and hyphens. -/
def encode (label : List Char) : List Char :=
  let basic := label.filter fun c ↦ c.toNat < 128
  let others := ((label.map Char.toNat).filter (128 ≤ ·)).mergeSort.eraseDups
  let start := if basic.isEmpty then [] else basic ++ ['-']
  (encodeAll label 128 others ⟨0, 72, basic.length, basic.length, start⟩).written

/-- A label as it stands in a host name: labels in ASCII stand as they are. -/
def label (text : List Char) : List Char :=
  if text.all fun c ↦ c.toNat < 128 then text else ['x', 'n', '-', '-'] ++ encode text

/-! ### Reading -/

/-- The value of a digit of base 36. Capital letters are none. -/
def digit? (c : Char) : Option Nat :=
  if 'a' ≤ c ∧ c ≤ 'z' then some (c.toNat - 'a'.toNat)
  else if c.isDigit then some (c.toNat - '0'.toNat + 26)
  else none

/-- Numbers and weights of digits are below this. -/
def limit : Nat := 4294967296

/-- Reads a number onto `sofar`, from a place on whose digit has the weight `weight`. Gives what
follows the number, too. -/
def readNumber? (bias place weight sofar : Nat) : List Char → Option (Nat × List Char)
  | [] => none
  | c :: rest =>
    match digit? c with
    | none => none
    | some digit =>
      let n := sofar + digit * weight
      let t := threshold place bias
      if limit ≤ n then none
      else if digit < t then some (n, rest)
      else if limit ≤ weight * (36 - t) then none
      else readNumber? bias (place + 36) (weight * (36 - t)) n rest

/-- A number takes at least one character. -/
theorem length_lt_of_readNumber? {bias place weight sofar n : Nat} {text rest : List Char}
    (h : readNumber? bias place weight sofar text = some (n, rest)) :
    rest.length < text.length := by
  fun_induction readNumber? bias place weight sofar text with
  | case1 => simp at h
  | case2 => simp at h
  | case3 => simp at h
  | case4 =>
    simp only [Option.some.injEq, Prod.mk.injEq] at h
    simp [h.2]
  | case5 => simp at h
  | case6 _ _ _ _ _ _ _ _ _ _ _ _ ih => exact Nat.lt_succ_of_lt (ih h)

/-- The state of reading: where the last character went to, counted from one, which number it has,
the bias, and the label as far as it is known. -/
structure Reading where
  /-- Where the last character went to, counted from one; zero before the first one. -/
  position : Nat
  /-- The number of the last character. -/
  code : Nat
  /-- How far the thresholds are shifted. -/
  bias : Nat
  /-- The label as far as it is known. -/
  label : List Char

/-- Puts the next character into the label; `n` says how far it is from the last one, going through
all positions for a character before the next character comes up. -/
def Reading.place? (r : Reading) (n : Nat) : Option Reading :=
  let count := r.label.length + 1
  let code := r.code + n / count
  if code.isValidChar then
    some {
      position := n % count + 1
      code
      bias := adapt (n - r.position) count (r.position == 0)
      label := r.label.insertIdx (n % count) (Char.ofNat code) }
  else none

/-- Reads all numbers of a text. -/
def decodeAll? (r : Reading) (text : List Char) : Option (List Char) :=
  if text.isEmpty then some r.label
  else
    match h : readNumber? r.bias 36 1 r.position text with
    | none => none
    | some (n, rest) =>
      match r.place? n with
      | none => none
      | some next =>
        have := length_lt_of_readNumber? h
        decodeAll? next rest
termination_by text.length

/-- Reads a label. The ASCII characters end at the last hyphen; where there are none, there is no
hyphen. -/
def decode? (text : List Char) : Option (List Char) :=
  match text.reverse.dropWhile (· ≠ '-') with
  | [] => decodeAll? ⟨0, 128, 72, []⟩ text
  | _ :: basic =>
    if basic.isEmpty then none
    else decodeAll? ⟨0, 128, 72, basic.reverse⟩ (text.drop (basic.length + 1))

end ContributionRegistry.Web.Punycode
