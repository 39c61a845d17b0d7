import CommandShell.Builtin.Search
import CommandShell.Path
import Mathlib.Data.Nat.Notation
import Mathlib.Tactic.Lemma

/-!
# Texts as bytes

The bytes of a text are read back as the text (`Utf8.decode?_encode`).  A character is encoded in
one to four bytes.  The first of them decides the bounds of the others, and the value that is put
together again from the bits of all of them is that of the character; this is shown for each number
of bytes.

The byte of a line end is that of no other character, and it is no part of one.  So the bytes of
lines are cut where the lines are (`Grep.byteLines_encode`).
-/

namespace CommandShell

namespace Utf8

/-! ## One character -/

variable {v : ℕ}

/-- The bounds that a first byte sets, by its value. -/
lemma bounds?_eq (b : UInt8) :
    bounds? b =
      if b.toNat < 0x80 then some []
      else if b.toNat < 0xC2 then none
      else if b.toNat < 0xE0 then some [continuation]
      else if b.toNat = 0xE0 then some [(0xA0, 0xBF), continuation]
      else if b.toNat = 0xED then some [(0x80, 0x9F), continuation]
      else if b.toNat < 0xF0 then some [continuation, continuation]
      else if b.toNat = 0xF0 then some [(0x90, 0xBF), continuation, continuation]
      else if b.toNat < 0xF4 then some [continuation, continuation, continuation]
      else if b.toNat = 0xF4 then some [(0x80, 0x8F), continuation, continuation]
      else none := by
  simp only [bounds?, UInt8.lt_iff_toNat_lt, ← UInt8.toNat_inj]
  rfl

/-- The value of a byte that is made from a number. -/
lemma toNat_ofNat {n : ℕ} (h : n < 256) : (UInt8.ofNat n).toNat = n := by
  rw [UInt8.toNat_ofNat', Nat.mod_eq_of_lt h]

/-- The byte with the last six bits of a value. -/
def tail (v : ℕ) : UInt8 :=
  UInt8.ofNat (v % 64 + 128)

/-- A byte in its bounds adds its six bits. -/
lemma follow_tail {low high : UInt8} (hlow : low.toNat ≤ v % 64 + 128)
    (hhigh : v % 64 + 128 ≤ high.toNat) (bs : List (UInt8 × UInt8)) (value : ℕ)
    (bytes : List UInt8) :
    follow ((low, high) :: bs) value (tail v :: bytes) = follow bs (64 * value + v % 64) bytes := by
  have htail : (tail v).toNat = v % 64 + 128 := toNat_ofNat (by omega)
  have hbounds : low ≤ tail v ∧ tail v ≤ high := by
    rw [UInt8.le_iff_toNat_le, UInt8.le_iff_toNat_le, htail]
    exact ⟨hlow, hhigh⟩
  have hbits : (v % 64 + 128) % 64 = v % 64 := by omega
  rw [follow, if_pos hbounds, htail, hbits]

/-- Every byte that continues a character is in the bounds of one. -/
lemma follow_continuation (v : ℕ) (bs : List (UInt8 × UInt8)) (value : ℕ) (bytes : List UInt8) :
    follow (continuation :: bs) value (tail v :: bytes) =
      follow bs (64 * value + v % 64) bytes := by
  have hlow : UInt8.toNat 0x80 ≤ v % 64 + 128 := Nat.le_add_left _ _
  have hhigh : v % 64 + 128 ≤ UInt8.toNat 0xBF := by
    change _ ≤ 191
    omega
  exact follow_tail hlow hhigh bs value bytes

/-- A first byte and the bytes that follow it. -/
lemma step_of_bounds {b : UInt8} {bs : List (UInt8 × UInt8)} (hb : bounds? b = some bs)
    {bytes rest : List UInt8} (h : follow bs (firstBits b bs.length) bytes = (some v, rest)) :
    step b bytes = (some (Char.ofNat v), rest) := by
  simp only [step, hb, h]
  rfl

/-- A character of one byte. -/
lemma step_one (hv : v ≤ 127) (rest : List UInt8) :
    step (UInt8.ofNat v) rest = (some (Char.ofNat v), rest) := by
  have hb : (UInt8.ofNat v).toNat = v := toNat_ofNat (by omega)
  have hbounds : bounds? (UInt8.ofNat v) = some [] := by
    rw [bounds?_eq, hb, if_pos (by omega)]
  refine step_of_bounds hbounds ?_
  rw [List.length_nil, firstBits, follow, hb]

/-- A character of two bytes. -/
lemma step_two (hlow : 127 < v) (hhigh : v ≤ 2047) (rest : List UInt8) :
    step (UInt8.ofNat (v / 64 % 32 + 192)) (tail v :: rest) = (some (Char.ofNat v), rest) := by
  have hb : (UInt8.ofNat (v / 64 % 32 + 192)).toNat = v / 64 % 32 + 192 := toNat_ofNat (by omega)
  have hbounds : bounds? (UInt8.ofNat (v / 64 % 32 + 192)) = some [continuation] := by
    rw [bounds?_eq, hb, if_neg (by omega), if_neg (by omega), if_pos (by omega)]
  have hvalue : 64 * ((v / 64 % 32 + 192) % 32) + v % 64 = v := by omega
  refine step_of_bounds hbounds ?_
  rw [follow_continuation, List.length_singleton, firstBits, follow, hb, hvalue]

/-- The first of three bytes leaves room for the second. -/
lemma exists_bounds_three (hlow : 2047 < v) (hhigh : v ≤ 65535) (hv : v < 55296 ∨ 57343 < v) :
    ∃ low high : UInt8, bounds? (UInt8.ofNat (v / 4096 % 16 + 224)) =
      some [(low, high), continuation] ∧
      low.toNat ≤ v / 64 % 64 + 128 ∧ v / 64 % 64 + 128 ≤ high.toNat := by
  have hb : (UInt8.ofNat (v / 4096 % 16 + 224)).toNat = v / 4096 % 16 + 224 :=
    toNat_ofNat (by omega)
  rw [bounds?_eq, hb, if_neg (by omega), if_neg (by omega), if_neg (by omega)]
  -- The narrower bounds leave out values that need fewer bytes, and the surrogates.
  by_cases hfirst : v / 4096 % 16 + 224 = 224
  · refine ⟨0xA0, 0xBF, if_pos hfirst, ?_, ?_⟩
    · change 160 ≤ _
      omega
    · change _ ≤ 191
      omega
  rw [if_neg hfirst]
  by_cases hsurrogate : v / 4096 % 16 + 224 = 237
  · refine ⟨0x80, 0x9F, if_pos hsurrogate, Nat.le_add_left _ _, ?_⟩
    change _ ≤ 159
    omega
  rw [if_neg hsurrogate, if_pos (by omega)]
  refine ⟨0x80, 0xBF, rfl, Nat.le_add_left _ _, ?_⟩
  change _ ≤ 191
  omega

/-- A character of three bytes. -/
lemma step_three (hlow : 2047 < v) (hhigh : v ≤ 65535) (hv : v < 55296 ∨ 57343 < v)
    (rest : List UInt8) :
    step (UInt8.ofNat (v / 4096 % 16 + 224)) (tail (v / 64) :: tail v :: rest) =
      (some (Char.ofNat v), rest) := by
  have hb : (UInt8.ofNat (v / 4096 % 16 + 224)).toNat = v / 4096 % 16 + 224 :=
    toNat_ofNat (by omega)
  obtain ⟨low, high, hbounds, hsecond⟩ := exists_bounds_three hlow hhigh hv
  have hvalue : 64 * (64 * ((v / 4096 % 16 + 224) % 16) + v / 64 % 64) + v % 64 = v := by omega
  refine step_of_bounds hbounds ?_
  rw [follow_tail hsecond.1 hsecond.2, follow_continuation, List.length_cons,
    List.length_singleton, firstBits, follow, hb, hvalue]

/-- The first of four bytes leaves room for the second. -/
lemma exists_bounds_four (hlow : 65535 < v) (hv : v < 1114112) :
    ∃ low high : UInt8, bounds? (UInt8.ofNat (v / 262144 % 8 + 240)) =
      some [(low, high), continuation, continuation] ∧
      low.toNat ≤ v / 4096 % 64 + 128 ∧ v / 4096 % 64 + 128 ≤ high.toNat := by
  have hb : (UInt8.ofNat (v / 262144 % 8 + 240)).toNat = v / 262144 % 8 + 240 :=
    toNat_ofNat (by omega)
  rw [bounds?_eq, hb, if_neg (by omega), if_neg (by omega), if_neg (by omega),
    if_neg (by omega), if_neg (by omega), if_neg (by omega)]
  -- The narrower bounds leave out values that need fewer bytes, and those above the last one.
  by_cases hfirst : v / 262144 % 8 + 240 = 240
  · refine ⟨0x90, 0xBF, if_pos hfirst, ?_, ?_⟩
    · change 144 ≤ _
      omega
    · change _ ≤ 191
      omega
  rw [if_neg hfirst]
  by_cases hbetween : v / 262144 % 8 + 240 < 244
  · refine ⟨0x80, 0xBF, if_pos hbetween, Nat.le_add_left _ _, ?_⟩
    change _ ≤ 191
    omega
  rw [if_neg hbetween, if_pos (by omega)]
  refine ⟨0x80, 0x8F, rfl, Nat.le_add_left _ _, ?_⟩
  change _ ≤ 143
  omega

/-- A character of four bytes. -/
lemma step_four (hlow : 65535 < v) (hv : v < 1114112) (rest : List UInt8) :
    step (UInt8.ofNat (v / 262144 % 8 + 240))
      (tail (v / 4096) :: tail (v / 64) :: tail v :: rest) = (some (Char.ofNat v), rest) := by
  have hb : (UInt8.ofNat (v / 262144 % 8 + 240)).toNat = v / 262144 % 8 + 240 :=
    toNat_ofNat (by omega)
  obtain ⟨low, high, hbounds, hsecond⟩ := exists_bounds_four hlow hv
  have hvalue : 64 * (64 * (64 * ((v / 262144 % 8 + 240) % 8) + v / 4096 % 64) + v / 64 % 64) +
      v % 64 = v := by omega
  have hbits : firstBits (UInt8.ofNat (v / 262144 % 8 + 240)) 3 = (v / 262144 % 8 + 240) % 8 :=
    congrArg (· % 8) hb
  refine step_of_bounds hbounds ?_
  rw [follow_tail hsecond.1 hsecond.2, follow_continuation, follow_continuation,
    List.length_cons, List.length_cons, List.length_singleton, hbits, follow, hvalue]

/-- The bytes of a character. -/
lemma utf8EncodeChar_eq (c : Char) :
    String.utf8EncodeChar c =
      if c.toNat ≤ 127 then [UInt8.ofNat c.toNat]
      else if c.toNat ≤ 2047 then [UInt8.ofNat (c.toNat / 64 % 32 + 192), tail c.toNat]
      else if c.toNat ≤ 65535 then
        [UInt8.ofNat (c.toNat / 4096 % 16 + 224), tail (c.toNat / 64), tail c.toNat]
      else
        [UInt8.ofNat (c.toNat / 262144 % 8 + 240), tail (c.toNat / 4096), tail (c.toNat / 64),
          tail c.toNat] :=
  rfl

/-- The bytes of a character are read back as the character. -/
lemma step_utf8EncodeChar (c : Char) :
    ∃ b bytes, String.utf8EncodeChar c = b :: bytes ∧
      ∀ rest, step b (bytes ++ rest) = (some c, rest) := by
  have hvalid : c.toNat < 55296 ∨ 57343 < c.toNat ∧ c.toNat < 1114112 := c.valid
  have hc : Char.ofNat c.toNat = c := Char.ofNat_toNat c
  rw [utf8EncodeChar_eq]
  by_cases hone : c.toNat ≤ 127
  · rw [if_pos hone]
    exact ⟨_, _, rfl, fun rest => (step_one hone rest).trans (by rw [hc])⟩
  by_cases htwo : c.toNat ≤ 2047
  · rw [if_neg hone, if_pos htwo]
    exact ⟨_, _, rfl, fun rest => (step_two (Nat.not_le.mp hone) htwo rest).trans (by rw [hc])⟩
  by_cases hthree : c.toNat ≤ 65535
  · rw [if_neg hone, if_neg htwo, if_pos hthree]
    have hv : c.toNat < 55296 ∨ 57343 < c.toNat := hvalid.imp_right And.left
    exact ⟨_, _, rfl, fun rest =>
      (step_three (Nat.not_le.mp htwo) hthree hv rest).trans (by rw [hc])⟩
  · rw [if_neg hone, if_neg htwo, if_neg hthree]
    exact ⟨_, _, rfl, fun rest =>
      (step_four (Nat.not_le.mp hthree) (by omega) rest).trans (by rw [hc])⟩

/-! ## Whole texts -/

/-- The bytes of a text are cut into those of its characters. -/
lemma steps_encode (t : Text) : steps (encode t) = t.map some := by
  induction t with
  | nil => rw [encode, List.flatMap_nil, steps, List.map_nil]
  | cons c t ih =>
    obtain ⟨b, bytes, hc, hstep⟩ := step_utf8EncodeChar c
    have hencode : encode (c :: t) = b :: (bytes ++ encode t) := by
      rw [encode, List.flatMap_cons, hc]
      rfl
    rw [hencode, steps, hstep, ih, List.map_cons]

/-- The bytes of a text are read back as the text. -/
lemma decode?_encode (t : Text) : decode? (encode t) = some t := by
  rw [decode?, steps_encode]
  induction t with
  | nil => rfl
  | cons c t ih => rw [List.map_cons, List.mapM_cons, ih]; rfl

/-- The bytes of a text are shown as the text. -/
lemma decodeLossy_encode (t : Text) : decodeLossy (encode t) = t := by
  rw [decodeLossy, steps_encode, List.map_map]
  exact List.map_id t

/-- No two texts have the same bytes. -/
lemma encode_injective {t u : Text} (h : encode t = encode u) : t = u := by
  rw [← Option.some_inj, ← decode?_encode t, h, decode?_encode]

/-- The bytes of two texts are those of the one after those of the other. -/
lemma encode_append (t u : Text) : encode (t ++ u) = encode t ++ encode u :=
  List.flatMap_append

/-- The byte of a line end is no part of another character. -/
lemma lineEnd_not_mem_utf8EncodeChar {c : Char} (hc : c ≠ '\n') :
    10 ∉ String.utf8EncodeChar c := by
  have hbyte : ∀ {n : ℕ}, n < 256 → (10 : UInt8) = UInt8.ofNat n → n = 10 := by
    intro n hn heq
    rw [← toNat_ofNat hn, ← heq]
    rfl
  -- Every byte of a character of several bytes has its highest bit set.
  have hhigh : ∀ {n : ℕ}, 128 ≤ n → n < 256 → (10 : UInt8) ≠ UInt8.ofNat n := by
    intro n hlow hn heq
    have := hbyte hn heq
    omega
  have htail : ∀ v : ℕ, (10 : UInt8) ≠ tail v := fun v => hhigh (by omega) (by omega)
  rw [utf8EncodeChar_eq]
  split
  · next hone =>
    rw [List.mem_singleton]
    intro heq
    have hvalue : c.toNat = ('\n').toNat := hbyte (by omega) heq
    exact hc (Char.toNat_inj.mp hvalue)
  split
  · simp only [List.mem_cons, List.not_mem_nil, htail, or_self, or_false]
    exact hhigh (by omega) (by omega)
  split
  · simp only [List.mem_cons, List.not_mem_nil, htail, or_self, or_false]
    exact hhigh (by omega) (by omega)
  · simp only [List.mem_cons, List.not_mem_nil, htail, or_self, or_false]
    exact hhigh (by omega) (by omega)

/-- The byte of a line end is not among those of a text without line ends. -/
lemma lineEnd_not_mem_encode {t : Text} (ht : '\n' ∉ t) : 10 ∉ encode t := by
  rw [encode, List.mem_flatMap]
  rintro ⟨c, hc, hmem⟩
  exact lineEnd_not_mem_utf8EncodeChar (fun heq => ht (heq ▸ hc)) hmem

end Utf8

/-- A path that is a text is shown as it is. -/
lemma Path.shown_ofText (t : Text) : Path.shown (Path.ofText t) = t :=
  Utf8.decodeLossy_encode t

/-! ## Lines of bytes -/

namespace Grep

variable {bytes : List UInt8}

/-- Bytes up to a line end are a line. -/
lemma byteLines_append (h : 10 ∉ bytes) (rest : List UInt8) :
    byteLines (bytes ++ 10 :: rest) = (bytes ++ [10]) :: byteLines rest := by
  induction bytes with
  | nil => rw [List.nil_append, byteLines, if_pos rfl, List.nil_append]
  | cons b bytes ih =>
    rw [List.mem_cons, not_or] at h
    rw [List.cons_append, byteLines, if_neg (Ne.symm h.1), ih h.2, List.cons_append]

/-- Bytes without a line end are a line, unless there are none. -/
lemma byteLines_of_not_mem (h : 10 ∉ bytes) (hne : bytes ≠ []) : byteLines bytes = [bytes] := by
  induction bytes with
  | nil => exact absurd rfl hne
  | cons b bytes ih =>
    rw [List.mem_cons, not_or] at h
    rw [byteLines, if_neg (Ne.symm h.1)]
    cases bytes with
    | nil => rfl
    | cons b' bytes => rw [ih h.2 (List.cons_ne_nil _ _)]

/-- The bytes of lines, of which only the last may lack its end, are cut into those of each line. -/
lemma byteLines_encode {lines : List Text} {last : Text} (hlines : ∀ t ∈ lines, '\n' ∉ t)
    (hlast : '\n' ∉ last) :
    byteLines (Utf8.encode (lines.flatMap Text.line ++ last)) =
      lines.map (fun t => Utf8.encode (Text.line t)) ++
        if last = [] then [] else [Utf8.encode last] := by
  induction lines with
  | nil =>
    rw [List.flatMap_nil, List.nil_append, List.map_nil, List.nil_append]
    split
    · next hnil => rw [hnil]; rfl
    · next hne =>
      exact byteLines_of_not_mem (Utf8.lineEnd_not_mem_encode hlast) fun hnil =>
        hne (Utf8.encode_injective hnil)
  | cons t lines ih =>
    obtain ⟨ht, hlines⟩ := List.forall_mem_cons.mp hlines
    have hline : Utf8.encode (Text.line t) = Utf8.encode t ++ [10] := Utf8.encode_append t ['\n']
    rw [List.flatMap_cons, List.append_assoc, Utf8.encode_append, hline, List.append_assoc,
      List.singleton_append, byteLines_append (Utf8.lineEnd_not_mem_encode ht), ih hlines,
      List.map_cons, List.cons_append, hline]

end Grep

end CommandShell
